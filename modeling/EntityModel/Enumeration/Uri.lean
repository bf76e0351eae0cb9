import EntityModel.Enumeration.Basic
import EntityModel.Literal.Error
import EntityModel.Text.Digits

/-!
Literals of enumerations inside a URI: the qualified name of the enumeration and the literal between
single quotes, as it is.
-/

set_option autoImplicit false

namespace EntityModel.Enumeration

def toUri (e : Enumeration) (literal : String) : String := e.name.text ++ "'" ++ literal ++ "'"

/-- The literal of a form inside a URI. What stands before the first quote must be the name of the
enumeration. -/
def ofUri (e : Enumeration) (uri : String) : Except ConversionError String :=
  let opening := uri.toList.takeWhile (· ≠ '\'')
  let body := uri.toList.dropWhile (· ≠ '\'')
  match QualifiedName.parts? opening with
  | none => .error (.unqualifiedUri e.name uri)
  | some (space, name) =>
    if String.ofList space ≠ e.name.space then
      .error (.wrongNamespace e.name.space (String.ofList space))
    else if String.ofList name ≠ e.name.name then
      .error (.wrongTypeName e.name.name (String.ofList name))
    else
      match Text.enclosed? ['\''] body with
      | some literal => .ok (String.ofList literal)
      | none => .error (.malformedUri e.name uri)

end EntityModel.Enumeration
