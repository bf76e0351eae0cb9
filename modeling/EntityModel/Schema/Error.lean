import EntityModel.ErrorClass
import EntityModel.QualifiedName
import EntityModel.Text.Quoted

/-!
Errors of declaring and resolving the types of a model.
-/

set_option autoImplicit false

namespace EntityModel

/-- What a name was looked up for. -/
inductive ReferenceRole where
  | baseType
  | propertyType
  | navigationTarget
  | scalarType
  deriving DecidableEq, Repr

def ReferenceRole.text : ReferenceRole → String
  | baseType => "base type"
  | propertyType => "property type"
  | navigationTarget => "navigation target"
  | scalarType => "literal type"

inductive SchemaError where
  | undeclared (name : QualifiedName) (role : ReferenceRole)
  | cyclicBases (name : QualifiedName)
  | declaredTwice (name : QualifiedName)
  | unusableUnderlying (name underlying : QualifiedName)
  | repeatedMember (name : QualifiedName) (member : String)
  | memberOutOfRange (name : QualifiedName) (member : String) (value : Int64)
  | repeatedElement (name : QualifiedName) (element : String)
  | notScalar (name : QualifiedName)
  deriving DecidableEq

namespace SchemaError

open EntityModel.Text

def kind : SchemaError → ErrorClass
  | undeclared .. => .undeclaredName
  | _ => .invalidModel

/-- What went wrong, without the code of the class. -/
def explanation : SchemaError → String
  | undeclared name role => s!"{role.text} {name} is not declared by the provider"
  | cyclicBases name => s!"base type chain of {name} is cyclic"
  | declaredTwice name => s!"{name} is declared more than once"
  | unusableUnderlying name underlying =>
    s!"enum {name} cannot use {underlying} as underlying type"
  | repeatedMember name member => s!"enum {name} declares member {quoted member} twice"
  | memberOutOfRange name member value =>
    s!"member {quoted member} of enum {name} has value {value.toInt} outside the underlying range"
  | repeatedElement name element => s!"{name} declares element {quoted element} twice"
  | notScalar name => s!"{name} is not a primitive or enum type"

def message (e : SchemaError) : String := s!"[{e.kind.code}] {e.explanation}"

end SchemaError

end EntityModel
