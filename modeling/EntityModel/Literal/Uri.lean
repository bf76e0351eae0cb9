import EntityModel.Literal.Spelling
import EntityModel.Octets.Hex

/-!
Literals of primitive kinds inside a URI. Strings stand between single quotes, with quotes in the
text written twice; octets and durations stand in quotes after the name of the kind; all other
literals are written as they are. For octets the older form with hexadecimal digits is read too.
-/

set_option autoImplicit false

namespace EntityModel

open EntityModel.Text

/-- Writes every single quote twice. -/
def doubleQuotes : List Char → List Char
  | [] => []
  | c :: rest => if c = '\'' then '\'' :: '\'' :: doubleQuotes rest else c :: doubleQuotes rest

/-- Reads what `doubleQuotes` writes; a quote that stands alone is refused. -/
def undoubleQuotes? : List Char → Option (List Char)
  | [] => some []
  | '\'' :: '\'' :: rest => (undoubleQuotes? rest).map ('\'' :: ·)
  | c :: rest => if c = '\'' then none else (undoubleQuotes? rest).map (c :: ·)

theorem undoubleQuotes?_doubleQuotes (text : List Char) :
    undoubleQuotes? (doubleQuotes text) = some text := by
  induction text with
  | nil => rfl
  | cons c rest ih =>
    by_cases quote : c = '\'' <;> simp [doubleQuotes, undoubleQuotes?, quote, ih]

/-- Reading accepts nothing but what is written. -/
theorem eq_doubleQuotes {body text : List Char} (read : undoubleQuotes? body = some text) :
    body = doubleQuotes text := by
  fun_induction undoubleQuotes? body generalizing text with
  | case1 => simp_all [doubleQuotes]
  | case2 rest ih =>
    obtain ⟨tail, found, rfl⟩ := Option.map_eq_some_iff.1 read
    simp [doubleQuotes, ih found]
  | case3 => simp at read
  | case4 c rest _ quote ih =>
    obtain ⟨tail, found, rfl⟩ := Option.map_eq_some_iff.1 read
    simp [doubleQuotes, quote, ih found]

/-- The digits of the older form `X'...'` for octets. -/
def hexBody? (text : List Char) : Option (List Char) :=
  (enclosed? ['X', '\''] text).or (enclosed? ['x', '\''] text)

namespace PrimitiveKind

/-- The text in front of a literal in a URI, for the kinds whose literals are quoted. -/
def uriOpening? : PrimitiveKind → Option (List Char)
  | string => some ['\'']
  | binary => some ['b', 'i', 'n', 'a', 'r', 'y', '\'']
  | duration => some ['d', 'u', 'r', 'a', 't', 'i', 'o', 'n', '\'']
  | _ => none

def toUriText (kind : PrimitiveKind) (literal : List Char) : List Char :=
  match kind.uriOpening? with
  | none => literal
  | some opening => opening ++ (if kind = string then doubleQuotes literal else literal) ++ ['\'']

def ofUriText? (kind : PrimitiveKind) (text : List Char) : Option (List Char) :=
  match kind.uriOpening? with
  | none => some text
  | some opening =>
    if kind = string then (enclosed? opening text).bind undoubleQuotes?
    else if kind = binary then
      match hexBody? text with
      | some digits => (Octets.Hex.decode? digits).map octetsLiteral
      | none => enclosed? opening text
    else enclosed? opening text

def toUri (kind : PrimitiveKind) (literal : String) : String :=
  String.ofList (kind.toUriText literal.toList)

def ofUri (kind : PrimitiveKind) (uri : String) : Except ConversionError String :=
  match kind.ofUriText? uri.toList with
  | some literal => .ok (String.ofList literal)
  | none => .error (.malformedUri kind.qualifiedName uri)

end PrimitiveKind

end EntityModel
