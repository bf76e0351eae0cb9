/-!
The classes of errors. Every error of the library belongs to one, and its message begins with the
code of that class.
-/

set_option autoImplicit false

namespace EntityModel

inductive ErrorClass where
  /-- A text does not match its grammar. -/
  | syntaxError
  /-- A value or literal breaks a facet. -/
  | facetViolation
  /-- A host type does not go with the type, or cannot hold the value. -/
  | typeMismatch
  /-- A literal or value of an enumeration does not go with its members. -/
  | content
  /-- A name is not declared. -/
  | undeclaredName
  /-- A declaration breaks a rule of the model. -/
  | invalidModel
  deriving DecidableEq, Repr

def ErrorClass.code : ErrorClass → String
  | syntaxError => "E001"
  | facetViolation => "E002"
  | typeMismatch => "E003"
  | content => "E004"
  | undeclaredName => "E005"
  | invalidModel => "E006"

end EntityModel
