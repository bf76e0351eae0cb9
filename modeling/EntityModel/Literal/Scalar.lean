import EntityModel.Enumeration.Literal
import EntityModel.Enumeration.Uri
import EntityModel.Literal.Uri
import EntityModel.Literal.Writing

/-!
The types whose values have literals, primitive types and enumerations, under one set of operations.
A literal or a value may be absent, which stands for null.
-/

set_option autoImplicit false

namespace EntityModel

inductive ScalarType where
  | primitive (kind : PrimitiveKind)
  | enumeration (type : Enumeration)

namespace ScalarType

def name : ScalarType → QualifiedName
  | primitive kind => kind.qualifiedName
  | enumeration type => type.name

def hostType : ScalarType → HostType
  | primitive kind => kind.hostType
  | enumeration type => type.hostType

/-- What becomes of null. -/
def ofNull {α : Type} (type : ScalarType) (facets : Facets) : Except ConversionError (Option α) :=
  if facets.allowsNull then .ok none else .error (.nullForbidden type.name)

def validates (type : ScalarType) (facets : Facets) : Option String → Bool
  | none => facets.allowsNull
  | some literal =>
    match type with
    | primitive kind => kind.validates facets literal
    | enumeration e => e.validates literal

def read (type : ScalarType) (facets : Facets) (target : HostType) :
    Option String → Except ConversionError (Option Value)
  | none => type.ofNull facets
  | some literal =>
    match type with
    | primitive kind => (kind.read facets target literal).map some
    | enumeration e => (e.read target literal).map some

def readPayload (type : ScalarType) (facets : Facets) (target : HostType)
    (literal : Option String) : Except ConversionError (Option target.Carrier) :=
  match type.read facets target literal with
  | .error reason => .error reason
  | .ok none => .ok none
  | .ok (some value) =>
    match value.extract? target with
    | some payload => .ok (some payload)
    | none => .error (.unsupportedTarget type.name target)

def write (type : ScalarType) (facets : Facets) :
    Option Value → Except ConversionError (Option String)
  | none => type.ofNull facets
  | some value =>
    match type with
    | primitive kind => (kind.write facets value).map some
    | enumeration e => (e.write value).map some

def toUri : ScalarType → String → String
  | primitive kind => kind.toUri
  | enumeration e => e.toUri

def ofUri : ScalarType → String → Except ConversionError String
  | primitive kind => kind.ofUri
  | enumeration e => e.ofUri

end ScalarType

end EntityModel
