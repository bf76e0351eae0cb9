import EntityModel.Literal.Facets
import EntityModel.QualifiedName
import EntityModel.Value.Basic

/-!
The sixteen kinds of primitive types: their names, the facets they know, the host types they prefer
and the rules of numeric promotion.
-/

set_option autoImplicit false

namespace EntityModel

inductive PrimitiveKind where
  | binary
  | boolean
  | date
  | dateTimeOffset
  | decimal
  | floating (format : FloatFormat)
  | duration
  | guid
  | integer (width : IntegerWidth)
  | string
  | timeOfDay
  deriving DecidableEq, Repr

namespace PrimitiveKind

/-- All kinds in the order of their names. -/
def all : List PrimitiveKind :=
  [binary, boolean, integer .byte, date, dateTimeOffset, decimal, floating .double, duration, guid,
    integer .int16, integer .int32, integer .int64, integer .sbyte, floating .single, string,
    timeOfDay]

def name : PrimitiveKind → String
  | binary => "Binary"
  | boolean => "Boolean"
  | integer .byte => "Byte"
  | date => "Date"
  | dateTimeOffset => "DateTimeOffset"
  | decimal => "Decimal"
  | floating .double => "Double"
  | duration => "Duration"
  | guid => "Guid"
  | integer .int16 => "Int16"
  | integer .int32 => "Int32"
  | integer .int64 => "Int64"
  | integer .sbyte => "SByte"
  | floating .single => "Single"
  | string => "String"
  | timeOfDay => "TimeOfDay"

def qualifiedName (kind : PrimitiveKind) : QualifiedName := .primitive kind.name

def index (kind : PrimitiveKind) : Nat := all.idxOf kind

def ofName? (name : String) : Option PrimitiveKind := all.find? (·.name == name)

def ofQualifiedName? (q : QualifiedName) : Option PrimitiveKind :=
  if q.isPrimitive then ofName? q.name else none

/-- A kind is found under its own name only. -/
theorem qualifiedName_of_ofQualifiedName? {q : QualifiedName} {kind : PrimitiveKind}
    (found : ofQualifiedName? q = some kind) : kind.qualifiedName = q := by
  obtain ⟨primitive, named⟩ := Option.ite_none_right_eq_some.1 found
  have space : q.space = QualifiedName.primitiveNamespace := by
    simpa [QualifiedName.isPrimitive] using primitive
  have same : kind.name = q.name := by simpa using List.find?_some named
  rw [qualifiedName, QualifiedName.primitive, same, ← space]

def hostType : PrimitiveKind → HostType
  | binary => .bytes
  | boolean => .bool
  | date => .date
  | dateTimeOffset => .dateTimeOffset
  | decimal => .decimal
  | floating format => .floating format
  | duration => .duration
  | guid => .uuid
  | integer width => .integer width
  | string => .string
  | timeOfDay => .timeOfDay

/-- The facets that a kind takes into account. It ignores all others. -/
def knownFacets : PrimitiveKind → List Facet
  | string => [.nullable, .maxLength, .unicode]
  | binary => [.nullable, .maxLength]
  | decimal => [.nullable, .precision, .scale]
  | dateTimeOffset | timeOfDay | duration => [.nullable, .precision]
  | boolean | date | floating _ | guid | integer _ => [.nullable]

def width? : PrimitiveKind → Option IntegerWidth
  | integer width => some width
  | _ => none

/-- Whether values of `other` may stand where values of `kind` are expected. Numbers are promoted
from integers to wider integers and from there to decimals, single and double precision. An octet
without a sign goes into every integer kind but the one with a sign of the same size. -/
def accepts (kind other : PrimitiveKind) : Bool :=
  kind == other ||
    match kind, other with
    | integer wide, integer narrow => decide (wide.Includes narrow)
    | decimal, integer _ => true
    | floating _, integer _ => true
    | floating _, decimal => true
    | floating .double, floating .single => true
    | _, _ => false

end PrimitiveKind

end EntityModel
