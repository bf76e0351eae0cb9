import EntityModel.Literal.Duration
import EntityModel.Literal.Error
import EntityModel.Literal.Floating
import EntityModel.Literal.Instant
import EntityModel.Literal.Kind
import EntityModel.Octets.Base64

/-!
What a literal of a primitive kind says, before it is given a host type: the grammar of each kind
reads a text into a spelling, and the facets are checked on it.
-/

set_option autoImplicit false

namespace EntityModel

open EntityModel.Text

/-- Decimal literals have up to 29 digits on each side of the point and no exponent. -/
def Decimal.form : NumeralForm := ⟨29, 0⟩

def SizedInt.read? (width : IntegerWidth) (text : List Char) : Option (SizedInt width) :=
  (readInteger? text).bind (ofInt? width)

/-- Reads octets in either alphabet of base 64. -/
def readOctets? (text : List Char) : Option (List UInt8) :=
  (Octets.Base64.decode? .url text).or (Octets.Base64.decode? .standard text)

/-- The literal of octets, in the alphabet for URLs and without padding. -/
def octetsLiteral (octets : List UInt8) : List Char := Octets.Base64.encode .url octets

def readBool? (text : List Char) : Option Bool :=
  if text = ['t', 'r', 'u', 'e'] then some true
  else if text = ['f', 'a', 'l', 's', 'e'] then some false
  else none

def boolLiteral (b : Bool) : List Char :=
  if b then ['t', 'r', 'u', 'e'] else ['f', 'a', 'l', 's', 'e']

/-- Checks a count against a facet that limits it. -/
def checkLimit (limit : Option Nat) (count : Nat) (excess : Nat → ConversionError) :
    Except ConversionError Unit :=
  match limit with
  | some most => if most < count then .error (excess most) else .ok ()
  | none => .ok ()

namespace PrimitiveKind

/-- What literals of a kind say. -/
def Spelling : PrimitiveKind → Type
  | binary => List UInt8
  | boolean => Bool
  | date => Calendar.CivilDate
  | dateTimeOffset => InstantSpelling
  | decimal => Numeral
  | floating _ => FloatingSpelling
  | duration => DurationSpelling
  | guid => List Char
  | integer width => SizedInt width
  | string => String
  | timeOfDay => Calendar.ClockTime

/-- Reads a literal by the grammar of a kind. -/
def spelling? : (kind : PrimitiveKind) → String → Option kind.Spelling
  | binary, literal => readOctets? literal.toList
  | boolean, literal => readBool? literal.toList
  | date, literal => readDate? literal.toList
  | dateTimeOffset, literal => InstantSpelling.read? literal.toList
  | decimal, literal => Numeral.read? Decimal.form literal.toList
  | floating format, literal => FloatingSpelling.read? format literal.toList
  | duration, literal => DurationSpelling.read? literal.toList
  | guid, literal => if Guid.hasForm literal.toList then some literal.toList else none
  | integer width, literal => SizedInt.read? width literal.toList
  | string, literal => some literal
  | timeOfDay, literal => readTime? literal.toList

def checkLength (kind : PrimitiveKind) (facets : Facets) (length : Nat) :
    Except ConversionError Unit :=
  checkLimit facets.maxLength length (.tooLong kind.qualifiedName length)

def checkPrecision (kind : PrimitiveKind) (facets : Facets) (digits : Nat) :
    Except ConversionError Unit :=
  checkLimit facets.precision digits (.tooManyDigits kind.qualifiedName digits)

def checkScale (kind : PrimitiveKind) (facets : Facets) (digits : Nat) :
    Except ConversionError Unit :=
  checkLimit facets.scale digits (.tooManyFractionDigits kind.qualifiedName digits)

def checkUnicode (kind : PrimitiveKind) (facets : Facets) (text : String) :
    Except ConversionError Unit :=
  if facets.unicode = some false ∧ ¬ text.toList.all (·.toNat < 128) then
    .error (.notAscii kind.qualifiedName)
  else .ok ()

/-- Checks what a literal says against the facets that its kind knows. -/
def checkFacets : (kind : PrimitiveKind) → Facets → kind.Spelling → Except ConversionError Unit
  | binary, facets, octets => checkLength binary facets (List.length octets)
  | dateTimeOffset, facets, instant =>
    checkPrecision dateTimeOffset facets (InstantSpelling.time instant).fractionLength
  | decimal, facets, numeral => do
    checkPrecision decimal facets (Numeral.significantDigits numeral)
    checkScale decimal facets (Numeral.fractionDigits numeral)
  | duration, facets, length =>
    checkPrecision duration facets ((DurationSpelling.fraction length).getD []).length
  | string, facets, text => do
    checkLength string facets (String.length text)
    checkUnicode string facets text
  | timeOfDay, facets, time =>
    checkPrecision timeOfDay facets (Calendar.ClockTime.fractionLength time)
  | boolean, _, _ | date, _, _ | floating _, _, _ | guid, _, _ | integer _, _, _ => .ok ()

/-- The error for a text that the grammar of a kind does not know. -/
def invalid (kind : PrimitiveKind) (literal : String) : ConversionError :=
  .invalidLiteral kind.qualifiedName literal

/-- Checks a literal against the grammar of a kind, then against the facets. -/
def check (kind : PrimitiveKind) (facets : Facets) (literal : String) :
    Except ConversionError Unit :=
  match kind.spelling? literal with
  | none => .error (kind.invalid literal)
  | some spelling => kind.checkFacets facets spelling

end PrimitiveKind

end EntityModel
