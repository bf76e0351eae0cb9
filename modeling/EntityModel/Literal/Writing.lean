import EntityModel.Literal.Reading

/-!
Writing values as literals of primitive kinds. A value may be held in any host type that denotes a
value of the kind; the literal that is written keeps to the facets.
-/

set_option autoImplicit false

namespace EntityModel

open EntityModel.Text

/-- A value with the name of its host type, as errors on numbers show it. -/
def Value.tagged (value : Value) : String :=
  let content : List Char :=
    match value with
    | .integer _ n => Text.integer n.val
    | .decimal d => d.toNumeral.positionalText
    | .floating _ x => x.exactText
    | _ => []
  s!"{value.hostType.name}({String.ofList content})"

namespace PrimitiveKind

def unwritable (kind : PrimitiveKind) (value : Value) : ConversionError :=
  .unsupportedValue kind.qualifiedName value.hostType

def outOfRange (kind : PrimitiveKind) (value : String) : ConversionError :=
  .outOfRange kind.qualifiedName value

/-- The integer that a value holds, in the range of the width. -/
def writeInteger (width : IntegerWidth) (value : Value) : Except ConversionError (List Char) :=
  match value with
  | .integer _ n =>
    if width.Contains n.val then .ok (Text.integer n.val)
    else .error ((integer width).outOfRange (String.ofList (Text.integer n.val)))
  | _ => .error ((integer width).unwritable value)

/-- The decimal that a number denotes. A floating-point number denotes what its shortest digits
spell. -/
def toDecimal (value : Value) : Except ConversionError Decimal :=
  match value with
  | .integer _ n => .ok n.toDecimal
  | .decimal d => .ok d
  | .floating _ x =>
    match Decimal.ofFloating? x with
    | some d => .ok d
    | none => .error (decimal.outOfRange (String.ofList x.positionalText))
  | _ => .error (decimal.unwritable value)

/-- The numeral of a decimal without zeros at its end. It is checked like a literal. -/
def writeDecimal (facets : Facets) (value : Value) : Except ConversionError (List Char) := do
  let d ← toDecimal value
  let literal := d.normalize.toNumeral.positionalText
  decimal.check facets (String.ofList literal)
  return literal

/-- The floating-point number that a number denotes. Numbers that the format would round are out of
range, decimals excepted whose digits are the shortest ones of the rounded number. -/
def toFloating (format : FloatFormat) (value : Value) : Except ConversionError (Floating format) :=
  let refused := .error ((floating format).outOfRange value.tagged)
  match value with
  | .integer _ n =>
    if n.val.natAbs ≤ format.exactIntegerLimit then .ok (.ofInt format n.val) else refused
  | .floating source x =>
    let rounded := x.convert format
    if rounded.convert source = x then .ok rounded else refused
  | .decimal d =>
    match d.toFloating format with
    | .finite negative rank =>
      match Decimal.ofNumeral? (Scientific.ofRank format negative rank).toNumeral with
      | some back => if back.toRat = d.toRat then .ok (.finite negative rank) else refused
      | none => refused
    | _ => refused
  | _ => .error ((floating format).unwritable value)

/-- Nanoseconds of a duration, or of a decimal that counts seconds. -/
def toNanos (value : Value) : Except ConversionError Int :=
  match value with
  | .duration length => .ok length.nanos
  | .decimal seconds =>
    match seconds.scaledInt? 9 with
    | some nanos => .ok nanos
    | none => .error (duration.outOfRange seconds.text)
  | _ => .error (duration.unwritable value)

def writeDuration (facets : Facets) (value : Value) : Except ConversionError (List Char) := do
  let nanos ← toNanos value
  checkPrecision duration facets
    (Calendar.writeFraction (nanos.natAbs % nanosPerSecond)).tail.length
  return durationLiteral nanos

/-- The literal of a value in a kind, as a list of characters. -/
def writeText (kind : PrimitiveKind) (facets : Facets) (value : Value) :
    Except ConversionError (List Char) :=
  match kind, value with
  | binary, .bytes octets => do
    checkLength binary facets octets.length
    return octetsLiteral octets
  | boolean, .bool b => .ok (boolLiteral b)
  | date, .date day => .ok day.literal
  | date, .dateTimeOffset instant => .ok instant.localDate.literal
  | dateTimeOffset, .dateTimeOffset instant => do
    checkPrecision dateTimeOffset facets instant.localTime.fractionLength
    return instant.literal
  | decimal, value => writeDecimal facets value
  | floating format, value => (toFloating format value).map Floating.literal
  | duration, value => writeDuration facets value
  | guid, .uuid id => .ok id.text
  | integer width, value => writeInteger width value
  | string, .string text => do
    string.check facets text
    return text.toList
  | timeOfDay, .timeOfDay time => do
    checkPrecision timeOfDay facets time.fractionLength
    return time.literal
  | kind, value => .error (kind.unwritable value)

def write (kind : PrimitiveKind) (facets : Facets) (value : Value) :
    Except ConversionError String :=
  (kind.writeText facets value).map String.ofList

end PrimitiveKind

end EntityModel
