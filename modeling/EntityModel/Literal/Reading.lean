import EntityModel.Literal.Spelling

/-!
Reading literals of primitive kinds into values. A spelling is converted to the host type that is
asked for; a number that the host type cannot hold exactly is refused, never rounded.
-/

set_option autoImplicit false

namespace EntityModel

open EntityModel.Text

def SizedInt.toDecimal {width : IntegerWidth} (n : SizedInt width) : Decimal where
  coefficient := n.val
  scale := 0
  coefficient_lt := Nat.lt_of_lt_of_le n.natAbs_lt (by decide)
  scale_le := Nat.zero_le _

/-- A whole number as a floating-point number, rounded to the nearest. -/
def Floating.ofInt (format : FloatFormat) (n : Int) : Floating format :=
  nearest format (n < 0) n.natAbs 1

/-- The decimal that the shortest digits of a finite floating-point number spell in positional
notation. -/
def Decimal.ofFloating? {format : FloatFormat} : Floating format → Option Decimal
  | .finite negative rank => ofNumeral? (Scientific.ofRank format negative rank).toPositional
  | _ => none

/-- The floating-point number that stands for a decimal, if its shortest digits spell the same
number. -/
def Decimal.toFloating? (format : FloatFormat) (d : Decimal) : Option (Floating format) :=
  let x := d.toFloating format
  match ofFloating? x with
  | some back => if back.toRat = d.toRat then some x else none
  | none => none

namespace PrimitiveKind

/-- The error for a value that the target cannot hold. -/
def misfit (kind : PrimitiveKind) (value : String) (target : HostType) : ConversionError :=
  .doesNotFit kind.qualifiedName value target

def unreadable (kind : PrimitiveKind) (target : HostType) : ConversionError :=
  .unsupportedTarget kind.qualifiedName target

/-- What is there, else the error for a value that the target cannot hold. -/
def orMisfit {α : Type} (kind : PrimitiveKind) (value : String) (target : HostType) :
    Option α → Except ConversionError α
  | some a => .ok a
  | none => .error (kind.misfit value target)

def integerValue (kind : PrimitiveKind) {width : IntegerWidth} (n : SizedInt width)
    (target : HostType) : Except ConversionError Value :=
  let text := String.ofList (Text.integer n.val)
  match target with
  | .integer _ => kind.orMisfit text target (Value.ofInt? n.val target)
  | .decimal => .ok (.decimal n.toDecimal)
  | .floating format =>
    if n.val.natAbs ≤ format.exactIntegerLimit then .ok (.floating format (.ofInt format n.val))
    else .error (kind.misfit text target)
  | _ => .error (kind.unreadable target)

def decimalValue (kind : PrimitiveKind) (d : Decimal) (target : HostType) :
    Except ConversionError Value :=
  match target with
  | .decimal => .ok (.decimal d)
  | .integer _ => kind.orMisfit d.text target (d.toInt?.bind (Value.ofInt? · target))
  | .floating format =>
    kind.orMisfit d.text target ((d.toFloating? format).map (Value.floating format))
  | _ => .error (kind.unreadable target)

/-- A decimal literal in a host type. A numeral beyond the range of decimals is refused as a
decimal, whatever the target is. -/
def decimalLiteralValue (literal : String) (numeral : Numeral) (target : HostType) :
    Except ConversionError Value :=
  match Decimal.ofNumeral? numeral with
  | some d => decimal.decimalValue d target
  | none => .error (decimal.misfit literal .decimal)

def decimalOfSpelling? : FloatingSpelling → Option Decimal
  | .number numeral => Decimal.ofNumeral? numeral
  | _ => none

/-- A floating-point literal in a host type. The literals of double precision denote numbers in
double precision, so single precision holds those alone that it does not change. -/
def floatingLiteralValue (format : FloatFormat) (literal : String) (spelling : FloatingSpelling)
    (target : HostType) : Except ConversionError Value :=
  let kind := floating format
  match target with
  | .floating .double => .ok (.floating .double (spelling.toFloating .double))
  | .floating .single =>
    let narrow := spelling.toFloating .single
    if format = .single ∨ narrow.convert .double = spelling.toFloating .double then
      .ok (.floating .single narrow)
    else .error (kind.misfit literal target)
  | .decimal | .integer _ =>
    match decimalOfSpelling? spelling with
    | some d => kind.decimalValue d target
    | none => .error (kind.misfit literal target)
  | _ => .error (kind.unreadable target)

def dateOf (kind : PrimitiveKind) (literal : String) (civil : Calendar.CivilDate)
    (target : HostType) : Except ConversionError Date :=
  kind.orMisfit literal target (Date.ofCivil? civil)

/-- The time of day that a literal denotes. Its fraction may not go below the nanosecond. -/
def timeOf (kind : PrimitiveKind) (literal : String) (time : Calendar.ClockTime)
    (target : HostType) : Except ConversionError TimeOfDay := do
  let nanos ← kind.orMisfit literal target (Calendar.nanosOfFraction? (time.fraction.getD []))
  match TimeOfDay.ofClock? time.hour time.minute time.second nanos with
  | some time => .ok time
  | none => .error (kind.invalid literal)

/-- A date literal in a host type. As an instant a date begins at midnight in universal time. -/
def dateLiteralValue (literal : String) (civil : Calendar.CivilDate) (target : HostType) :
    Except ConversionError Value :=
  match target with
  | .date => (date.dateOf literal civil target).map .date
  | .dateTimeOffset => do
    let day ← date.dateOf literal civil target
    (date.orMisfit literal target (DateTimeOffset.ofLocal? day .midnight 0)).map .dateTimeOffset
  | _ => .error (date.unreadable target)

def instantLiteralValue (literal : String) (instant : InstantSpelling) (target : HostType) :
    Except ConversionError Value :=
  match target with
  | .dateTimeOffset => do
    let day ← dateTimeOffset.dateOf literal instant.date target
    let time ← dateTimeOffset.timeOf literal instant.time target
    (dateTimeOffset.orMisfit literal target
      (DateTimeOffset.ofLocal? day time instant.offset)).map .dateTimeOffset
  | _ => .error (dateTimeOffset.unreadable target)

def guidLiteralValue (literal : String) (text : List Char) (target : HostType) :
    Except ConversionError Value :=
  match target with
  | .uuid =>
    match Guid.read? text with
    | some id => .ok (.uuid id)
    | none => .error (guid.invalid literal)
  | _ => .error (guid.unreadable target)

def timeLiteralValue (literal : String) (time : Calendar.ClockTime) (target : HostType) :
    Except ConversionError Value :=
  match target with
  | .timeOfDay => (timeOfDay.timeOf literal time target).map .timeOfDay
  | _ => .error (timeOfDay.unreadable target)

/-- A duration literal in a host type. As a decimal a duration counts seconds. -/
def durationLiteralValue (literal : String) (spelling : DurationSpelling) (target : HostType) :
    Except ConversionError Value :=
  let length := spelling.toDuration?
  match target with
  | .duration => duration.orMisfit literal target (length.map .duration)
  | .decimal =>
    duration.orMisfit literal target <|
      (length.bind fun length => Decimal.ofParts? length.nanos 9).map (.decimal ·.normalize)
  | _ => .error (duration.unreadable target)

/-- What a literal says in a host type. -/
def spellingValue : (kind : PrimitiveKind) → (literal : String) → kind.Spelling → HostType →
    Except ConversionError Value
  | binary, _, octets, .bytes => .ok (.bytes octets)
  | binary, _, _, target => .error (binary.unreadable target)
  | boolean, _, b, .bool => .ok (.bool b)
  | boolean, _, _, target => .error (boolean.unreadable target)
  | date, literal, civil, target => dateLiteralValue literal civil target
  | dateTimeOffset, literal, instant, target => instantLiteralValue literal instant target
  | decimal, literal, numeral, target => decimalLiteralValue literal numeral target
  | floating format, literal, spelling, target =>
    floatingLiteralValue format literal spelling target
  | duration, literal, spelling, target => durationLiteralValue literal spelling target
  | guid, literal, text, target => guidLiteralValue literal text target
  | integer width, _, n, target => (integer width).integerValue n target
  | string, _, text, .string => .ok (.string text)
  | string, _, _, target => .error (string.unreadable target)
  | timeOfDay, literal, time, target => timeLiteralValue literal time target

/-- The value of a literal in a host type, whatever the facets are. The text is read by the grammar
on its own account. -/
def valueOf (kind : PrimitiveKind) (literal : String) (target : HostType) :
    Except ConversionError Value :=
  match kind.spelling? literal with
  | none => .error (kind.invalid literal)
  | some spelling => kind.spellingValue literal spelling target

def validates (kind : PrimitiveKind) (facets : Facets) (literal : String) : Bool :=
  match kind.check facets literal with
  | .ok _ => true
  | .error _ => false

/-- Reads a literal into a host type once it is checked. -/
def read (kind : PrimitiveKind) (facets : Facets) (target : HostType) (literal : String) :
    Except ConversionError Value := do
  kind.check facets literal
  kind.valueOf literal target

end PrimitiveKind

end EntityModel
