import EntityModel.Number.Decimal

/-!
Binary floating-point numbers in single and double precision, by exact arithmetic on natural
numbers.

The finite magnitudes of a format are ranked in ascending order, and the rank is the number that the
standard layout writes into the bits below the sign. Every finite magnitude is a multiple of one
unit, the least positive magnitude; `units` says of rank `r` which multiple. Rounding goes to the
nearest magnitude, a tie to the even rank.
-/

set_option autoImplicit false

namespace EntityModel

inductive FloatFormat where
  | single
  | double
  deriving DecidableEq, Repr

namespace FloatFormat

def precision : FloatFormat → Nat
  | single => 24
  | double => 53

/-- The unit of the format is two to the minus this power. -/
def unitPower : FloatFormat → Nat
  | single => 149
  | double => 1074

def exponentBits : FloatFormat → Nat
  | single => 8
  | double => 11

/-- How many significands share one exponent. -/
def binade (format : FloatFormat) : Nat := 2 ^ (format.precision - 1)

/-- The rank that stands for infinity: one more than the largest finite rank. -/
def rankLimit (format : FloatFormat) : Nat := (2 ^ format.exponentBits - 1) * format.binade

/-- Bits of the layout, the sign included. -/
def width (format : FloatFormat) : Nat := format.exponentBits + format.precision

/-- The power of two by which the significand of a rank is shifted. -/
def shift (format : FloatFormat) (rank : Nat) : Nat := rank / format.binade - 1

def significand (format : FloatFormat) (rank : Nat) : Nat :=
  rank - format.shift rank * format.binade

/-- The magnitude of a rank in units of the format. -/
def units (format : FloatFormat) (rank : Nat) : Nat :=
  format.significand rank * 2 ^ format.shift rank

def magnitude (format : FloatFormat) (rank : Nat) : Rat :=
  (format.units rank : Rat) / ((2 ^ format.unitPower : Nat) : Rat)

/-- Decimal digits that suffice to tell every number of the format from its neighbours. -/
def decimalDigits : FloatFormat → Nat
  | single => 9
  | double => 17

/-- The largest magnitude up to which every whole number belongs to the format. -/
def exactIntegerLimit (format : FloatFormat) : Nat := 2 ^ format.precision

end FloatFormat

/-- The quotient rounded to the nearest whole number, a tie to the even one. -/
def divNearestEven (a b : Nat) : Nat :=
  if 2 * (a % b) < b then a / b
  else if b < 2 * (a % b) then a / b + 1
  else a / b + a / b % 2

namespace FloatFormat

/-- The rank nearest to `num / den`. A quotient that is nearest to no finite magnitude gets a rank
of at least `rankLimit`. -/
def nearestRank (format : FloatFormat) (num den : Nat) : Nat :=
  let scaled := num * 2 ^ format.unitPower
  let shift := (scaled / den).log2 + 1 - format.precision
  shift * format.binade + divNearestEven scaled (den * 2 ^ shift)

end FloatFormat

/-- A number of the format. Not-a-number carries neither sign nor payload. -/
inductive Floating (format : FloatFormat) where
  | nan
  | infinity (negative : Bool)
  | finite (negative : Bool) (rank : Fin format.rankLimit)
  deriving DecidableEq

namespace Floating

variable {format : FloatFormat}

def isFinite : Floating format → Bool
  | finite _ _ => true
  | _ => false

/-- The number of the given sign and rank, infinity from `rankLimit` on. -/
def ofRank (format : FloatFormat) (negative : Bool) (rank : Nat) : Floating format :=
  if h : rank < format.rankLimit then finite negative ⟨rank, h⟩ else infinity negative

/-- The number nearest to `num / den` with the given sign. -/
def nearest (format : FloatFormat) (negative : Bool) (num den : Nat) : Floating format :=
  ofRank format negative (format.nearestRank num den)

/-- The number nearest to a rational number; zero is positive. -/
def ofRat (format : FloatFormat) (x : Rat) : Floating format :=
  nearest format (x.num < 0) x.num.natAbs x.den

/-- The number nearest to what a numeral denotes. A negative zero keeps its sign. -/
def ofNumeral (format : FloatFormat) (n : Numeral) : Floating format :=
  nearest format n.negative n.ratio.1 n.ratio.2

/-- The rational number that a finite number denotes, zero for the others. -/
def toRat : Floating format → Rat
  | finite negative rank => (if negative then -1 else 1) * format.magnitude rank
  | _ => 0

def convert (target : FloatFormat) : Floating format → Floating target
  | nan => nan
  | infinity negative => infinity negative
  | finite negative rank => nearest target negative (format.units rank) (2 ^ format.unitPower)

def toBits : Floating format → Nat
  | nan => format.rankLimit + format.binade / 2
  | infinity negative => signBit negative + format.rankLimit
  | finite negative rank => signBit negative + rank
where
  /-- The value of the sign's bit. -/
  signBit (negative : Bool) : Nat := if negative then 2 ^ (format.width - 1) else 0

/-- The number of a bit pattern. Every pattern above that of infinity is not-a-number. -/
def ofBits (format : FloatFormat) (bits : Nat) : Floating format :=
  let rank := bits % 2 ^ (format.width - 1)
  if rank ≤ format.rankLimit then ofRank format (bits / 2 ^ (format.width - 1) % 2 = 1) rank
  else nan

end Floating

namespace Decimal

/-- A rational number rounded to double precision. Used for magnitudes far below the overflow limit.
-/
def roundDouble (x : Rat) : Rat := (Floating.ofRat .double x).toRat

/-- The nearest whole number of a rational number that is not negative, halves going up. -/
def roundHalfUp (x : Rat) : Rat := (x + 1 / 2).floor

/-- The magnitude of a decimal before its last rounding to double precision. Whole part and fraction
are converted apart, the fraction is divided by its power of ten, and the sum is rounded to as many
decimal places as the scale asks for, each step in double precision. -/
def doubleMagnitude (coefficient scale : Nat) : Rat :=
  let power := 10 ^ scale
  let fraction := roundDouble (roundDouble (coefficient % power : Nat) / roundDouble power)
  if fraction = 0 then (coefficient / power : Nat)
  else
    let sum := roundDouble (roundDouble (coefficient / power : Nat) + fraction)
    roundHalfUp (roundDouble (sum * roundDouble power)) / roundDouble power

/-- The number in double precision that stands for a decimal. -/
def toDouble (d : Decimal) : Floating .double :=
  let magnitude := doubleMagnitude d.coefficient.natAbs d.scale
  .nearest .double (d.coefficient < 0) magnitude.num.natAbs magnitude.den

/-- The number in a format that stands for a decimal, by way of double precision. -/
def toFloating (format : FloatFormat) (d : Decimal) : Floating format := d.toDouble.convert format

end Decimal

end EntityModel
