import EntityModel.Number.Shortest

/-!
Literals of floating-point numbers. Plain notation is written where the leading digit stands between
the third place after the point and the seventh before it, scientific notation elsewhere; both have
at least one digit after the point.
-/

set_option autoImplicit false

namespace EntityModel

open EntityModel.Text

/-- A floating-point literal as written: a numeral or one of the three special words. -/
inductive FloatingSpelling where
  | nan
  | infinity (negative : Bool)
  | number (numeral : Numeral)
  deriving DecidableEq, Repr

/-- How long numerals of a format may be: as many digits on each side of the point as tell the
numbers of the format apart. -/
def FloatFormat.form : FloatFormat → NumeralForm
  | .single => ⟨FloatFormat.decimalDigits .single, 2⟩
  | .double => ⟨FloatFormat.decimalDigits .double, 3⟩

namespace FloatingSpelling

def toFloating (format : FloatFormat) : FloatingSpelling → Floating format
  | nan => .nan
  | infinity negative => .infinity negative
  | number numeral => .ofNumeral format numeral

/-- Reads a literal of a format. A numeral that the format rounds to infinity is no literal. -/
def read? (format : FloatFormat) (text : List Char) : Option FloatingSpelling :=
  if text = ['N', 'a', 'N'] then some nan
  else if text = ['I', 'N', 'F'] then some (infinity false)
  else if text = ['-', 'I', 'N', 'F'] then some (infinity true)
  else
    match Numeral.read? format.form text with
    | some numeral =>
      if (Floating.ofNumeral format numeral).isFinite then some (number numeral) else none
    | none => none

end FloatingSpelling

namespace Scientific

/-- The leading exponents that are written in plain notation. -/
def HasPlainExponent (s : Scientific) : Prop := -3 ≤ s.exponent ∧ s.exponent ≤ 6

instance (s : Scientific) : Decidable s.HasPlainExponent := by
  unfold HasPlainExponent; infer_instance

/-- Digits after a point, a zero if there are none. -/
def orZero (digits : List Char) : List Char := if digits = [] then ['0'] else digits

/-- The literal of a number in scientific form, with at most `maxDigits` digits on each side of the
point in plain notation. -/
def literal (maxDigits : Nat) (s : Scientific) : List Char :=
  let plain := s.toPositional
  let sign := if s.negative then ['-'] else []
  if s.HasPlainExponent ∧ plain.whole.length ≤ maxDigits ∧
      (orZero plain.fraction).length ≤ maxDigits then
    sign ++ plain.whole ++ '.' :: orZero plain.fraction
  else
    sign ++ s.digits.take 1 ++ '.' :: orZero (s.digits.drop 1) ++ 'E' :: integer s.exponent

end Scientific

def Floating.literal {format : FloatFormat} : Floating format → List Char
  | nan => ['N', 'a', 'N']
  | infinity negative => (if negative then ['-'] else []) ++ ['I', 'N', 'F']
  | finite negative rank => (Scientific.ofRank format negative rank).literal format.decimalDigits

end EntityModel
