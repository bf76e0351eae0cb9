import EntityModel.Number.Floating

/-!
The shortest decimal digits of a floating-point number: as few digits as lead back to the number,
and of those the ones closest to it, the larger magnitude on an exact tie. On the grid of decimals
with a given count of digits only the two neighbours of the number can lead back to it, so the
search tests these for one digit, two digits and so on, by exact arithmetic.
-/

set_option autoImplicit false

namespace EntityModel

open EntityModel.Text

/-- The number `coefficient * 10 ^ exponent`. -/
structure ScaledNat where
  coefficient : Nat
  exponent : Int

namespace ScaledNat

/-- The number as a quotient of natural numbers. -/
def ratio (x : ScaledNat) : Nat × Nat :=
  (x.coefficient * 10 ^ x.exponent.toNat, 10 ^ (-x.exponent).toNat)

end ScaledNat

namespace FloatFormat

/-- The exponent of the leading decimal digit of a positive quotient. -/
def leadingExponent (num den : Nat) : Int :=
  if den ≤ num then ((Nat.toDigits 10 (num / den)).length : Int) - 1
  else -((Nat.toDigits 10 ((den - 1) / num)).length : Int)

/-- The two neighbours of a positive quotient among the decimals with `digits` digits, the nearer
one first. -/
def neighbours (num den digits : Nat) : ScaledNat × ScaledNat :=
  let exponent := leadingExponent num den + 1 - digits
  let a := num * 10 ^ (-exponent).toNat
  let b := den * 10 ^ exponent.toNat
  let low : ScaledNat := ⟨a / b, exponent⟩
  let high : ScaledNat := ⟨a / b + 1, exponent⟩
  if 2 * (a % b) < b then (low, high) else (high, low)

def leadsTo (format : FloatFormat) (rank : Nat) (x : ScaledNat) : Bool :=
  format.nearestRank x.ratio.1 x.ratio.2 == rank

/-- The decimal with `digits` digits that stands for a positive rank, if there is one. -/
def withDigits? (format : FloatFormat) (rank digits : Nat) : Option ScaledNat :=
  let (nearer, farther) := neighbours (format.units rank) (2 ^ format.unitPower) digits
  if format.leadsTo rank nearer then some nearer
  else if format.leadsTo rank farther then some farther
  else none

/-- The shortest decimal for a positive rank. The nearest decimal with `decimalDigits` digits leads
back in any case. -/
def shortest (format : FloatFormat) (rank : Nat) : ScaledNat :=
  ((List.range format.decimalDigits).findSome? fun i => format.withDigits? rank (i + 1)).getD
    (neighbours (format.units rank) (2 ^ format.unitPower) format.decimalDigits).1

end FloatFormat

/-- A number in scientific form, a digit in front of the point and any further digits after it. The
first digit is not zero unless it is the only one. -/
structure Scientific where
  negative : Bool
  digits : List Char
  exponent : Int
  deriving DecidableEq, Repr

namespace Scientific

def ofRank (format : FloatFormat) (negative : Bool) (rank : Nat) : Scientific :=
  if rank = 0 then ⟨negative, ['0'], 0⟩
  else
    let x := format.shortest rank
    let digits := Nat.toDigits 10 x.coefficient
    ⟨negative, trimRight digits, x.exponent + digits.length - 1⟩

/-- The numeral with one digit in front of the point and an exponent. -/
def toNumeral (s : Scientific) : Numeral where
  negative := s.negative
  whole := s.digits.take 1
  fraction := s.digits.drop 1
  exponentNegative := s.exponent < 0
  exponentDigits := Nat.toDigits 10 s.exponent.natAbs

/-- The numeral without exponent, with zeros up to the point where the digits do not reach it. -/
def toPositional (s : Scientific) : Numeral :=
  if s.exponent < 0 then
    { negative := s.negative, whole := ['0'],
      fraction := List.replicate (-s.exponent - 1).toNat '0' ++ s.digits }
  else
    let split := s.exponent.toNat + 1
    { negative := s.negative,
      whole := s.digits.take split ++ List.replicate (split - s.digits.length) '0',
      fraction := s.digits.drop split }

end Scientific

namespace Floating

variable {format : FloatFormat}

/-- A number in positional notation with the shortest digits, without a point where it is whole. -/
def positionalText : Floating format → List Char
  | nan => ['N', 'a', 'N']
  | infinity negative => (if negative then ['-'] else []) ++ ['i', 'n', 'f']
  | finite negative rank => (Scientific.ofRank format negative rank).toPositional.positionalText

/-- A number with the shortest digits, positional with at least one digit after the point for zero
and from `1e-4` below `1e16`, scientific otherwise. -/
def exactText : Floating format → List Char
  | finite negative rank =>
    let s := Scientific.ofRank format negative rank
    if -4 ≤ s.exponent ∧ s.exponent < 16 then
      let n := s.toPositional
      if n.fraction = [] then n.positionalText ++ ['.', '0'] else n.positionalText
    else s.toNumeral.positionalText ++ 'e' :: integer s.exponent
  | x => x.positionalText

end Floating

end EntityModel
