import EntityModel.Number.Width
import EntityModel.Text.Digits

/-!
Numerals: a sign, digits, perhaps digits after a point and perhaps a decimal exponent, as written. A
numeral keeps its spelling; `Numeral.value` is the rational number that it denotes.
-/

set_option autoImplicit false

namespace EntityModel

/-- A spelled number. Without a point `fraction` is empty, without an exponent `exponentDigits` is.
-/
structure Numeral where
  negative : Bool
  whole : List Char
  fraction : List Char := []
  exponentNegative : Bool := false
  exponentDigits : List Char := []
  deriving DecidableEq, Repr

/-- How long the parts of a numeral may be. No exponent may be written where its limit is zero. -/
structure NumeralForm where
  maxDigits : Nat
  maxExponentDigits : Nat

namespace Numeral

open EntityModel.Text

/-- The digits on both sides of the point as one number. -/
def coefficient (n : Numeral) : Nat := digitsValue (n.whole ++ n.fraction)

def exponent (n : Numeral) : Int :=
  if n.exponentNegative then -(digitsValue n.exponentDigits : Int) else digitsValue n.exponentDigits

/-- The power of ten of the last digit. -/
def unitExponent (n : Numeral) : Int := n.exponent - n.fraction.length

/-- The number without its sign as a quotient of natural numbers. -/
def ratio (n : Numeral) : Nat × Nat :=
  (n.coefficient * 10 ^ n.unitExponent.toNat, 10 ^ (-n.unitExponent).toNat)

def value (n : Numeral) : Rat :=
  (if n.negative then -1 else 1) * ((n.ratio.1 : Rat) / (n.ratio.2 : Rat))

/-- Digits of the number that stay when zeros in front of the whole part and after the fraction go.
-/
def significantDigits (n : Numeral) : Nat :=
  (trimLeft n.whole).length + (trimRight n.fraction).length

/-- Digits after the point up to the last one that is not zero. -/
def fractionDigits (n : Numeral) : Nat := (trimRight n.fraction).length

/-- Reads the part of a numeral from its point on, if there is a point. -/
def readFraction? (limit : Nat) : List Char → Option (List Char × List Char)
  | '.' :: rest => readDigits? limit rest
  | text => some ([], text)

/-- Reads the exponent to the end of the text, if the text has not ended. -/
def readExponent? (limit : Nat) : List Char → Option (Bool × List Char)
  | [] => some (false, [])
  | mark :: rest =>
    if mark = 'e' ∨ mark = 'E' then
      let (negative, unsigned) := readSign rest
      match readDigits? limit unsigned with
      | some (digits, []) => some (negative, digits)
      | _ => none
    else none

/-- Reads a numeral of the given form that fills the whole text. -/
def read? (form : NumeralForm) (text : List Char) : Option Numeral := do
  let (negative, unsigned) := readSign text
  let (whole, rest) ← readDigits? form.maxDigits unsigned
  let (fraction, rest) ← readFraction? form.maxDigits rest
  let (exponentNegative, exponentDigits) ← readExponent? form.maxExponentDigits rest
  return { negative, whole, fraction, exponentNegative, exponentDigits }

/-- The sign, digits and point of a numeral without exponent. -/
def positionalText (n : Numeral) : List Char :=
  (if n.negative then ['-'] else []) ++ n.whole ++
    (if n.fraction = [] then [] else '.' :: n.fraction)

end Numeral

end EntityModel
