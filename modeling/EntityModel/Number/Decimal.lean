import EntityModel.Number.Numeral

/-!
Decimal numbers with a 96-bit coefficient and at most 28 digits after the point. The scale is part
of the value, so `1.5` and `1.50` differ as decimals and agree as numbers. Zero has no sign.
-/

set_option autoImplicit false

namespace EntityModel

/-- The number `coefficient / 10 ^ scale`. -/
structure Decimal where
  coefficient : Int
  scale : Nat
  coefficient_lt : coefficient.natAbs < 2 ^ 96
  scale_le : scale ≤ 28
  deriving DecidableEq

namespace Decimal

open EntityModel.Text

def ofParts? (coefficient : Int) (scale : Nat) : Option Decimal :=
  if h : coefficient.natAbs < 2 ^ 96 ∧ scale ≤ 28 then some ⟨coefficient, scale, h.1, h.2⟩
  else none

def toRat (d : Decimal) : Rat := (d.coefficient : Rat) / ((10 ^ d.scale : Nat) : Rat)

/-- Removes zeros at the end of a coefficient as long as the scale lasts. -/
def stripZeros (coefficient : Int) : Nat → Int × Nat
  | 0 => (coefficient, 0)
  | scale + 1 =>
    if coefficient % 10 = 0 then stripZeros (coefficient / 10) scale else (coefficient, scale + 1)

theorem natAbs_stripZeros_le (coefficient : Int) (scale : Nat) :
    (stripZeros coefficient scale).1.natAbs ≤ coefficient.natAbs := by
  induction scale generalizing coefficient with
  | zero => simp [stripZeros]
  | succ scale ih =>
    rw [stripZeros]
    split
    · exact Nat.le_trans (ih _) (by omega)
    · exact Nat.le_refl _

theorem stripZeros_scale_le (coefficient : Int) (scale : Nat) :
    (stripZeros coefficient scale).2 ≤ scale := by
  induction scale generalizing coefficient with
  | zero => simp [stripZeros]
  | succ scale ih =>
    rw [stripZeros]
    split
    · exact Nat.le_trans (ih _) (by omega)
    · exact Nat.le_refl _

/-- The same number with the least scale. -/
def normalize (d : Decimal) : Decimal where
  coefficient := (stripZeros d.coefficient d.scale).1
  scale := (stripZeros d.coefficient d.scale).2
  coefficient_lt := Nat.lt_of_le_of_lt (natAbs_stripZeros_le _ _) d.coefficient_lt
  scale_le := Nat.le_trans (stripZeros_scale_le _ _) d.scale_le

/-- The numeral with exactly `scale` digits after the point. -/
def toNumeral (d : Decimal) : Numeral :=
  let digits := padded (d.scale + 1) d.coefficient.natAbs
  let split := digits.length - d.scale
  { negative := d.coefficient < 0, whole := digits.take split, fraction := digits.drop split }

/-- The decimal as it is written, with all digits of its scale. -/
def text (d : Decimal) : String := String.ofList d.toNumeral.positionalText

/-- The whole number that a decimal denotes, if its fraction is zero. -/
def toInt? (d : Decimal) : Option Int :=
  if d.coefficient % (10 ^ d.scale : Nat) = 0 then some (d.coefficient / (10 ^ d.scale : Nat))
  else none

/-- The product with a power of ten, if it is a whole number of at most 96 bits. -/
def scaledInt? (d : Decimal) (power : Nat) : Option Int :=
  let product := d.coefficient * (10 ^ power : Nat)
  if product % (10 ^ d.scale : Nat) = 0 then
    let quotient := product / (10 ^ d.scale : Nat)
    if quotient.natAbs < 2 ^ 96 then some quotient else none
  else none

/-- The decimal that the digits of a numeral spell, its exponent left out. The digits as written must
fit: none is rounded away. -/
def ofDigits? (n : Numeral) : Option Decimal :=
  ofParts? (if n.negative then -(n.coefficient : Int) else n.coefficient) n.fraction.length

/-- The same digits with the point at another place. -/
def withScale? (d : Decimal) (scale : Nat) : Option Decimal := ofParts? d.coefficient scale

def timesTen? (d : Decimal) : Option Decimal := ofParts? (d.coefficient * 10) d.scale

/-- Appends zeros to the coefficient, one after another. -/
def appendZeros? : (count : Nat) → Decimal → Option Decimal
  | 0, d => some d
  | count + 1, d => d.timesTen?.bind (appendZeros? count)

/-- The decimal that a numeral spells. The exponent moves the point; where the point moves beyond the
last digit, zeros are appended. -/
def ofNumeral? (n : Numeral) : Option Decimal :=
  (ofDigits? n).bind fun d =>
    let scale := d.scale - n.exponent
    if 0 ≤ scale then d.withScale? scale.toNat
    else (d.withScale? 0).bind (appendZeros? (-scale).toNat)

end Decimal

end EntityModel
