import EntityModel.Proofs.Number.Decimal
import EntityModel.Proofs.Number.Shortest
import Mathlib.Tactic.Ring

/-!
The number that a numeral denotes, and decimals that keep it: the digits give a coefficient and a
scale, an exponent moves the point, and zeros are appended one by one where the point moves beyond
the last digit. No step changes the number by anything but a power of ten.
-/

set_option autoImplicit false

namespace EntityModel

open EntityModel.Text

/-- The number with a sign and a magnitude. -/
def signed (negative : Bool) (magnitude : ℚ) : ℚ := if negative then -magnitude else magnitude

theorem abs_signed (negative : Bool) {magnitude : ℚ} (nonneg : 0 ≤ magnitude) :
    |signed negative magnitude| = magnitude := by
  cases negative <;> simp [signed, abs_of_nonneg nonneg]

theorem signed_mul (negative : Bool) (first second : ℚ) :
    signed negative (first * second) = signed negative first * second := by
  cases negative <;> simp [signed]

@[simp, norm_cast] theorem cast_signed (negative : Bool) (n : Nat) :
    ((if negative then -(n : Int) else n : Int) : ℚ) = signed negative n := by
  cases negative <;> simp [signed]

/-- Zeros at the end move the last place. -/
theorem value_append_zeros (text : List Char) (count : Nat) (exponent : Int) :
    (digitsValue (text ++ List.replicate count '0') : ℚ) * 10 ^ exponent =
      digitsValue text * 10 ^ (exponent + count) := by
  rw [digitsValue_append, digitsValue_replicate, List.length_replicate, Nat.add_zero,
    zpow_add₀ (by norm_num), zpow_natCast, mul_comm ((10 : ℚ) ^ exponent)]
  push_cast
  exact mul_assoc ..

/-- The magnitude of a numeral is its digits as one whole number, moved by the exponent and by the
digits after the point. -/
theorem Numeral.ratio_eq (n : Numeral) : (n.ratio.1 : ℚ) / n.ratio.2 =
    digitsValue (n.whole ++ n.fraction) * 10 ^ (n.exponent - n.fraction.length) :=
  ScaledNat.ratio_eq_toRat ⟨n.coefficient, n.unitExponent⟩

theorem Numeral.value_eq (n : Numeral) :
    n.value = signed n.negative
      (digitsValue (n.whole ++ n.fraction) * 10 ^ (n.exponent - n.fraction.length)) := by
  rw [Numeral.value, n.ratio_eq, signed]
  split <;> simp

theorem Numeral.value_of_whole (negative : Bool) (digits : List Char) :
    Numeral.value { negative, whole := digits } = signed negative (digitsValue digits) := by
  have exponent : Numeral.exponent { negative, whole := digits } = 0 := rfl
  simp [Numeral.value_eq, exponent]

theorem Numeral.abs_value (n : Numeral) : |n.value| = n.coefficient * 10 ^ n.unitExponent := by
  rw [n.value_eq]
  exact abs_signed _ (mul_nonneg (Nat.cast_nonneg _) (zpow_nonneg (by norm_num) _))

namespace Decimal

variable {d e : Decimal} {n : Numeral}

theorem toRat_eq (d : Decimal) : d.toRat = d.coefficient * 10 ^ (-(d.scale : Int)) := by
  rw [toRat, zpow_neg, zpow_natCast, div_eq_mul_inv]
  push_cast
  rfl

/-- Moving the point multiplies by a power of ten. -/
theorem toRat_withScale? {scale : Nat} (moved : d.withScale? scale = some e) :
    e.toRat = d.toRat * 10 ^ ((d.scale : Int) - scale) := by
  obtain ⟨coefficient, scale_eq⟩ := ofParts?_eq_some moved
  rw [toRat_eq, toRat_eq, coefficient, scale_eq, mul_assoc, ← zpow_add₀ (by norm_num)]
  congr 2
  omega

theorem toRat_timesTen? (multiplied : d.timesTen? = some e) : e.toRat = d.toRat * 10 := by
  obtain ⟨coefficient, scale⟩ := ofParts?_eq_some multiplied
  rw [toRat_eq, toRat_eq, coefficient, scale]
  push_cast
  ring

theorem toRat_appendZeros? {count : Nat} (appended : appendZeros? count d = some e) :
    e.toRat = d.toRat * 10 ^ (count : Int) := by
  induction count generalizing d with
  | zero =>
    cases appended
    simp
  | succ count ih =>
    obtain ⟨next, multiplied, rest⟩ := Option.bind_eq_some_iff.1 appended
    rw [ih rest, toRat_timesTen? multiplied, zpow_natCast, zpow_natCast, pow_succ]
    ring

theorem toRat_ofDigits? (read : ofDigits? n = some d) :
    d.scale = n.fraction.length ∧
      d.toRat = signed n.negative (n.coefficient * 10 ^ (-(n.fraction.length : Int))) := by
  obtain ⟨coefficient, scale⟩ := ofParts?_eq_some read
  refine ⟨scale, ?_⟩
  rw [toRat_eq, coefficient, scale, cast_signed, signed_mul]

/-- A decimal that a numeral spells is the number that the numeral denotes. -/
theorem toRat_ofNumeral? (read : ofNumeral? n = some d) : d.toRat = n.value := by
  obtain ⟨digits, digits_read, moved⟩ := Option.bind_eq_some_iff.1 read
  obtain ⟨scale, value⟩ := toRat_ofDigits? digits_read
  -- Both ways of moving the point come to the power of ten that the exponent asks for.
  suffices shifted : d.toRat = digits.toRat * 10 ^ n.exponent by
    rw [shifted, value, ← signed_mul, mul_assoc, ← zpow_add₀ (by norm_num), Numeral.value_eq,
      Numeral.coefficient]
    congr 3
    omega
  dsimp only at moved
  split at moved
  next fits =>
    rw [toRat_withScale? moved]
    congr 2
    omega
  next beyond =>
    obtain ⟨whole, whole_moved, appended⟩ := Option.bind_eq_some_iff.1 moved
    rw [toRat_appendZeros? appended, toRat_withScale? whole_moved, mul_assoc,
      ← zpow_add₀ (by norm_num)]
    congr 2
    omega

theorem value_toNumeral (d : Decimal) : d.toNumeral.value = d.toRat :=
  (toRat_ofNumeral? d.ofNumeral?_toNumeral).symm

theorem value_normalize (d : Decimal) : d.normalize.toNumeral.value = d.toRat :=
  d.normalize.value_toNumeral.trans d.toRat_normalize

/-- A decimal that is a whole number is this number. -/
theorem toRat_of_toInt? {whole : Int} (found : d.toInt? = some whole) : d.toRat = whole := by
  rw [toInt?, Option.ite_none_right_eq_some] at found
  obtain ⟨divides, same⟩ := found
  obtain rfl := Option.some.inj same
  have positive : ((10 ^ d.scale : Nat) : ℚ) ≠ 0 := by positivity
  rw [toRat, div_eq_iff positive]
  exact_mod_cast (Int.ediv_mul_cancel (Int.dvd_of_emod_eq_zero divides)).symm

theorem toInt?_of_toRat {whole : Int} (same : d.toRat = whole) : d.toInt? = some whole := by
  have positive : ((10 ^ d.scale : Nat) : ℚ) ≠ 0 := by positivity
  rw [toRat, div_eq_iff positive] at same
  have product : d.coefficient = whole * (10 ^ d.scale : Nat) := by exact_mod_cast same
  rw [toInt?, if_pos (Int.emod_eq_zero_of_dvd (Dvd.intro_left _ product.symm)), product,
    Int.mul_ediv_cancel _ (by positivity)]

/-- The product with a power of ten is found exactly if it is whole and not too long. -/
theorem scaledInt?_eq_some_iff {power : Nat} {whole : Int} :
    d.scaledInt? power = some whole ↔ d.toRat * 10 ^ power = whole ∧ whole.natAbs < 2 ^ 96 := by
  have positive : ((10 ^ d.scale : Nat) : ℚ) ≠ 0 := by positivity
  have product : d.toRat * 10 ^ power = whole ↔
      d.coefficient * (10 ^ power : Nat) = whole * (10 ^ d.scale : Nat) := by
    rw [toRat, div_mul_eq_mul_div, div_eq_iff positive]
    norm_cast
  rw [product, scaledInt?]
  dsimp only
  rw [Option.ite_none_right_eq_some, Option.ite_none_right_eq_some, Option.some_inj]
  constructor
  · rintro ⟨divides, fits, rfl⟩
    exact ⟨(Int.ediv_mul_cancel (Int.dvd_of_emod_eq_zero divides)).symm, fits⟩
  · rintro ⟨same, fits⟩
    rw [same, Int.mul_ediv_cancel _ (by positivity)]
    exact ⟨Int.mul_emod_left _ _, fits, rfl⟩

section Existence

/-- Zeros can be appended as long as the coefficient does not grow too long. -/
theorem exists_appendZeros? {count : Nat} (fits : d.coefficient.natAbs * 10 ^ count < 2 ^ 96) :
    ∃ e, appendZeros? count d = some e := by
  induction count generalizing d with
  | zero => exact ⟨d, rfl⟩
  | succ count ih =>
    rw [Nat.pow_succ', ← Nat.mul_assoc] at fits
    have next : (d.coefficient * 10).natAbs < 2 ^ 96 := by
      rw [Int.natAbs_mul]
      exact Nat.lt_of_le_of_lt (Nat.le_mul_of_pos_right _ (by positivity)) fits
    have multiplied : d.timesTen? = some ⟨d.coefficient * 10, d.scale, next, d.scale_le⟩ :=
      dif_pos ⟨next, d.scale_le⟩
    rw [appendZeros?, multiplied, Option.bind_some]
    exact ih (by rwa [Int.natAbs_mul])

theorem exists_ofParts? {coefficient : Int} {scale : Nat} (fits : coefficient.natAbs < 2 ^ 96)
    (inPlace : scale ≤ 28) : ∃ d, ofParts? coefficient scale = some d :=
  ⟨_, dif_pos ⟨fits, inPlace⟩⟩

/-- A numeral spells a decimal if its digits make a coefficient and its last digit is not below the
last place, wherever the point stands; the number itself must not be too great. -/
theorem exists_ofNumeral? (digits : n.coefficient < 2 ^ 96) (places : n.fraction.length ≤ 28)
    (last : -28 ≤ n.unitExponent) (small : |n.value| < 2 ^ 96) : ∃ d, ofNumeral? n = some d := by
  obtain ⟨d, digits_read⟩ := exists_ofParts? ((natAbs_coefficient n).trans_lt digits) places
  obtain ⟨coefficient, scale⟩ := ofParts?_eq_some digits_read
  have moved : (d.scale : Int) - n.exponent = -n.unitExponent := by
    rw [scale, Numeral.unitExponent]
    omega
  rw [ofNumeral?, ofDigits?, digits_read, Option.bind_some, moved]
  dsimp only
  split
  next => exact exists_ofParts? d.coefficient_lt (by omega)
  next beyond =>
    obtain ⟨whole, whole_moved⟩ := exists_ofParts? d.coefficient_lt (Nat.zero_le 28)
    rw [withScale?, whole_moved, Option.bind_some]
    refine exists_appendZeros? ?_
    have power : n.unitExponent = ((- -n.unitExponent).toNat : Int) := by omega
    rw [n.abs_value, power, zpow_natCast] at small
    rw [(ofParts?_eq_some whole_moved).1, coefficient, natAbs_coefficient]
    exact_mod_cast small

end Existence

end Decimal

end EntityModel
