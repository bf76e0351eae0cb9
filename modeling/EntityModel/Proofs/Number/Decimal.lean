import EntityModel.Literal.Spelling
import EntityModel.Proofs.Number.Numeral
import Mathlib.Data.Rat.Cast.Lemmas
import Mathlib.Tactic.FieldSimp

/-!
Decimals and their numerals. Normalising takes away zeros at the end of a fraction and keeps the
number, and the numeral of a decimal keeps to the form of its literals and spells the same decimal.
-/

set_option autoImplicit false

namespace EntityModel.Decimal

open EntityModel.Text

section Stripping

theorem stripZeros_spec (coefficient : Int) (scale : Nat) :
    coefficient = (stripZeros coefficient scale).1 *
      (10 ^ (scale - (stripZeros coefficient scale).2) : Nat) := by
  induction scale generalizing coefficient with
  | zero => simp [stripZeros]
  | succ scale ih =>
    rw [stripZeros]
    split
    · next ends =>
      have le := stripZeros_scale_le (coefficient / 10) scale
      have rest := ih (coefficient / 10)
      rw [Nat.succ_sub le, Nat.pow_succ, Nat.cast_mul, ← mul_assoc, ← rest]
      omega
    · simp

theorem toRat_normalize (d : Decimal) : d.normalize.toRat = d.toRat := by
  have same := stripZeros_spec d.coefficient d.scale
  have le := stripZeros_scale_le d.coefficient d.scale
  have power : 10 ^ d.scale = 10 ^ d.normalize.scale * 10 ^ (d.scale - d.normalize.scale) := by
    rw [← Nat.pow_add]
    exact congrArg (10 ^ ·) (Nat.add_sub_cancel' le).symm
  have whole : d.coefficient =
      d.normalize.coefficient * (10 ^ (d.scale - d.normalize.scale) : Nat) := same
  rw [toRat, toRat, whole, power]
  push_cast
  field_simp

end Stripping

section Moving

variable {n : Numeral} {d : Decimal} {coefficient : Int} {scale : Nat}

theorem ofParts?_eq_some (built : ofParts? coefficient scale = some d) :
    d.coefficient = coefficient ∧ d.scale = scale := by
  rw [ofParts?, Option.dite_none_right_eq_some] at built
  obtain ⟨_, same⟩ := built
  rw [← Option.some.inj same]
  exact ⟨rfl, rfl⟩

theorem ofParts?_eq_none_iff :
    ofParts? coefficient scale = none ↔ 2 ^ 96 ≤ coefficient.natAbs ∨ 28 < scale := by
  simp only [ofParts?, dite_eq_right_iff, reduceCtorEq, imp_false, not_and_or, Nat.not_lt,
    Nat.not_le]

/-- The sign of a numeral does not count for the size of its coefficient. -/
theorem natAbs_coefficient (n : Numeral) :
    (if n.negative then -(n.coefficient : Int) else n.coefficient).natAbs = n.coefficient := by
  split <;> simp

theorem withScale?_self (d : Decimal) : d.withScale? d.scale = some d := by
  rw [withScale?, ofParts?, dif_pos ⟨d.coefficient_lt, d.scale_le⟩]

/-- Without an exponent the point stays. -/
theorem ofNumeral?_of_plain (plain : n.exponent = 0) : ofNumeral? n = ofDigits? n := by
  unfold ofNumeral?
  cases ofDigits? n with
  | none => rfl
  | some d =>
    simp only [Option.bind_some, plain, sub_zero, Int.natCast_nonneg, if_true, Int.toNat_natCast,
      withScale?_self]

/-- Without an exponent a numeral spells a decimal unless its digits or its places are too many. -/
theorem ofNumeral?_eq_none_iff (plain : n.exponent = 0) :
    ofNumeral? n = none ↔ 2 ^ 96 ≤ n.coefficient ∨ 28 < n.fraction.length := by
  rw [ofNumeral?_of_plain plain, ofDigits?, ofParts?_eq_none_iff, natAbs_coefficient]

end Moving

section Numerals

variable (d : Decimal)

theorem toNumeral_text : d.toNumeral.whole ++ d.toNumeral.fraction =
    padded (d.scale + 1) d.coefficient.natAbs :=
  List.take_append_drop _ _

theorem length_padded_scale : d.scale + 1 ≤ (padded (d.scale + 1) d.coefficient.natAbs).length ∧
    (padded (d.scale + 1) d.coefficient.natAbs).length ≤ d.scale + 29 := by
  have below : d.coefficient.natAbs < 10 ^ 29 := Nat.lt_trans d.coefficient_lt (by decide)
  have short := (Nat.length_toDigits_le_iff (b := 10) (by decide) (by decide)).2 below
  rw [length_padded]
  omega

theorem length_fraction_toNumeral : d.toNumeral.fraction.length = d.scale := by
  have length := d.length_padded_scale
  simp only [toNumeral, List.length_drop]
  omega

theorem coefficient_toNumeral : d.toNumeral.coefficient = d.coefficient.natAbs := by
  rw [Numeral.coefficient, toNumeral_text, digitsValue_padded]

theorem toNumeral_follows : d.toNumeral.Follows form := by
  have length := d.length_padded_scale
  have scale_le := d.scale_le
  have digits := digits_padded (d.scale + 1) d.coefficient.natAbs
  constructor
  case whole_digits => exact digits.take _
  case whole_filled =>
    simp only [toNumeral, List.length_take]
    omega
  case whole_short =>
    simp only [toNumeral, List.length_take, form]
    omega
  case fraction_digits => exact digits.drop _
  case fraction_short =>
    rw [length_fraction_toNumeral]
    exact Nat.le_trans scale_le (by decide)
  case exponent_digits => exact digits_nil
  case exponent_short => exact Nat.zero_le _
  case exponent_signed => exact fun _ => rfl

theorem read?_positionalText :
    Numeral.read? form d.toNumeral.positionalText = some d.toNumeral := by
  rw [← Numeral.fullText_of_no_exponent rfl]
  exact Numeral.read?_fullText d.toNumeral_follows

theorem ofNumeral?_toNumeral : ofNumeral? d.toNumeral = some d := by
  have signed : (if d.toNumeral.negative then -(d.toNumeral.coefficient : Int)
      else d.toNumeral.coefficient) = d.coefficient := by
    rw [coefficient_toNumeral]
    simp only [toNumeral, decide_eq_true_eq]
    split <;> omega
  have plain : d.toNumeral.exponent = 0 := by
    simp [Numeral.exponent, toNumeral, digitsValue, Nat.ofDigitChars]
  rw [ofNumeral?_of_plain plain, ofDigits?, signed, length_fraction_toNumeral, ofParts?,
    dif_pos ⟨d.coefficient_lt, d.scale_le⟩]

end Numerals

end EntityModel.Decimal
