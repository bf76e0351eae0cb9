import EntityModel.Proofs.Number.Exactness

/-!
How many decimal digits a number needs. This is a property of the number: the digits of a numeral,
without the zeros in front and at the end, are as many as its number needs on either side of the
point.
-/

set_option autoImplicit false

namespace EntityModel

open EntityModel.Text

/-- A number has at most so many digits after the point. -/
def HasPlaces (count : Nat) (q : ℚ) : Prop := ∃ whole : ℤ, q * 10 ^ count = whole

/-- A number has at most so many digits. Those in front of the point are counted from the first one
that is not zero, those after it up to the last one. -/
def HasDigits (count : Nat) (q : ℚ) : Prop :=
  ∃ before after : Nat, before + after ≤ count ∧ |q| < 10 ^ before ∧ HasPlaces after q

theorem HasPlaces.neg {count : Nat} {q : ℚ} (places : HasPlaces count q) :
    HasPlaces count (-q) := by
  obtain ⟨whole, moved⟩ := places
  exact ⟨-whole, by rw [neg_mul, moved, Int.cast_neg]⟩

theorem hasPlaces_abs_iff {count : Nat} {q : ℚ} : HasPlaces count |q| ↔ HasPlaces count q := by
  rcases abs_choice q with same | opposite
  · rw [same]
  · rw [opposite]
    refine ⟨fun places => ?_, HasPlaces.neg⟩
    rw [← neg_neg q]
    exact places.neg

/-- If the last place is not zero, no place can be left out. -/
theorem hasPlaces_iff_le {coefficient places count : Nat}
    (stripped : places = 0 ∨ coefficient % 10 ≠ 0) :
    HasPlaces count (coefficient * 10 ^ (-(places : ℤ))) ↔ places ≤ count := by
  have ten : (10 : ℚ) ≠ 0 := by norm_num
  constructor
  · rintro ⟨whole, moved⟩
    by_contra more
    -- The coefficient would be a multiple of ten.
    have split : places = count + (places - count - 1) + 1 := by omega
    have multiple : (coefficient : ℤ) = 10 ^ (places - count - 1) * whole * 10 := by
      have power : (10 : ℚ) ^ (places : ℤ) = 10 ^ count * 10 ^ (places - count - 1) * 10 := by
        rw [zpow_natCast, ← pow_add, ← pow_succ, ← split]
      rw [zpow_neg, power] at moved
      field_simp at moved
      rw [mul_right_comm] at moved
      exact_mod_cast moved
    omega
  · intro enough
    refine ⟨coefficient * 10 ^ (count - places), ?_⟩
    have power : (10 : ℚ) ^ count = 10 ^ (places : ℤ) * 10 ^ (count - places) := by
      rw [zpow_natCast, ← pow_add, Nat.add_sub_cancel' enough]
    rw [power, ← mul_assoc, mul_assoc (coefficient : ℚ), ← zpow_add₀ ten, neg_add_cancel, zpow_zero,
      mul_one]
    push_cast
    rfl

namespace Numeral

variable {n : Numeral} {count : Nat}

/-- Zeros at the end of the fraction do not count. -/
theorem abs_value_trimmed (plain : n.exponent = 0) :
    |n.value| = digitsValue (n.whole ++ trimRight n.fraction) *
      10 ^ (-((trimRight n.fraction).length : ℤ)) := by
  obtain ⟨zeros, same⟩ := exists_zeros n.fraction
  have length := congrArg List.length same
  simp only [List.length_append, List.length_replicate] at length
  have digits : n.whole ++ n.fraction =
      n.whole ++ trimRight n.fraction ++ List.replicate zeros '0' := by
    rw [List.append_assoc, ← same]
  rw [n.abs_value, coefficient, unitExponent, plain, digits, value_append_zeros]
  congr 2
  omega

theorem hasPlaces_value_iff (follows : n.Follows Decimal.form) :
    HasPlaces count n.value ↔ n.fractionDigits ≤ count := by
  rw [← hasPlaces_abs_iff, abs_value_trimmed (follows.exponent_eq_zero rfl)]
  exact hasPlaces_iff_le (follows.fraction_digits.trimRight_mod_ne n.whole)

/-- The whole part alone tells how great the number is. -/
theorem abs_value_lt_iff (follows : n.Follows Decimal.form) :
    |n.value| < 10 ^ count ↔ (trimLeft n.whole).length ≤ count := by
  -- Counted in units of the last place, the fraction is less than one of the whole part.
  have unit_pos : (0 : ℚ) < 10 ^ n.fraction.length := by positivity
  have rest_lt := follows.fraction_digits.value_lt
  have scaled : |n.value| * 10 ^ n.fraction.length = digitsValue (n.whole ++ n.fraction) := by
    rw [n.abs_value, unitExponent, follows.exponent_eq_zero rfl, zero_sub, zpow_neg, zpow_natCast,
      inv_mul_cancel_right₀ unit_pos.ne']
    rfl
  rw [follows.whole_digits.length_trimLeft_le_iff, ← mul_lt_mul_iff_left₀ unit_pos, scaled,
    digitsValue_append]
  norm_cast
  constructor
  · intro below
    exact Nat.lt_of_mul_lt_mul_right (Nat.lt_of_le_of_lt (Nat.le_add_right _ _) below)
  · intro below
    have next : (digitsValue n.whole + 1) * 10 ^ n.fraction.length ≤
        10 ^ count * 10 ^ n.fraction.length := Nat.mul_le_mul_right _ below
    rw [Nat.add_mul, Nat.one_mul] at next
    omega

/-- A numeral has as many significant digits as its number. -/
theorem hasDigits_value_iff (follows : n.Follows Decimal.form) :
    HasDigits count n.value ↔ n.significantDigits ≤ count := by
  constructor
  · rintro ⟨before, after, within, small, places⟩
    have whole := (abs_value_lt_iff follows).1 small
    have fraction := (hasPlaces_value_iff follows).1 places
    exact Nat.le_trans (Nat.add_le_add whole fraction) within
  · intro within
    exact ⟨_, _, within, (abs_value_lt_iff follows).2 (Nat.le_refl _),
      (hasPlaces_value_iff follows).2 (Nat.le_refl _)⟩

/-- Numerals for one number have equally many digits, however they are spelled. -/
theorem digitCounts_congr {m : Numeral} (n_follows : n.Follows Decimal.form)
    (m_follows : m.Follows Decimal.form) (same : n.value = m.value) :
    n.significantDigits = m.significantDigits ∧ n.fractionDigits = m.fractionDigits := by
  constructor
  · refine eq_of_forall_ge_iff fun count => ?_
    rw [← hasDigits_value_iff n_follows, same, hasDigits_value_iff m_follows]
  · refine eq_of_forall_ge_iff fun count => ?_
    rw [← hasPlaces_value_iff n_follows, same, hasPlaces_value_iff m_follows]

end Numeral

end EntityModel
