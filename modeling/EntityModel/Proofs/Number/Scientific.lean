import EntityModel.Literal.Floating
import EntityModel.Proofs.Number.Shortest

/-!
The scientific form of a magnitude has few enough digits for a literal, an exponent of few enough
digits, and denotes a number that is rounded to the magnitude.
-/

set_option autoImplicit false

namespace EntityModel

open EntityModel.Text

namespace Scientific

/-- The number without its sign. -/
def magnitude (s : Scientific) : ℚ :=
  digitsValue s.digits * 10 ^ (s.exponent + 1 - s.digits.length)

/-- A scientific form that fits a literal of a format and stands for a rank. -/
structure Spells (format : FloatFormat) (rank : Nat) (s : Scientific) : Prop where
  digits : Digits s.digits
  filled : s.digits ≠ []
  short : s.digits.length ≤ format.decimalDigits
  exponent_lt : s.exponent.natAbs < 10 ^ format.form.maxExponentDigits
  leadsBack : ∀ num den : Nat, 0 < den → (num : ℚ) / den = s.magnitude →
    format.nearestRank num den = rank

end Scientific

section Digits

/-- A power of ten trimmed is a single digit. -/
theorem toDigits_pow (k : Nat) : Nat.toDigits 10 (10 ^ k) = '1' :: List.replicate k '0' := by
  have more : ¬ (Nat.toDigits 10 (10 ^ k)).length ≤ k := by
    rcases Nat.eq_zero_or_pos k with rfl | positive
    · decide
    · rw [Nat.length_toDigits_le_iff (by decide) positive]
      exact Nat.lt_irrefl _
  have le : (Nat.toDigits 10 (10 ^ k)).length ≤ k + 1 :=
    (Nat.length_toDigits_le_iff (by decide) (Nat.succ_pos k)).2
      (Nat.pow_lt_pow_right (by decide) (Nat.lt_succ_self k))
  -- Both sides are runs of `k + 1` digits for one number.
  refine (digits_toDigits _).eq_of_value ?_ ?_ ?_
  · exact digits_cons_iff.2 ⟨rfl, digits_replicate_zero k⟩
  · simp only [List.length_cons, List.length_replicate]
    omega
  · rw [digitsValue_toDigits, digitsValue_cons, digitsValue_replicate, List.length_replicate]
    simp [digitsValue, Nat.ofDigitChars]

theorem length_trimRight_toDigits_le {n digits : Nat} (positive : 0 < digits)
    (le : n ≤ 10 ^ digits) : (trimRight (Nat.toDigits 10 n)).length ≤ digits := by
  rcases Nat.lt_or_eq_of_le le with lt | rfl
  · exact Nat.le_trans (length_trimRight_le _)
      ((Nat.length_toDigits_le_iff (by decide) positive).2 lt)
  · have single := trimRight_append_zeros ['1'] digits
    rw [toDigits_pow]
    rw [List.singleton_append] at single
    rw [single]
    exact positive

theorem length_toDigits_of_range {n k : Nat} (le : 10 ^ k ≤ n) (ge : n ≤ 10 ^ (k + 1)) :
    (Nat.toDigits 10 n).length = k + 1 ∨ (Nat.toDigits 10 n).length = k + 2 := by
  have more : ¬ (Nat.toDigits 10 n).length ≤ k := by
    rcases Nat.eq_zero_or_pos k with rfl | positive
    · have := Nat.length_toDigits_pos (b := 10) (n := n)
      omega
    · rw [Nat.length_toDigits_le_iff (by decide) positive]
      omega
  have short : (Nat.toDigits 10 n).length ≤ k + 2 := by
    rw [Nat.length_toDigits_le_iff (by decide) (Nat.succ_pos _)]
    exact Nat.lt_of_le_of_lt ge (Nat.pow_lt_pow_right (by decide) (Nat.lt_succ_self _))
  omega

end Digits

namespace FloatFormat

variable {format : FloatFormat} {rank : Nat}

/-- A power of ten that no number of the format reaches. -/
def exponentLimit (format : FloatFormat) : Nat := 10 ^ format.form.maxExponentDigits - 2

theorem units_lt (small : rank < format.rankLimit) :
    format.units rank < 10 ^ format.exponentLimit * 2 ^ format.unitPower := by
  have significand_lt := format.significand_lt rank
  rw [two_mul_binade] at significand_lt
  have shift_le : format.shift rank ≤ 2 ^ format.exponentBits - 3 := by
    have lt : rank / format.binade < 2 ^ format.exponentBits - 1 :=
      (Nat.div_lt_iff_lt_mul format.binade_pos).2 small
    unfold shift
    omega
  calc format.units rank
    _ < 2 ^ format.precision * 2 ^ format.shift rank :=
      Nat.mul_lt_mul_of_pos_right significand_lt (Nat.two_pow_pos _)
    _ ≤ 2 ^ format.precision * 2 ^ (2 ^ format.exponentBits - 3) :=
      Nat.mul_le_mul_left _ (Nat.pow_le_pow_right Nat.two_pos shift_le)
    _ ≤ 10 ^ format.exponentLimit * 2 ^ format.unitPower := by
      cases format <;> decide +kernel

theorem leadingExponent_range (positive : rank ≠ 0) (small : rank < format.rankLimit) :
    -(format.exponentLimit : Int) ≤
        leadingExponent (format.units rank) (2 ^ format.unitPower) ∧
      leadingExponent (format.units rank) (2 ^ format.unitPower) < format.exponentLimit := by
  have num_pos := format.units_pos positive
  have den_pos : 0 < 2 ^ format.unitPower := Nat.two_pow_pos _
  obtain ⟨low, high⟩ := leadingExponent_spec num_pos den_pos
  have den_pos' : (0 : ℚ) < (2 ^ format.unitPower : Nat) := Nat.cast_pos.2 den_pos
  have coarse : 2 ^ format.unitPower ≤ 10 ^ format.exponentLimit := by
    cases format <;> decide +kernel
  have ten_lt : (1 : ℚ) < 10 := by norm_num
  constructor
  · have ge : (10 : ℚ) ^ (-(format.exponentLimit : Int)) ≤
        format.units rank / (2 ^ format.unitPower : Nat) := by
      rw [zpow_neg, zpow_natCast, le_div_iff₀ den_pos', inv_mul_le_iff₀ (by positivity)]
      exact_mod_cast Nat.le_trans coarse (Nat.le_mul_of_pos_right _ num_pos)
    have lt := (zpow_lt_zpow_iff_right₀ ten_lt).1 (lt_of_le_of_lt ge high)
    omega
  · have lt : (format.units rank / (2 ^ format.unitPower : Nat) : ℚ) <
        10 ^ (format.exponentLimit : Int) := by
      rw [zpow_natCast, div_lt_iff₀ den_pos']
      exact_mod_cast units_lt small
    exact (zpow_lt_zpow_iff_right₀ ten_lt).1 (lt_of_le_of_lt low lt)

end FloatFormat

namespace Scientific

variable {format : FloatFormat}

theorem spells_zero (negative : Bool) : Spells format 0 ⟨negative, ['0'], 0⟩ := by
  constructor
  case digits => exact digits_cons_iff.2 ⟨rfl, digits_nil⟩
  case filled => simp
  case short => exact format.decimalDigits_pos
  case exponent_lt => exact Nat.pow_pos (by decide)
  case leadsBack =>
    intro num den den_pos same
    have den_ne : (den : ℚ) ≠ 0 := Nat.cast_ne_zero.2 (Nat.ne_of_gt den_pos)
    have zero : num = 0 := by
      have value : digitsValue ['0'] = 0 := rfl
      rw [magnitude, value, Nat.cast_zero, zero_mul, div_eq_zero_iff] at same
      exact Nat.cast_eq_zero.1 (same.resolve_right den_ne)
    rw [zero, FloatFormat.nearestRank_zero den_pos]

/-- Trimmed digits denote the same number. -/
theorem magnitude_trimmed (negative : Bool) (x : ScaledNat) :
    magnitude ⟨negative, trimRight (Nat.toDigits 10 x.coefficient),
      x.exponent + (Nat.toDigits 10 x.coefficient).length - 1⟩ = x.toRat := by
  have value := digitsValue_trimRight (Nat.toDigits 10 x.coefficient)
  have le := length_trimRight_le (Nat.toDigits 10 x.coefficient)
  rw [digitsValue_toDigits] at value
  rw [magnitude, ScaledNat.toRat]
  dsimp only
  generalize (Nat.toDigits 10 x.coefficient).length = full at *
  generalize (trimRight (Nat.toDigits 10 x.coefficient)).length = cut at *
  have exponent : x.exponent + full - 1 + 1 - cut = ((full - cut : Nat) : Int) + x.exponent := by
    omega
  rw [exponent, zpow_add₀ (by norm_num), zpow_natCast, ← mul_assoc]
  congr 1
  exact_mod_cast value.symm

/-- The scientific form of a rank fits a literal and stands for the rank. -/
theorem spells_ofRank (negative : Bool) {rank : Nat} (small : rank < format.rankLimit) :
    Spells format rank (ofRank format negative rank) := by
  by_cases zero : rank = 0
  · rw [ofRank, if_pos zero, zero]
    exact spells_zero negative
  have found : FloatFormat.IsShortest format rank (format.shortest rank) :=
    FloatFormat.isShortest_shortest zero
  obtain ⟨leadsBack, digits, digits_pos, digits_le, neighbour⟩ := found
  have num_pos := format.units_pos zero
  have den_pos : 0 < 2 ^ format.unitPower := Nat.two_pow_pos _
  obtain ⟨coefficient_ge, coefficient_le⟩ := neighbour.range num_pos den_pos digits_pos
  have place := neighbour.exponent
  obtain ⟨leading_ge, leading_lt⟩ := FloatFormat.leadingExponent_range zero small
  rw [ofRank, if_neg zero]
  dsimp only
  -- From here on it does not matter how the digits were found.
  have same := magnitude_trimmed negative (format.shortest rank)
  generalize format.shortest rank = x at *
  have run := digits_toDigits x.coefficient
  constructor
  case digits => exact run.trimRight
  case filled =>
    intro empty
    dsimp only at empty
    have value := digitsValue_trimRight (Nat.toDigits 10 x.coefficient)
    have nothing : digitsValue [] = 0 := rfl
    rw [digitsValue_toDigits, empty, nothing, Nat.zero_mul] at value
    have := Nat.pow_pos (n := digits - 1) (show 0 < 10 by decide)
    omega
  case short =>
    exact Nat.le_trans (length_trimRight_toDigits_le digits_pos coefficient_le) digits_le
  case exponent_lt =>
    have length := length_toDigits_of_range coefficient_ge
      (by rwa [Nat.sub_add_cancel digits_pos])
    rw [FloatFormat.lastPlace] at place
    dsimp only
    unfold FloatFormat.exponentLimit at leading_ge leading_lt
    omega
  case leadsBack =>
    intro num den den_pos' quotient
    rw [← leadsBack]
    refine format.nearestRank_congr den_pos' x.ratio_pos ?_
    rw [same, ← x.ratio_eq_toRat, div_eq_div_iff] at quotient
    · exact_mod_cast quotient
    · exact_mod_cast Nat.ne_of_gt den_pos'
    · exact_mod_cast Nat.ne_of_gt x.ratio_pos

end Scientific

end EntityModel
