import EntityModel.Number.Floating
import Mathlib.Algebra.Order.Field.Rat
import Mathlib.Data.Nat.Cast.Order.Field
import Mathlib.Tactic.FieldSimp
import Mathlib.Tactic.Linarith
import Mathlib.Tactic.Positivity

/-!
Rounding to the nearest magnitude. A number that is close enough to a magnitude, measured by the
precision of the format, is rounded to it; this needs no look at ties. The boundary between two
exponents takes a case of its own, since the magnitudes lie closer together below it than above.
Whole numbers that the precision has bits for are magnitudes themselves.
-/

set_option autoImplicit false

namespace EntityModel

section Quotients

variable {a b m : Nat}

theorem divNearestEven_eq (low : 2 * (m * b) < 2 * a + b) (high : 2 * a < 2 * (m * b) + b) :
    divNearestEven a b = m := by
  have positive : 0 < b := by
    rcases Nat.eq_zero_or_pos b with zero | positive
    · simp [zero] at low high
    · exact positive
  have parts := Nat.div_add_mod a b
  have rest_lt := Nat.mod_lt a positive
  unfold divNearestEven
  generalize a / b = q at *
  generalize a % b = rest at *
  rw [Nat.mul_comm m b] at low high
  -- The bounds on both sides are strict, so `m` is the quotient or the next number, and no tie.
  rcases Nat.lt_trichotomy m q with below | rfl | above
  · have step : b * (m + 1) ≤ b * q := Nat.mul_le_mul_left b below
    rw [Nat.mul_succ] at step
    omega
  · rw [if_pos (by omega)]
  · have step : b * (q + 1) ≤ b * m := Nat.mul_le_mul_left b above
    have small : m = q + 1 := by
      rcases Nat.lt_or_ge (q + 1) m with far | near
      · have leap : b * (q + 2) ≤ b * m := Nat.mul_le_mul_left b far
        rw [Nat.mul_add] at leap
        omega
      · omega
    subst small
    have grown : b * (q + 1) = b * q + b := Nat.mul_succ b q
    rw [if_neg (by omega), if_pos (by omega)]

/-- Rounding depends on the quotient alone. -/
theorem divNearestEven_mul_left {k : Nat} (positive : 0 < k) (a b : Nat) :
    divNearestEven (k * a) (k * b) = divNearestEven a b := by
  have less (x y : Nat) : k * x < k * y ↔ x < y := Nat.mul_lt_mul_left positive
  simp only [divNearestEven, Nat.mul_div_mul_left _ _ positive, Nat.mul_mod_mul_left,
    Nat.mul_left_comm 2 k, less]

end Quotients

namespace FloatFormat

variable (format : FloatFormat)

theorem precision_pos : 0 < format.precision := by cases format <;> decide

theorem binade_pos : 0 < format.binade := Nat.pow_pos (by decide)

theorem two_mul_binade : 2 * format.binade = 2 ^ format.precision := by
  cases format <;> decide

theorem nearestRank_mul_left {k : Nat} (positive : 0 < k) (num den : Nat) :
    format.nearestRank (k * num) (k * den) = format.nearestRank num den := by
  simp only [nearestRank, Nat.mul_assoc, Nat.mul_div_mul_left _ _ positive,
    divNearestEven_mul_left positive]

/-- Equal quotients have one nearest rank. -/
theorem nearestRank_congr {num den num' den' : Nat} (den_pos : 0 < den) (den_pos' : 0 < den')
    (same : num * den' = num' * den) :
    format.nearestRank num den = format.nearestRank num' den' := by
  rw [← nearestRank_mul_left format den_pos' num den,
    ← nearestRank_mul_left format den_pos num' den', Nat.mul_comm den' num, same,
    Nat.mul_comm den' den, Nat.mul_comm num' den]

section Ranks

variable (rank : Nat)

theorem shift_add_significand :
    format.shift rank * format.binade + format.significand rank = rank := by
  have le : format.shift rank * format.binade ≤ rank :=
    Nat.le_trans (Nat.mul_le_mul_right _ (Nat.sub_le _ 1)) (Nat.div_mul_le_self rank _)
  rw [significand, Nat.add_sub_cancel' le]

theorem significand_lt : format.significand rank < 2 * format.binade := by
  have parts := Nat.div_add_mod rank format.binade
  have rest_lt := Nat.mod_lt rank format.binade_pos
  unfold significand shift
  cases quotient : rank / format.binade with
  | zero =>
    rw [quotient, Nat.mul_zero] at parts
    omega
  | succ q =>
    rw [quotient, Nat.mul_succ, Nat.mul_comm] at parts
    rw [Nat.add_sub_cancel]
    omega

theorem binade_le_significand (shifted : format.shift rank ≠ 0) :
    format.binade ≤ format.significand rank := by
  have parts := Nat.div_add_mod rank format.binade
  unfold significand shift at *
  cases quotient : rank / format.binade with
  | zero => simp [quotient] at shifted
  | succ q =>
    rw [quotient, Nat.mul_succ, Nat.mul_comm] at parts
    rw [Nat.add_sub_cancel]
    omega

end Ranks

section Nearest

variable {format} {num den : Nat}

/-- The shift is the one that leaves as many bits as the precision has, or none is needed. -/
theorem shift_eq {shift : Nat} (den_pos : 0 < den)
    (low : shift = 0 ∨ format.binade * (den * 2 ^ shift) ≤ num)
    (high : num < 2 * format.binade * (den * 2 ^ shift)) :
    (num / den).log2 + 1 - format.precision = shift := by
  have quotient_lt : num / den < 2 ^ (format.precision + shift) := by
    rw [Nat.pow_add, ← two_mul_binade, Nat.div_lt_iff_lt_mul den_pos, Nat.mul_assoc,
      Nat.mul_comm _ den]
    exact high
  have positive := format.precision_pos
  rcases low with rfl | low
  · have le : (num / den).log2 < format.precision ∨ num / den = 0 := by
      rcases Nat.eq_zero_or_pos (num / den) with zero | nonzero
      · exact .inr zero
      · exact .inl ((Nat.log2_lt (Nat.ne_of_gt nonzero)).2 quotient_lt)
    rcases le with le | zero
    · omega
    · rw [zero, Nat.log2_zero]
      omega
  · have le_quotient : 2 ^ (format.precision - 1 + shift) ≤ num / den := by
      rw [Nat.pow_add, Nat.le_div_iff_mul_le den_pos, Nat.mul_assoc, Nat.mul_comm _ den]
      exact low
    have nonzero : num / den ≠ 0 := by
      have := Nat.two_pow_pos (format.precision - 1 + shift)
      omega
    have upper := (Nat.log2_lt nonzero).2 quotient_lt
    have lower := (Nat.le_log2 nonzero).2 le_quotient
    omega

/-- What the nearest rank is, once the shift is known and the number is closer than half a step to a
multiple of the step. -/
theorem nearestRank_eq {shift m : Nat} (den_pos : 0 < den)
    (low : shift = 0 ∨ format.binade * (den * 2 ^ shift) ≤ num * 2 ^ format.unitPower)
    (high : num * 2 ^ format.unitPower < 2 * format.binade * (den * 2 ^ shift))
    (above : 2 * (m * (den * 2 ^ shift)) < 2 * (num * 2 ^ format.unitPower) + den * 2 ^ shift)
    (below : 2 * (num * 2 ^ format.unitPower) < 2 * (m * (den * 2 ^ shift)) + den * 2 ^ shift) :
    format.nearestRank num den = shift * format.binade + m := by
  simp only [nearestRank, shift_eq den_pos low high, divNearestEven_eq above below]

/-- A number whose distance to `m` steps is small relative to them is closer than half a step. -/
theorem half_step {binade m step a : Nat} (m_lt : m < 2 * binade) (step_pos : 0 < step)
    (above : (4 * binade - 1) * (m * step) < 4 * binade * a)
    (below : 4 * binade * a < (4 * binade + 1) * (m * step)) :
    2 * (m * step) < 2 * a + step ∧ 2 * a < 2 * (m * step) + step := by
  have steps_lt : 2 * (m * step) < 4 * binade * step := by
    have := Nat.mul_lt_mul_of_pos_right m_lt step_pos
    rw [Nat.mul_assoc] at this ⊢
    omega
  rw [Nat.sub_mul, Nat.one_mul] at above
  rw [Nat.add_mul, Nat.one_mul] at below
  constructor
  · apply Nat.lt_of_mul_lt_mul_left (a := 4 * binade)
    have expand : 4 * binade * (2 * a + step) = 2 * (4 * binade * a) + 4 * binade * step := by
      rw [Nat.mul_add, Nat.mul_left_comm]
    have double : 4 * binade * (2 * (m * step)) = 2 * (4 * binade * (m * step)) :=
      Nat.mul_left_comm ..
    omega
  · apply Nat.lt_of_mul_lt_mul_left (a := 4 * binade)
    have expand : 4 * binade * (2 * (m * step) + step) =
        2 * (4 * binade * (m * step)) + 4 * binade * step := by
      rw [Nat.mul_add, Nat.mul_left_comm]
    have double : 4 * binade * (2 * a) = 2 * (4 * binade * a) := Nat.mul_left_comm ..
    omega

/-- Below the least magnitude of an exponent the steps are half as long. A number there that is
close to this magnitude is rounded up to it. -/
theorem nearestRank_of_below {shift : Nat} (den_pos : 0 < den)
    (above : (4 * format.binade - 1) * (format.binade * (2 * (den * 2 ^ shift))) <
      4 * format.binade * (num * 2 ^ format.unitPower))
    (small : num * 2 ^ format.unitPower < format.binade * (2 * (den * 2 ^ shift))) :
    format.nearestRank num den = (shift + 1) * format.binade + format.binade := by
  have binade_pos := format.binade_pos
  have step_pos : 0 < den * 2 ^ shift := Nat.mul_pos den_pos (Nat.two_pow_pos shift)
  have close : (4 * format.binade - 1) * (den * 2 ^ shift) <
      2 * (num * 2 ^ format.unitPower) := by
    apply Nat.lt_of_mul_lt_mul_left (a := 2 * format.binade)
    calc 2 * format.binade * ((4 * format.binade - 1) * (den * 2 ^ shift))
      _ = (4 * format.binade - 1) * (format.binade * (2 * (den * 2 ^ shift))) := by
        rw [Nat.mul_left_comm, Nat.mul_left_comm format.binade, Nat.mul_assoc]
      _ < 4 * format.binade * (num * 2 ^ format.unitPower) := above
      _ = 2 * format.binade * (2 * (num * 2 ^ format.unitPower)) := by
        rw [Nat.mul_left_comm (2 * format.binade), ← Nat.mul_assoc 2, ← Nat.mul_assoc 2]
  rw [Nat.sub_mul, Nat.one_mul, Nat.mul_assoc] at close
  have enough : den * 2 ^ shift ≤ format.binade * (den * 2 ^ shift) :=
    Nat.le_mul_of_pos_left _ binade_pos
  rw [Nat.mul_left_comm] at small
  -- It has twice as many of the shorter steps, which is one exponent less.
  have nearest : format.nearestRank num den = shift * format.binade + 2 * format.binade := by
    refine nearestRank_eq den_pos (.inr (by omega)) ?_ ?_ ?_
    · rw [Nat.mul_assoc]
      exact small
    · rw [Nat.mul_assoc]
      omega
    · rw [Nat.mul_assoc]
      omega
  have one_more : (shift + 1) * format.binade = shift * format.binade + format.binade :=
    Nat.succ_mul shift format.binade
  rw [nearest, one_more]
  omega

/-- A number is rounded to a magnitude if its distance to it, relative to the magnitude, is below
half the precision of the format. -/
theorem nearestRank_of_close {rank : Nat} (den_pos : 0 < den)
    (above : (2 ^ (format.precision + 1) - 1) * (format.units rank * den) <
      2 ^ (format.precision + 1) * (num * 2 ^ format.unitPower))
    (below : 2 ^ (format.precision + 1) * (num * 2 ^ format.unitPower) <
      (2 ^ (format.precision + 1) + 1) * (format.units rank * den)) :
    format.nearestRank num den = rank := by
  have rank_eq := format.shift_add_significand rank
  have m_lt := format.significand_lt rank
  have m_ge := format.binade_le_significand rank
  have power : 2 ^ (format.precision + 1) = 4 * format.binade := by
    rw [Nat.pow_succ, ← two_mul_binade]
    omega
  rw [power, units] at above below
  generalize format.shift rank = shift at *
  generalize format.significand rank = m at *
  have steps : m * 2 ^ shift * den = m * (den * 2 ^ shift) := by
    rw [Nat.mul_assoc, Nat.mul_comm den]
  rw [steps] at above below
  have step_pos : 0 < den * 2 ^ shift := Nat.mul_pos den_pos (Nat.two_pow_pos shift)
  obtain ⟨near, near'⟩ := half_step m_lt step_pos above below
  have high : num * 2 ^ format.unitPower < 2 * format.binade * (den * 2 ^ shift) := by
    have le := Nat.mul_le_mul_right (den * 2 ^ shift) (Nat.succ_le_of_lt m_lt)
    rw [Nat.succ_mul] at le
    omega
  rcases Nat.lt_or_ge (num * 2 ^ format.unitPower) (format.binade * (den * 2 ^ shift)) with
    small | low
  · cases shift with
    | zero => rw [← rank_eq, nearestRank_eq den_pos (.inl rfl) high near near']
    | succ shift =>
      have double : den * 2 ^ (shift + 1) = 2 * (den * 2 ^ shift) := by
        rw [Nat.pow_succ, ← Nat.mul_assoc, Nat.mul_comm]
      rw [double] at above near small
      -- Less than half a step below a magnitude and under all of its exponent: it is the least one.
      have least : m = format.binade := by
        have ge := m_ge (Nat.succ_ne_zero shift)
        rcases Nat.lt_or_ge format.binade m with more | le
        · have step := Nat.mul_le_mul_right (2 * (den * 2 ^ shift)) (Nat.succ_le_of_lt more)
          rw [Nat.succ_mul] at step
          omega
        · omega
      subst least
      rw [← rank_eq]
      exact nearestRank_of_below den_pos above small
  · rw [← rank_eq, nearestRank_eq den_pos (.inr low) high near near']

theorem nearestRank_zero (den_pos : 0 < den) : format.nearestRank 0 den = 0 := by
  have step_pos : 0 < den * 2 ^ 0 := Nat.mul_pos den_pos (by decide)
  have high := Nat.mul_pos (Nat.mul_pos Nat.two_pos format.binade_pos) step_pos
  have nearest : format.nearestRank 0 den = 0 * format.binade + 0 := by
    refine nearestRank_eq den_pos (.inl rfl) ?_ (by omega) (by omega)
    rw [Nat.zero_mul]
    exact high
  rw [nearest, Nat.zero_mul]

end Nearest

section Magnitudes

theorem units_pos {rank : Nat} (positive : rank ≠ 0) : 0 < format.units rank := by
  have parts := format.shift_add_significand rank
  have ge := format.binade_le_significand rank
  have binade_pos := format.binade_pos
  refine Nat.mul_pos ?_ (Nat.two_pow_pos _)
  by_cases plain : format.shift rank = 0
  · rw [plain, Nat.zero_mul] at parts
    omega
  · have := ge plain
    omega

theorem units_zero : format.units 0 = 0 := by
  rw [units, significand, Nat.zero_sub, Nat.zero_mul]

/-- A magnitude is rounded to itself. -/
theorem nearestRank_units (rank : Nat) :
    format.nearestRank (format.units rank) (2 ^ format.unitPower) = rank := by
  by_cases zero : rank = 0
  · rw [zero, units_zero, nearestRank_zero (Nat.two_pow_pos _)]
  · have positive : 0 < format.units rank * 2 ^ format.unitPower :=
      Nat.mul_pos (format.units_pos zero) (Nat.two_pow_pos _)
    refine nearestRank_of_close (Nat.two_pow_pos _) ?_ ?_
    · exact Nat.mul_lt_mul_of_pos_right (Nat.sub_lt (Nat.two_pow_pos _) Nat.one_pos) positive
    · exact Nat.mul_lt_mul_of_pos_right (Nat.lt_succ_self _) positive

theorem nearestRank_of_units {rank num den : Nat} (den_pos : 0 < den)
    (same : format.units rank * den = num * 2 ^ format.unitPower) :
    format.nearestRank num den = rank := by
  rw [← format.nearestRank_units rank]
  exact format.nearestRank_congr den_pos (Nat.two_pow_pos _) same.symm

end Magnitudes

section Wholes

/-- A significand of full length and its shift make the rank of their product. -/
theorem units_mul_add {shift m : Nat} (full : format.binade ≤ m) (m_lt : m < 2 * format.binade) :
    format.units (shift * format.binade + m) = m * 2 ^ shift := by
  have quotient : (shift * format.binade + m) / format.binade = shift + 1 := by
    refine Nat.div_eq_of_lt_le ?_ ?_
    · rw [Nat.succ_mul]
      omega
    · rw [Nat.succ_mul, Nat.succ_mul]
      omega
  have shifted : format.shift (shift * format.binade + m) = shift := by
    rw [FloatFormat.shift, quotient, Nat.add_sub_cancel]
  rw [units, significand, shifted, Nat.add_sub_cancel_left]

theorem exists_units_of_significand {shift m : Nat} (full : format.binade ≤ m)
    (m_lt : m < 2 * format.binade) (shift_le : shift ≤ format.unitPower + 1) :
    ∃ rank < format.rankLimit, format.units rank = m * 2 ^ shift := by
  refine ⟨_, ?_, format.units_mul_add full m_lt⟩
  have room : format.unitPower + 3 ≤ 2 ^ format.exponentBits - 1 := by cases format <;> decide
  calc shift * format.binade + m
    _ < (shift + 2) * format.binade := by
      rw [Nat.add_mul]
      omega
    _ ≤ format.rankLimit := Nat.mul_le_mul_right _ (by omega)

/-- Up to the limit every whole number is a magnitude. -/
theorem exists_units_of_whole {n : Nat} (small : n ≤ format.exactIntegerLimit) :
    ∃ rank < format.rankLimit, format.units rank = n * 2 ^ format.unitPower := by
  have binade_pos := format.binade_pos
  rw [exactIntegerLimit, ← two_mul_binade] at small
  rcases Nat.eq_zero_or_pos n with rfl | positive
  · exact ⟨0, Nat.mul_pos (by cases format <;> decide) binade_pos, by
      rw [units_zero, Nat.zero_mul]⟩
  rcases Nat.lt_or_eq_of_le small with below | rfl
  · -- The number is moved up until it has all bits of the precision.
    have nonzero : n ≠ 0 := Nat.ne_of_gt positive
    have precision_pos := format.precision_pos
    have log_lt := (Nat.log2_lt nonzero).2 (format.two_mul_binade ▸ below)
    have room : format.precision ≤ format.unitPower := by cases format <;> decide
    obtain ⟨missing, bits⟩ : ∃ missing, n.log2 + missing = format.precision - 1 :=
      ⟨format.precision - 1 - n.log2, by omega⟩
    have full : format.binade ≤ n * 2 ^ missing := by
      rw [binade, ← bits, Nat.pow_add]
      exact Nat.mul_le_mul_right _ (Nat.log2_self_le nonzero)
    have m_lt : n * 2 ^ missing < 2 * format.binade := by
      have lt := Nat.mul_lt_mul_of_pos_right (Nat.lt_log2_self (n := n)) (Nat.two_pow_pos missing)
      rwa [← Nat.pow_add, Nat.succ_add, bits, Nat.pow_succ'] at lt
    obtain ⟨rank, rank_lt, same⟩ := format.exists_units_of_significand full m_lt
      (show format.unitPower - missing ≤ _ by omega)
    refine ⟨rank, rank_lt, ?_⟩
    rw [same, Nat.mul_assoc, ← Nat.pow_add]
    congr 2
    omega
  · obtain ⟨rank, rank_lt, same⟩ := format.exists_units_of_significand (Nat.le_refl _)
      (by omega) (Nat.le_refl (format.unitPower + 1))
    refine ⟨rank, rank_lt, ?_⟩
    rw [same, Nat.pow_succ, Nat.mul_comm _ 2, ← Nat.mul_assoc, Nat.mul_comm _ 2]

end Wholes

end FloatFormat

/-- A number of a format is converted to itself. -/
theorem Floating.convert_self {format : FloatFormat} (x : Floating format) :
    x.convert format = x := by
  cases x with
  | nan => rfl
  | infinity negative => rfl
  | finite negative rank =>
    rw [convert, nearest, format.nearestRank_units, ofRank, dif_pos rank.isLt]

end EntityModel
