import EntityModel.Number.Shortest
import EntityModel.Proofs.Number.Rounding
import EntityModel.Proofs.Text.Digits
import Mathlib.Data.Rat.Cast.Order
import Mathlib.Tactic.NormNum

/-!
The shortest digits of a magnitude lead back to it. That few digits do is what the search checks; it
remains to see that the decimal of full length that is nearest to a magnitude does so in any case,
since decimals of this length lie closer together than the magnitudes of the format.
-/

set_option autoImplicit false

namespace EntityModel

open EntityModel.Text

theorem ten_zpow (n : Int) : (10 : ℚ) ^ n.toNat / 10 ^ (-n).toNat = 10 ^ n := by
  rcases Int.le_total 0 n with nonneg | nonpos
  · obtain ⟨k, rfl⟩ := Int.eq_ofNat_of_zero_le nonneg
    simp
  · obtain ⟨k, same⟩ := Int.eq_ofNat_of_zero_le (Int.neg_nonneg_of_nonpos nonpos)
    obtain rfl : n = -(k : Int) := by omega
    simp

namespace ScaledNat

/-- The number that a scaled natural number denotes. -/
def toRat (x : ScaledNat) : ℚ := x.coefficient * 10 ^ x.exponent

theorem ratio_pos (x : ScaledNat) : 0 < x.ratio.2 := Nat.pow_pos (by decide)

theorem ratio_eq_toRat (x : ScaledNat) : (x.ratio.1 : ℚ) / x.ratio.2 = x.toRat := by
  rw [toRat, ← ten_zpow x.exponent, ratio]
  push_cast
  rw [mul_div_assoc]

end ScaledNat

namespace FloatFormat

section Leading

variable {num den : Nat}

/-- A positive number with `k + 1` digits lies between two powers of ten. -/
theorem pow_le_of_length {n k : Nat} (positive : 0 < n)
    (length : (Nat.toDigits 10 n).length = k + 1) : 10 ^ k ≤ n ∧ n < 10 ^ (k + 1) := by
  refine ⟨?_, (Nat.length_toDigits_le_iff (by decide) (Nat.succ_pos k)).1 (Nat.le_of_eq length)⟩
  cases k with
  | zero => exact positive
  | succ k =>
    rw [← Nat.not_lt, ← Nat.length_toDigits_le_iff (by decide) (Nat.succ_pos k)]
    omega

/-- The leading exponent is the one of the power of ten at or below the quotient. -/
theorem leadingExponent_spec (num_pos : 0 < num) (den_pos : 0 < den) :
    (10 : ℚ) ^ leadingExponent num den ≤ num / den ∧
      (num / den : ℚ) < 10 ^ (leadingExponent num den + 1) := by
  have den_pos' : (0 : ℚ) < den := Nat.cast_pos.2 den_pos
  unfold leadingExponent
  split
  next le =>
    -- From one on, the digits of the whole part are counted.
    have positive : 0 < num / den := Nat.div_pos le den_pos
    obtain ⟨k, length⟩ := Nat.exists_eq_succ_of_ne_zero
      (List.length_pos_iff.2 (Nat.toDigits_ne_nil (n := num / den) (b := 10))).ne'
    obtain ⟨low, high⟩ := pow_le_of_length positive length
    rw [length]
    rw [Nat.le_div_iff_mul_le den_pos] at low
    rw [Nat.div_lt_iff_lt_mul den_pos] at high
    have exponent : ((k.succ : Nat) : Int) - 1 = (k : Int) := by omega
    rw [exponent, ← Nat.cast_succ, zpow_natCast, zpow_natCast, le_div_iff₀ den_pos',
      div_lt_iff₀ den_pos']
    exact_mod_cast And.intro low high
  next lt =>
    -- Below one, those of the whole part of the inverse are; one less in it makes a power of ten
    -- count with the numbers above it.
    have positive : 0 < (den - 1) / num := Nat.div_pos (by omega) num_pos
    obtain ⟨k, length⟩ := Nat.exists_eq_succ_of_ne_zero
      (List.length_pos_iff.2 (Nat.toDigits_ne_nil (n := (den - 1) / num) (b := 10))).ne'
    obtain ⟨low, high⟩ := pow_le_of_length positive length
    rw [length]
    rw [Nat.le_div_iff_mul_le num_pos] at low
    rw [Nat.div_lt_iff_lt_mul num_pos] at high
    have below : 10 ^ k * num < den := by omega
    have above : den ≤ 10 ^ (k + 1) * num := by omega
    have exponent : -((k.succ : Nat) : Int) + 1 = -(k : Int) := by omega
    rw [exponent, zpow_neg, zpow_neg, zpow_natCast, zpow_natCast, le_div_iff₀ den_pos',
      div_lt_iff₀ den_pos']
    constructor
    · rw [inv_mul_le_iff₀ (by positivity)]
      exact_mod_cast above
    · rw [lt_inv_mul_iff₀ (by positivity)]
      exact_mod_cast below

end Leading

section Neighbours

variable {num den digits : Nat}

/-- The place of the last digit when a quotient is written with `digits` digits. -/
def lastPlace (num den digits : Nat) : Int := leadingExponent num den + 1 - digits

/-- The quotient in units of the last place, as a numerator and a denominator. -/
def placed (num den digits : Nat) : Nat × Nat :=
  (num * 10 ^ (-lastPlace num den digits).toNat, den * 10 ^ (lastPlace num den digits).toNat)

/-- A decimal next to a quotient, among those with `digits` digits. -/
structure IsNeighbour (num den digits : Nat) (x : ScaledNat) : Prop where
  exponent : x.exponent = lastPlace num den digits
  coefficient : x.coefficient = (placed num den digits).1 / (placed num den digits).2 ∨
    x.coefficient = (placed num den digits).1 / (placed num den digits).2 + 1

theorem placed_pos (num digits : Nat) (den_pos : 0 < den) : 0 < (placed num den digits).2 :=
  Nat.mul_pos den_pos (Nat.pow_pos (by decide))

/-- In units of the last place a quotient has as many digits as are asked for. -/
theorem placed_range (num_pos : 0 < num) (den_pos : 0 < den) (digits_pos : 0 < digits) :
    10 ^ (digits - 1) * (placed num den digits).2 ≤ (placed num den digits).1 ∧
      (placed num den digits).1 < 10 ^ digits * (placed num den digits).2 := by
  obtain ⟨low, high⟩ := leadingExponent_spec num_pos den_pos
  have placed_pos' : (0 : ℚ) < (placed num den digits).2 := Nat.cast_pos.2
    (placed_pos num digits den_pos)
  have quotient : ((placed num den digits).1 : ℚ) / (placed num den digits).2 =
      num / den * 10 ^ (-lastPlace num den digits) := by
    rw [← ten_zpow, neg_neg, placed]
    push_cast
    rw [mul_div_mul_comm]
  have power_pos : (0 : ℚ) < 10 ^ (-lastPlace num den digits) := zpow_pos (by norm_num) _
  have first : (10 : ℚ) ^ (digits - 1) =
      10 ^ leadingExponent num den * 10 ^ (-lastPlace num den digits) := by
    rw [← zpow_natCast, ← zpow_add₀ (by norm_num), lastPlace]
    congr 1
    omega
  have last : (10 : ℚ) ^ digits =
      10 ^ (leadingExponent num den + 1) * 10 ^ (-lastPlace num den digits) := by
    rw [← zpow_natCast, ← zpow_add₀ (by norm_num), lastPlace]
    congr 1
    omega
  have low' : (10 : ℚ) ^ (digits - 1) * (placed num den digits).2 ≤ (placed num den digits).1 := by
    rw [← le_div_iff₀ placed_pos', quotient, first]
    exact mul_le_mul_of_nonneg_right low power_pos.le
  have high' : ((placed num den digits).1 : ℚ) < 10 ^ digits * (placed num den digits).2 := by
    rw [← div_lt_iff₀ placed_pos', quotient, last]
    exact mul_lt_mul_of_pos_right high power_pos
  exact ⟨by exact_mod_cast low', by exact_mod_cast high'⟩

theorem neighbours_eq (num den digits : Nat) :
    neighbours num den digits =
      (let low : ScaledNat :=
        ⟨(placed num den digits).1 / (placed num den digits).2, lastPlace num den digits⟩
      let high : ScaledNat :=
        ⟨(placed num den digits).1 / (placed num den digits).2 + 1, lastPlace num den digits⟩
      if 2 * ((placed num den digits).1 % (placed num den digits).2) < (placed num den digits).2
      then (low, high) else (high, low)) := rfl

theorem isNeighbour_neighbours (num den digits : Nat) :
    IsNeighbour num den digits (neighbours num den digits).1 ∧
      IsNeighbour num den digits (neighbours num den digits).2 := by
  rw [neighbours_eq]
  dsimp only
  split
  · exact ⟨⟨rfl, .inl rfl⟩, ⟨rfl, .inr rfl⟩⟩
  · exact ⟨⟨rfl, .inr rfl⟩, ⟨rfl, .inl rfl⟩⟩

/-- The nearer neighbour is at most half a unit of the last place away. -/
theorem nearer_close (num digits : Nat) (den_pos : 0 < den) :
    2 * ((neighbours num den digits).1.coefficient * (placed num den digits).2) ≤
        2 * (placed num den digits).1 + (placed num den digits).2 ∧
      2 * (placed num den digits).1 ≤
        2 * ((neighbours num den digits).1.coefficient * (placed num den digits).2) +
          (placed num den digits).2 := by
  have positive := placed_pos num digits den_pos
  rw [neighbours_eq]
  dsimp only
  generalize (placed num den digits).1 = a
  generalize (placed num den digits).2 = b at *
  have parts := Nat.div_add_mod' a b
  have rest_lt := Nat.mod_lt a positive
  split
  · dsimp only
    omega
  · have more : (a / b + 1) * b = a / b * b + b := Nat.succ_mul (a / b) b
    dsimp only
    omega

/-- A neighbour has at most the digits that are asked for, or is the power of ten beyond. -/
theorem IsNeighbour.range {x : ScaledNat} (neighbour : IsNeighbour num den digits x)
    (num_pos : 0 < num) (den_pos : 0 < den) (digits_pos : 0 < digits) :
    10 ^ (digits - 1) ≤ x.coefficient ∧ x.coefficient ≤ 10 ^ digits := by
  have positive := placed_pos num digits den_pos
  obtain ⟨low, high⟩ := placed_range num_pos den_pos digits_pos
  rw [← Nat.le_div_iff_mul_le positive] at low
  rw [← Nat.div_lt_iff_lt_mul positive] at high
  rcases neighbour.coefficient with same | same
  · omega
  · omega

end Neighbours

section Search

variable {format : FloatFormat} {rank : Nat}

/-- Decimals of full length lie closer together than the magnitudes of a format. -/
theorem two_pow_precision_lt (format : FloatFormat) :
    2 ^ format.precision < 10 ^ (format.decimalDigits - 1) := by
  cases format <;> decide

theorem decimalDigits_pos (format : FloatFormat) : 0 < format.decimalDigits := by
  cases format <;> decide

/-- Two numbers `a` and `c` that are half a unit apart are close relative to their size, if this is
large in units. -/
theorem close_of_half_unit {p a c unit : Nat} (p_pos : 0 < p) (large : p * unit < a)
    (le : 2 * c ≤ 2 * a + unit) (ge : 2 * a ≤ 2 * c + unit) :
    (p * 2 - 1) * a < p * 2 * c ∧ p * 2 * c < (p * 2 + 1) * a := by
  have le' := Nat.mul_le_mul_left p le
  have ge' := Nat.mul_le_mul_left p ge
  rw [Nat.mul_add, ← Nat.mul_assoc, ← Nat.mul_assoc] at le' ge'
  have grows : a ≤ p * 2 * a := Nat.le_mul_of_pos_left a (Nat.mul_pos p_pos Nat.two_pos)
  rw [Nat.sub_mul, Nat.add_mul, Nat.one_mul]
  omega

/-- The nearest decimal of full length leads back. -/
theorem nearer_leadsTo (positive : rank ≠ 0) :
    format.nearestRank
        (neighbours (format.units rank) (2 ^ format.unitPower) format.decimalDigits).1.ratio.1
        (neighbours (format.units rank) (2 ^ format.unitPower) format.decimalDigits).1.ratio.2 =
      rank := by
  have num_pos := format.units_pos positive
  have den_pos : 0 < 2 ^ format.unitPower := Nat.two_pow_pos _
  obtain ⟨le, ge⟩ := nearer_close (format.units rank) format.decimalDigits den_pos
  have place := (isNeighbour_neighbours (format.units rank) (2 ^ format.unitPower)
    format.decimalDigits).1.exponent
  have long := (placed_range num_pos den_pos format.decimalDigits_pos).1
  have unit_pos := placed_pos (format.units rank) format.decimalDigits den_pos
  -- The quotient has so many units of the last place that half of one is within the precision.
  have fine := Nat.mul_lt_mul_of_pos_right (two_pow_precision_lt format) unit_pos
  generalize (neighbours (format.units rank) (2 ^ format.unitPower) format.decimalDigits).1 = x at *
  have a_eq : (placed (format.units rank) (2 ^ format.unitPower) format.decimalDigits).1 =
      format.units rank * x.ratio.2 := by
    rw [placed, ScaledNat.ratio, place]
  have c_eq : x.coefficient *
      (placed (format.units rank) (2 ^ format.unitPower) format.decimalDigits).2 =
        x.ratio.1 * 2 ^ format.unitPower := by
    rw [placed, ScaledNat.ratio, place, Nat.mul_assoc, Nat.mul_comm (2 ^ format.unitPower)]
  rw [c_eq, a_eq] at le ge
  rw [a_eq] at long
  obtain ⟨above, below⟩ := close_of_half_unit (Nat.two_pow_pos _)
    (Nat.lt_of_lt_of_le fine long) le ge
  rw [← Nat.pow_succ] at above below
  exact nearestRank_of_close x.ratio_pos above below

/-- What the search for the shortest digits finds. -/
structure IsShortest (format : FloatFormat) (rank : Nat) (x : ScaledNat) : Prop where
  leadsBack : format.nearestRank x.ratio.1 x.ratio.2 = rank
  neighbour : ∃ digits, 1 ≤ digits ∧ digits ≤ format.decimalDigits ∧
    IsNeighbour (format.units rank) (2 ^ format.unitPower) digits x

theorem withDigits?_eq_some {digits : Nat} {x : ScaledNat}
    (found : format.withDigits? rank digits = some x) :
    format.nearestRank x.ratio.1 x.ratio.2 = rank ∧
      IsNeighbour (format.units rank) (2 ^ format.unitPower) digits x := by
  obtain ⟨nearer, farther⟩ :=
    isNeighbour_neighbours (format.units rank) (2 ^ format.unitPower) digits
  unfold withDigits? at found
  dsimp only at found
  split at found
  · next leads =>
    obtain rfl := Option.some.inj found
    exact ⟨beq_iff_eq.1 leads, nearer⟩
  · split at found
    · next leads =>
      obtain rfl := Option.some.inj found
      exact ⟨beq_iff_eq.1 leads, farther⟩
    · cases found

theorem isShortest_shortest (positive : rank ≠ 0) :
    IsShortest format rank (format.shortest rank) := by
  unfold shortest
  cases found : (List.range format.decimalDigits).findSome? fun i =>
      format.withDigits? rank (i + 1) with
  | some x =>
    obtain ⟨i, mem, found⟩ := List.exists_of_findSome?_eq_some found
    obtain ⟨leadsBack, neighbour⟩ := withDigits?_eq_some found
    exact ⟨leadsBack, i + 1, Nat.succ_pos i, List.mem_range.1 mem, neighbour⟩
  | none =>
    exact ⟨nearer_leadsTo positive, format.decimalDigits, format.decimalDigits_pos, Nat.le_refl _,
      (isNeighbour_neighbours _ _ _).1⟩

end Search

end FloatFormat

end EntityModel
