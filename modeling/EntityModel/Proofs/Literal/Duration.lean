import EntityModel.Proofs.Calendar.Fragment
import EntityModel.Proofs.Literal.DurationNotation

/-!
Every count of nanoseconds is read back from its literal, and the magnitude of a duration is the sum
of its counts if it fits.
-/

set_option autoImplicit false

namespace EntityModel

open EntityModel.Calendar EntityModel.Text

theorem Duration.ofNanos?_eq_some {nanos : Int} {length : Duration}
    (built : ofNanos? nanos = some length) : length.nanos = nanos := by
  rw [ofNanos?, Option.dite_none_right_eq_some] at built
  obtain ⟨_, same⟩ := built
  rw [← Option.some.inj same]

namespace DurationSpelling

section Writing

theorem countText_writeCount (letter : Char) (n : Nat) :
    CountText letter n (writeCount letter n) := by
  unfold writeCount
  split
  · next zero =>
    rw [zero]
    exact .omitted
  · have written : CountText letter _ _ :=
      CountText.count (digits_toDigits n) Nat.toDigits_ne_nil
    rwa [digitsValue_toDigits] at written

/-- Seconds are always written, and their fraction if there is one. -/
theorem secondsText_write (seconds : Nat) {nanos : Nat} (small : nanos < nanosPerSecond) :
    SecondsText seconds (writtenFraction nanos)
      (Nat.toDigits 10 seconds ++ (writeFraction nanos ++ ['S'])) := by
  have run := digits_toDigits seconds
  by_cases zero : nanos = 0
  · have written := SecondsText.whole run Nat.toDigits_ne_nil
    rw [digitsValue_toDigits] at written
    simpa only [writeFraction, writtenFraction, zero, if_true, List.nil_append] using written
  · have filled : 1 ≤ (fractionDigits nanos).length :=
      List.length_pos_iff.2 (fractionDigits_ne_nil small zero)
    have short : (fractionDigits nanos).length ≤ maxFractionDigits :=
      Nat.le_trans (length_fractionDigits_le small) (by decide)
    have written := SecondsText.fraction run Nat.toDigits_ne_nil (digits_fractionDigits nanos)
      filled short
    rw [digitsValue_toDigits] at written
    simpa only [writeFraction, writtenFraction, zero, if_false, List.cons_append] using written

end Writing

/-- What the literal of a count of nanoseconds says. -/
def ofNanos (nanos : Int) : DurationSpelling :=
  let seconds := nanos.natAbs / nanosPerSecond
  { negative := nanos < 0
    days := seconds / secondsPerDay
    hours := seconds % secondsPerDay / secondsPerHour
    minutes := seconds % secondsPerHour / secondsPerMinute
    seconds := seconds % secondsPerMinute
    fraction := writtenFraction (nanos.natAbs % nanosPerSecond) }

/-- Counts are what is left over from the next greater unit. -/
theorem balancedText_durationLiteral (nanos : Int) :
    (ofNanos nanos).BalancedText (durationLiteral nanos) := by
  have small : nanos.natAbs % nanosPerSecond < nanosPerSecond := Nat.mod_lt _ (by decide)
  have omitted (letter : Char) {n : Nat} (zero : n = 0) : writeCount letter n = [] := if_pos zero
  have hours_lt : (ofNanos nanos).hours < 24 :=
    Nat.div_lt_of_lt_mul (Nat.mul_comm .. ▸ Nat.mod_lt _ (by decide))
  have minutes_lt : (ofNanos nanos).minutes < 60 :=
    Nat.div_lt_of_lt_mul (Nat.mul_comm .. ▸ Nat.mod_lt _ (by decide))
  have written := BalancedText.intro (countText_writeCount 'D' (ofNanos nanos).days)
    (countText_writeCount 'H' (ofNanos nanos).hours)
    (countText_writeCount 'M' (ofNanos nanos).minutes)
    (secondsText_write (ofNanos nanos).seconds small) (omitted 'D') (omitted 'H') (omitted 'M')
    (by simp) hours_lt minutes_lt (Nat.mod_lt _ (by decide))
  simpa only [durationLiteral, ofNanos, decide_eq_true_eq, List.append_assoc, List.cons_append]
    using written

theorem read?_durationLiteral (nanos : Int) :
    read? (durationLiteral nanos) = some (ofNanos nanos) :=
  read?_eq_some_iff.2 (balancedText_durationLiteral nanos).writtenAs

section Magnitude

variable {d : DurationSpelling} {magnitude : Nat}

theorem fitting?_eq_some_iff {n : Nat} :
    fitting? n = some magnitude ↔ n = magnitude ∧ magnitude < 2 ^ 127 := by
  unfold fitting?
  split
  · rw [Option.some_inj]
    omega
  · simp only [reduceCtorEq, false_iff]
    omega

theorem component?_eq_some_iff {count seconds : Nat} (positive : 0 < seconds) :
    component? count seconds = some magnitude ↔
      count * (seconds * nanosPerSecond) = magnitude ∧ magnitude < 2 ^ 127 := by
  have grows : count ≤ count * (seconds * nanosPerSecond) :=
    Nat.le_mul_of_pos_right count (Nat.mul_pos positive (by decide))
  simp only [component?, Option.bind_eq_some_iff, fitting?_eq_some_iff]
  constructor
  · rintro ⟨same, ⟨rfl, -⟩, fits⟩
    exact fits
  · rintro ⟨rfl, fits⟩
    exact ⟨count, ⟨rfl, by omega⟩, rfl, fits⟩

/-- The magnitude is the sum of the counts if it fits; no step on the way asks for more. -/
theorem magnitude?_eq_some_iff :
    d.magnitude? = some magnitude ↔
      ∃ nanos, nanosOfFraction? (d.fraction.getD []) = some nanos ∧
        d.totalSeconds * nanosPerSecond + nanos = magnitude ∧ magnitude < 2 ^ 127 := by
  have days_pos : 0 < secondsPerDay := by decide
  have hours_pos : 0 < secondsPerHour := by decide
  have minutes_pos : 0 < secondsPerMinute := by decide
  simp only [magnitude?, Option.bind_eq_bind, Option.bind_eq_some_iff, fitting?_eq_some_iff,
    component?_eq_some_iff days_pos, component?_eq_some_iff hours_pos,
    component?_eq_some_iff minutes_pos, component?_eq_some_iff Nat.one_pos]
  have total : d.totalSeconds * nanosPerSecond = d.days * (secondsPerDay * nanosPerSecond) +
      d.hours * (secondsPerHour * nanosPerSecond) +
      d.minutes * (secondsPerMinute * nanosPerSecond) + d.seconds * (1 * nanosPerSecond) := by
    simp only [totalSeconds, Nat.add_mul, Nat.mul_assoc, Nat.one_mul]
  constructor
  · rintro ⟨days, ⟨rfl, -⟩, hours, ⟨rfl, -⟩, first, ⟨rfl, -⟩, minutes, ⟨rfl, -⟩, second, ⟨rfl, -⟩,
      seconds, ⟨rfl, -⟩, third, ⟨rfl, -⟩, nanos, fraction, rfl, fits⟩
    exact ⟨nanos, fraction, by rw [total], fits⟩
  · rintro ⟨nanos, fraction, rfl, fits⟩
    rw [total] at fits ⊢
    -- Every count and every sum on the way is at most the last sum.
    exact ⟨_, ⟨rfl, by omega⟩, _, ⟨rfl, by omega⟩, _, ⟨rfl, by omega⟩, _, ⟨rfl, by omega⟩, _,
      ⟨rfl, by omega⟩, _, ⟨rfl, by omega⟩, _, ⟨rfl, by omega⟩, nanos, fraction, rfl, fits⟩

theorem totalSeconds_ofNanos (nanos : Int) :
    (ofNanos nanos).totalSeconds = nanos.natAbs / nanosPerSecond := by
  simp only [totalSeconds, ofNanos, secondsPerDay, secondsPerHour, secondsPerMinute]
  omega

theorem nanosOfFraction?_ofNanos (nanos : Int) :
    nanosOfFraction? ((ofNanos nanos).fraction.getD []) = some (nanos.natAbs % nanosPerSecond) :=
  nanosOfFraction?_writtenFraction (Nat.mod_lt _ (by decide))

theorem signed_ofNanos (nanos : Int) :
    (if (ofNanos nanos).negative then -(nanos.natAbs : Int) else nanos.natAbs) = nanos := by
  simp only [ofNanos, decide_eq_true_eq]
  split <;> omega

/-- A duration is read back from its literal. Its magnitude needs 127 bits, so the least duration
of all, which no literal spells, is left out. -/
theorem toDuration?_ofNanos {length : Duration} (fits : length.nanos.natAbs < 2 ^ 127) :
    (ofNanos length.nanos).toDuration? = some length := by
  have magnitude : (ofNanos length.nanos).magnitude? = some length.nanos.natAbs := by
    refine magnitude?_eq_some_iff.2 ⟨_, nanosOfFraction?_ofNanos length.nanos, ?_, fits⟩
    rw [totalSeconds_ofNanos, Nat.div_add_mod']
  rw [toDuration?, magnitude, Option.bind_some, signed_ofNanos, Duration.ofNanos?,
    dif_pos ⟨length.least_le, length.lt_limit⟩]

/-- A duration that is read has a magnitude that fits, and it is written with no more digits after
the point. -/
theorem toDuration?_eq_some {length : Duration} (read : d.toDuration? = some length) :
    length.nanos.natAbs < 2 ^ 127 ∧
      (writeFraction (length.nanos.natAbs % nanosPerSecond)).tail.length ≤
        (d.fraction.getD []).length := by
  obtain ⟨magnitude, found, built⟩ := Option.bind_eq_some_iff.1 read
  obtain ⟨nanos, fraction, sum, fits⟩ := magnitude?_eq_some_iff.1 found
  have below := nanosOfFraction?_lt fraction
  have natAbs : length.nanos.natAbs = magnitude := by
    rw [Duration.ofNanos?_eq_some built]
    split <;> omega
  have rest : magnitude % nanosPerSecond = nanos := by
    rw [← sum, Nat.mul_comm, Nat.mul_add_mod, Nat.mod_eq_of_lt below]
  rw [natAbs, rest]
  exact ⟨fits, length_writeFraction_le fraction⟩

end Magnitude

end DurationSpelling

end EntityModel
