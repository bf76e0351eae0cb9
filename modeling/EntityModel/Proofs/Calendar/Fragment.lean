import EntityModel.Proofs.Calendar.Day
import EntityModel.Proofs.Calendar.Notation
import EntityModel.Value.Moment
import Mathlib.Data.List.Basic

/-!
The pieces of temporal literals that are written stand for what they were written from, and the
digits of a fraction denote a number of nanoseconds.
-/

set_option autoImplicit false

namespace EntityModel.Calendar

open EntityModel.Text

section Fields

theorem fieldText_padded {n : Nat} (small : n < 100) : FieldText n (padded 2 n) := by
  have length : (padded 2 n).length = 2 := length_padded_of_lt (by decide) small
  obtain ⟨tens, ones, found⟩ := List.length_eq_two.1 length
  have digits := digits_padded 2 n
  have value := digitsValue_padded 2 n
  rw [found] at digits value ⊢
  rw [← value]
  exact .digits (digits tens (by simp)) (digits ones (by simp))

end Fields

section Dates

theorem daysInMonth_le (year : Int) (month : Nat) : daysInMonth year month ≤ 31 := by
  unfold daysInMonth
  split <;> first | omega | (split <;> omega)

theorem yearText_writeYear {year : Int} (small : year.natAbs < 2 ^ 63) :
    YearText year (writeYear year) := by
  have run := digits_padded 4 year.natAbs
  have value := digitsValue_padded 4 year.natAbs
  have long : 4 ≤ (padded 4 year.natAbs).length := by
    rw [length_padded]
    omega
  unfold writeYear
  split
  · next negative =>
    have back : -(digitsValue (padded 4 year.natAbs) : Int) = year := by omega
    have written := YearText.minus run long (value.trans_lt small)
    rwa [back] at written
  · next positive =>
    have back : (digitsValue (padded 4 year.natAbs) : Int) = year := by omega
    have written := YearText.plain run long (value.trans_lt small)
    rwa [back] at written

theorem dateText_writeDate {date : CivilDate} (real : date.Exists)
    (small : date.year.natAbs < 2 ^ 63) : DateText date (writeDate date) := by
  have month_le := real.2.1
  have day_le := real.2.2.2.trans (daysInMonth_le date.year date.month)
  have month : FieldText date.month (padded 2 date.month) := fieldText_padded (by omega)
  have day : FieldText date.day (padded 2 date.day) := fieldText_padded (by omega)
  have written := DateText.intro (yearText_writeYear small) month day real
  rwa [writeDate, List.append_assoc]

end Dates

section Offsets

/-- An offset in range is far from the ends of its two octets. -/
theorem writeOffset_of_small {minutes : Int} (small : minutes.natAbs ≤ maxOffset) :
    writeOffset minutes = if minutes = 0 then ['Z']
      else (if 0 ≤ minutes then '+' else '-') :: padded 2 (minutes.natAbs / 60) ++
        ':' :: padded 2 (minutes.natAbs % 60) := by
  rw [maxOffset] at small
  have magnitude : wordMagnitude minutes = minutes.natAbs :=
    wordMagnitude_eq_natAbs (by omega) (by omega)
  have hours : (wordMagnitude minutes).tdiv 60 = (minutes.natAbs / 60 : Nat) := by
    rw [magnitude]
    rfl
  have rest : (wordMagnitude minutes).tmod 60 = (minutes.natAbs % 60 : Nat) := by
    rw [magnitude]
    rfl
  simp only [writeOffset, hours, rest, signedPadded_natCast]

/-- Both fields of the least offset are negative. -/
theorem writeOffset_least : writeOffset (-2 ^ 15) = ['-', '-', '5', '4', '6', ':', '-', '8'] := by
  decide

theorem offsetText_writeOffset {minutes : Int} (small : minutes.natAbs ≤ maxOffset) :
    OffsetText minutes (writeOffset minutes) := by
  rw [writeOffset_of_small small]
  rw [maxOffset] at small
  split
  next zero =>
    rw [zero]
    exact .universal
  next nonzero =>
    have hours : FieldText (minutes.natAbs / 60) (padded 2 (minutes.natAbs / 60)) :=
      fieldText_padded (by omega)
    have rest : FieldText (minutes.natAbs % 60) (padded 2 (minutes.natAbs % 60)) :=
      fieldText_padded (by omega)
    have rest_le : minutes.natAbs % 60 ≤ 59 := by omega
    have total : minutes.natAbs / 60 * 60 + minutes.natAbs % 60 ≤ 24 * 60 := by omega
    split
    next positive =>
      have written := OffsetText.plus hours rest rest_le total
      have back : ((minutes.natAbs / 60 : Nat) * 60 + (minutes.natAbs % 60 : Nat) : Int) =
          minutes := by omega
      rwa [back] at written
    next negative =>
      have written := OffsetText.minus hours rest rest_le total
      have back : -((minutes.natAbs / 60 : Nat) * 60 + (minutes.natAbs % 60 : Nat) : Int) =
          minutes := by omega
      rwa [back] at written

theorem OffsetText.natAbs_le {offset : Int} {text : List Char}
    (written : OffsetText offset text) : offset.natAbs ≤ maxOffset := by
  rw [maxOffset]
  cases written <;> omega

end Offsets

section Fractions

theorem digits_fractionDigits (nanos : Nat) : Digits (fractionDigits nanos) :=
  (digits_padded 9 nanos).trimRight

theorem length_fractionDigits_le {nanos : Nat} (small : nanos < nanosPerSecond) :
    (fractionDigits nanos).length ≤ 9 := by
  have le := length_trimRight_le (padded 9 nanos)
  rwa [length_padded_of_lt (by decide) small] at le

theorem nanosOfFraction?_fractionDigits {nanos : Nat} (small : nanos < nanosPerSecond) :
    nanosOfFraction? (fractionDigits nanos) = some nanos := by
  have short := length_fractionDigits_le small
  have all : (fractionDigits nanos).all Char.isDigit = true :=
    List.all_eq_true.2 (digits_fractionDigits nanos)
  have value := digitsValue_trimRight (padded 9 nanos)
  rw [digitsValue_padded, length_padded_of_lt (by decide) small] at value
  rw [nanosOfFraction?, List.drop_eq_nil_of_le short, List.take_of_length_le short, if_pos]
  · exact congrArg some value.symm
  · exact ⟨all, rfl⟩

theorem fractionDigits_ne_nil {nanos : Nat} (small : nanos < nanosPerSecond)
    (nonzero : nanos ≠ 0) : fractionDigits nanos ≠ [] := by
  intro empty
  have read := nanosOfFraction?_fractionDigits small
  rw [empty] at read
  exact nonzero (Option.some.inj read).symm

theorem nanosOfFraction?_lt {digits : List Char} {nanos : Nat}
    (found : nanosOfFraction? digits = some nanos) : nanos < nanosPerSecond := by
  unfold nanosOfFraction? at found
  split at found
  · next run =>
    obtain rfl := Option.some.inj found
    have below := (Digits.take (List.all_eq_true.1 run.1) 9).value_lt
    have short : (digits.take 9).length ≤ 9 := List.length_take_le 9 digits
    calc digitsValue (digits.take 9) * 10 ^ (9 - (digits.take 9).length)
      _ < 10 ^ (digits.take 9).length * 10 ^ (9 - (digits.take 9).length) :=
        Nat.mul_lt_mul_of_pos_right below (Nat.pow_pos (by decide))
      _ = nanosPerSecond := by rw [← Nat.pow_add, Nat.add_sub_cancel' short, nanosPerSecond]
  · cases found

theorem digits_of_nanosOfFraction? {digits : List Char} {nanos : Nat}
    (found : nanosOfFraction? digits = some nanos) : Digits digits :=
  List.all_eq_true.1 (Option.ite_none_right_eq_some.1 found).1.1

theorem zeros_of_nanosOfFraction? {digits : List Char} {nanos : Nat}
    (found : nanosOfFraction? digits = some nanos) : ∀ c ∈ digits.drop 9, c = '0' := by
  obtain ⟨⟨-, zeros⟩, -⟩ := Option.ite_none_right_eq_some.1 found
  intro c mem
  simpa using List.all_eq_true.1 zeros c mem

/-- The nanoseconds are the fraction of a second that the digits denote. -/
theorem nanosOfFraction?_value {digits : List Char} {nanos : Nat}
    (found : nanosOfFraction? digits = some nanos) :
    nanos * 10 ^ digits.length = digitsValue digits * nanosPerSecond := by
  have rest : digits.drop 9 = List.replicate (digits.drop 9).length '0' :=
    List.eq_replicate_of_mem (zeros_of_nanosOfFraction? found)
  obtain ⟨-, same⟩ := Option.ite_none_right_eq_some.1 found
  obtain rfl := Option.some.inj same
  have value : digitsValue digits = digitsValue (digits.take 9) * 10 ^ (digits.drop 9).length := by
    calc digitsValue digits
      _ = digitsValue (digits.take 9 ++ List.replicate (digits.drop 9).length '0') := by
        rw [← rest, List.take_append_drop]
      _ = digitsValue (digits.take 9) * 10 ^ (digits.drop 9).length := by
        rw [digitsValue_append, digitsValue_replicate, List.length_replicate, Nat.add_zero]
  have length : digits.length = (digits.take 9).length + (digits.drop 9).length := by
    rw [← List.length_append, List.take_append_drop]
  have short : (digits.take 9).length ≤ 9 := List.length_take_le 9 digits
  have unit : nanosPerSecond = 10 ^ (9 - (digits.take 9).length) * 10 ^ (digits.take 9).length := by
    rw [← Nat.pow_add, Nat.sub_add_cancel short, nanosPerSecond]
  rw [value, length, unit, Nat.pow_add]
  ac_rfl

theorem exists_nanosOfFraction? {digits : List Char} (run : Digits digits)
    (zeros : ∀ c ∈ digits.drop 9, c = '0') : ∃ nanos, nanosOfFraction? digits = some nanos := by
  refine ⟨_, if_pos ⟨List.all_eq_true.2 run, List.all_eq_true.2 fun c mem => ?_⟩⟩
  rw [zeros c mem]
  rfl

/-- A fraction that is a whole number of nanoseconds has nothing but zeros below them. -/
theorem nanosOfFraction?_of_value {digits : List Char} {nanos : Nat} (run : Digits digits)
    (whole : nanos * 10 ^ digits.length = digitsValue digits * nanosPerSecond) :
    nanosOfFraction? digits = some nanos := by
  have zeros : ∀ c ∈ digits.drop 9, c = '0' := by
    rcases Nat.le_total digits.length 9 with short | long
    · rw [List.drop_eq_nil_of_le short]
      exact nofun
    -- What stands below is a multiple of its own unit, and less than this unit.
    have length : (digits.take 9).length = 9 := by
      rw [List.length_take]
      omega
    have split : digits.length = 9 + (digits.drop 9).length := by
      rw [List.length_drop]
      omega
    have below := (run.drop 9).value_lt
    have value : digitsValue digits = digitsValue (digits.take 9) * 10 ^ (digits.drop 9).length +
        digitsValue (digits.drop 9) := by
      rw [← digitsValue_append, List.take_append_drop]
    have multiple : nanos * 10 ^ (digits.drop 9).length = digitsValue digits := by
      rw [split, Nat.pow_add, Nat.mul_comm (10 ^ 9), ← Nat.mul_assoc] at whole
      exact Nat.eq_of_mul_eq_mul_right (by decide) whole
    have zero : digitsValue (digits.drop 9) = 0 := by
      have divides := (multiple.trans value) ▸ Nat.dvd_mul_left _ nanos
      exact Nat.eq_zero_of_dvd_of_lt ((Nat.dvd_add_right (Nat.dvd_mul_left _ _)).1 divides) below
    have same : digits.drop 9 = List.replicate (digits.drop 9).length '0' :=
      (run.drop 9).eq_of_value (digits_replicate_zero _) (by simp) (by simp [zero])
    intro c mem
    exact List.eq_of_mem_replicate (same ▸ mem)
  obtain ⟨other, found⟩ := exists_nanosOfFraction? run zeros
  have value := (nanosOfFraction?_value found).trans whole.symm
  rw [found, Nat.eq_of_mul_eq_mul_right (Nat.pow_pos (by decide)) value]

/-- What is read as a number of nanoseconds is what is written for it, with zeros behind. -/
theorem nanosOfFraction?_eq_some_iff_zeros {digits : List Char} {nanos : Nat}
    (small : nanos < nanosPerSecond) : nanosOfFraction? digits = some nanos ↔
      ∃ count, digits = fractionDigits nanos ++ List.replicate count '0' := by
  have written := nanosOfFraction?_value (nanosOfFraction?_fractionDigits small)
  constructor
  · intro found
    have run := digits_of_nanosOfFraction? found
    have trimmed : trimRight digits = fractionDigits nanos := by
      refine (run.trimRight_eq_of_value (digits_fractionDigits nanos) ?_).trans
        (trimRight_trimRight _)
      -- Both runs stand for `nanos`, each in the unit of its last digit.
      refine Nat.eq_of_mul_eq_mul_right (by decide : 0 < nanosPerSecond) ?_
      calc digitsValue digits * 10 ^ (fractionDigits nanos).length * nanosPerSecond
        _ = nanos * 10 ^ digits.length * 10 ^ (fractionDigits nanos).length := by
          rw [nanosOfFraction?_value found]
          ac_rfl
        _ = nanos * 10 ^ (fractionDigits nanos).length * 10 ^ digits.length := by ac_rfl
        _ = digitsValue (fractionDigits nanos) * 10 ^ digits.length * nanosPerSecond := by
          rw [written]
          ac_rfl
    obtain ⟨count, same⟩ := exists_zeros digits
    exact ⟨count, trimmed ▸ same⟩
  · rintro ⟨count, rfl⟩
    refine nanosOfFraction?_of_value (by simpa using digits_fractionDigits nanos) ?_
    rw [List.length_append, List.length_replicate, Nat.pow_add, ← Nat.mul_assoc, written,
      digitsValue_append, digitsValue_replicate, List.length_replicate, Nat.add_zero]
    ac_rfl

/-- A fraction is written with no more digits than it was read with. -/
theorem length_writeFraction_le {digits : List Char} {nanos : Nat}
    (found : nanosOfFraction? digits = some nanos) :
    (writeFraction nanos).tail.length ≤ digits.length := by
  obtain ⟨count, rfl⟩ :=
    (nanosOfFraction?_eq_some_iff_zeros (nanosOfFraction?_lt found)).1 found
  unfold writeFraction
  split
  · exact Nat.zero_le _
  · rw [List.tail_cons, List.length_append]
    exact Nat.le_add_right _ _

/-- No fraction of fewer digits than the written one denotes the same nanoseconds. -/
theorem length_writeFraction_le_iff {nanos places : Nat} (small : nanos < nanosPerSecond) :
    (writeFraction nanos).tail.length ≤ places ↔ ∃ digits, Digits digits ∧
      digits.length ≤ places ∧
        nanos * 10 ^ digits.length = digitsValue digits * nanosPerSecond := by
  constructor
  · intro short
    refine ⟨(writeFraction nanos).tail, ?_, short, ?_⟩ <;> unfold writeFraction <;> split
    · exact digits_nil
    · exact digits_fractionDigits nanos
    · next zero =>
      rw [zero]
      rfl
    · exact nanosOfFraction?_value (nanosOfFraction?_fractionDigits small)
  · rintro ⟨digits, run, short, value⟩
    exact (length_writeFraction_le (nanosOfFraction?_of_value run value)).trans short

end Fractions

section Times

/-- The digits after the point that are written, if a point is written. -/
def writtenFraction (nanos : Nat) : Option (List Char) :=
  if nanos = 0 then none else some (fractionDigits nanos)

theorem length_writtenFraction (nanos : Nat) :
    ((writtenFraction nanos).getD []).length = (writeFraction nanos).tail.length := by
  unfold writtenFraction writeFraction
  split <;> rfl

theorem nanosOfFraction?_writtenFraction {nanos : Nat} (small : nanos < nanosPerSecond) :
    nanosOfFraction? ((writtenFraction nanos).getD []) = some nanos := by
  unfold writtenFraction
  split
  · next zero =>
    rw [zero]
    rfl
  · exact nanosOfFraction?_fractionDigits small

theorem secondText_write {second nanos : Nat} (second_le : second ≤ 59)
    (small : nanos < nanosPerSecond) :
    SecondText second (writtenFraction nanos)
      (':' :: (padded 2 second ++ writeFraction nanos)) := by
  have field : FieldText second (padded 2 second) := fieldText_padded (by omega)
  unfold writtenFraction writeFraction
  split
  · rw [List.append_nil]
    exact .whole field
  · next nonzero =>
    have filled := List.length_pos_iff.2 (fractionDigits_ne_nil small nonzero)
    have short := length_fractionDigits_le small
    exact .fraction field (digits_fractionDigits nanos) filled (by omega)

theorem timeText_write {hour minute second nanos : Nat} (hour_le : hour ≤ 23)
    (minute_le : minute ≤ 59) (second_le : second ≤ 59) (small : nanos < nanosPerSecond) :
    TimeText ⟨hour, minute, second, writtenFraction nanos⟩
      (writeClock hour minute second ++ writeFraction nanos) := by
  have hours : FieldText hour (padded 2 hour) := fieldText_padded (by omega)
  have minutes : FieldText minute (padded 2 minute) := fieldText_padded (by omega)
  have seconds := secondText_write second_le small
  have written : TimeText ⟨hour, minute, second, writtenFraction nanos⟩ _ :=
    .intro hours minutes seconds hour_le minute_le second_le
  rwa [writeClock, List.append_assoc, List.append_assoc]

end Times

end EntityModel.Calendar
