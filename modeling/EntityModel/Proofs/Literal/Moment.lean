import EntityModel.Literal.Spelling
import EntityModel.Proofs.Calendar.Fragment
import EntityModel.Proofs.Literal.InstantNotation

/-!
Dates, times of day, instants and durations are read back from the literals that are written for
them.
-/

set_option autoImplicit false

namespace EntityModel

open EntityModel.Calendar EntityModel.Text

namespace Date

theorem ofCivil?_civil (day : Date) : ofCivil? day.civil = some day := by
  have days : day.civil.toDays = day.days := CivilDate.toDays_ofDays day.days
  have inRange : (CivilDate.ofDays day.days).year.natAbs ≤ maxYear := day.year_le
  rw [ofCivil?, if_pos ⟨CivilDate.exists_ofDays day.days, day.year_le⟩, days, ofDays?,
    dif_pos inRange]

theorem dateText_literal (day : Date) : DateText day.civil day.literal :=
  dateText_writeDate (CivilDate.exists_ofDays day.days) (Nat.lt_of_le_of_lt day.year_le (by decide))

theorem readDate?_literal (day : Date) : readDate? day.literal = some day.civil :=
  readDate?_eq_some_iff.2 day.dateText_literal

end Date

namespace TimeOfDay

theorem exists_ofClock? {hour minute second nano : Nat} (hour_le : hour ≤ 23)
    (minute_le : minute ≤ 59) (second_le : second ≤ 59) (small : nano < nanosPerSecond) :
    ∃ time, ofClock? hour minute second nano = some time ∧ time.nanos =
      (hour * secondsPerHour + minute * secondsPerMinute + second) * nanosPerSecond + nano := by
  have below : (hour * secondsPerHour + minute * secondsPerMinute + second) * nanosPerSecond +
      nano < secondsPerDay * nanosPerSecond := by
    simp only [secondsPerHour, secondsPerMinute, secondsPerDay, nanosPerSecond] at *
    omega
  refine ⟨⟨_, below⟩, ?_, rfl⟩
  rw [ofClock?, if_pos ⟨hour_le, minute_le, second_le, small⟩, ofNanos?, dif_pos below]

/-- The clock time that the literal of a time shows. -/
def clock (time : TimeOfDay) : ClockTime :=
  ⟨time.hour, time.minute, time.second, writtenFraction time.nano⟩

theorem nano_lt (time : TimeOfDay) : time.nano < nanosPerSecond :=
  Nat.mod_lt _ (by decide)

theorem clock_range (time : TimeOfDay) :
    time.hour ≤ 23 ∧ time.minute ≤ 59 ∧ time.second ≤ 59 := by
  have nanos_lt := time.nanos_lt
  simp only [hour, minute, second, seconds, secondsPerDay, secondsPerHour, secondsPerMinute,
    nanosPerSecond] at *
  omega

theorem nanos_ofClock? {hour minute second nano : Nat} {time : TimeOfDay}
    (built : ofClock? hour minute second nano = some time) : time.nanos =
      (hour * secondsPerHour + minute * secondsPerMinute + second) * nanosPerSecond + nano := by
  rw [ofClock?, Option.ite_none_right_eq_some, ofNanos?, Option.dite_none_right_eq_some] at built
  obtain ⟨-, _, same⟩ := built
  rw [← Option.some.inj same]

theorem ofClock?_clock (time : TimeOfDay) :
    ofClock? time.hour time.minute time.second time.nano = some time := by
  obtain ⟨hour_le, minute_le, second_le⟩ := time.clock_range
  obtain ⟨back, built, nanos⟩ := exists_ofClock? hour_le minute_le second_le time.nano_lt
  have same : back.nanos = time.nanos := by
    simp only [hour, minute, second, seconds, nano, secondsPerHour, secondsPerMinute,
      nanosPerSecond] at nanos
    omega
  rw [built]
  cases back
  cases time
  cases same
  rfl

theorem timeText_literal (time : TimeOfDay) : TimeText time.clock time.literal := by
  obtain ⟨hour_le, minute_le, second_le⟩ := time.clock_range
  exact timeText_write hour_le minute_le second_le time.nano_lt

theorem readTime?_literal (time : TimeOfDay) : readTime? time.literal = some time.clock :=
  readTime?_eq_some_iff.2 time.timeText_literal

theorem fractionLength_clock (time : TimeOfDay) :
    time.clock.fractionLength = time.fractionLength :=
  length_writtenFraction time.nano

theorem nanosOfFraction?_clock (time : TimeOfDay) :
    nanosOfFraction? (time.clock.fraction.getD []) = some time.nano :=
  nanosOfFraction?_writtenFraction time.nano_lt

end TimeOfDay

/-- Besides the offsets in range one more passes, the least number of two octets. -/
theorem offsetPasses_iff {offset : Int} :
    OffsetPasses offset ↔ offset.natAbs ≤ maxOffset ∨ offset = -2 ^ 15 := by
  constructor
  · rintro ⟨⟨least_le, le_greatest⟩, passes⟩
    simp only [IntegerWidth.least, IntegerWidth.greatest] at least_le le_greatest
    by_cases least : offset = -2 ^ 15
    · exact .inr least
    · rw [wordMagnitude_eq_natAbs (by omega) (by omega)] at passes
      exact .inl (Int.ofNat_le.1 passes)
  · rintro (small | rfl)
    · rw [maxOffset] at small
      have magnitude : wordMagnitude offset = offset.natAbs :=
        wordMagnitude_eq_natAbs (by omega) (by omega)
      rw [OffsetPasses, IntegerWidth.Contains, IntegerWidth.least, IntegerWidth.greatest, magnitude,
        maxOffset]
      omega
    · decide

theorem InstantSpelling.WrittenAs.offset_le {instant : InstantSpelling} {text : List Char}
    (written : instant.WrittenAs text) : instant.offset.natAbs ≤ maxOffset := by
  cases written with
  | intro _ _ offsetWritten => exact offsetWritten.natAbs_le

namespace DateTimeOffset

/-- The offset of an instant is a day at most. -/
def InRange (instant : DateTimeOffset) : Prop := instant.offset.natAbs ≤ maxOffset

theorem inRange_or_least (instant : DateTimeOffset) :
    instant.InRange ∨ instant.offset = -2 ^ 15 :=
  offsetPasses_iff.1 instant.offset_passes

/-- What the literal of an instant says. -/
def spelling (instant : DateTimeOffset) : InstantSpelling :=
  ⟨instant.localDate.civil, instant.localTime.clock, instant.offset⟩

theorem read?_literal {instant : DateTimeOffset} (inRange : instant.InRange) :
    InstantSpelling.read? instant.literal = some instant.spelling := by
  have written : instant.spelling.WrittenAs _ := .intro instant.localDate.dateText_literal
    instant.localTime.timeText_literal (offsetText_writeOffset inRange)
  rw [literal, List.append_assoc, List.cons_append]
  exact InstantSpelling.read?_eq_some_iff.2 written

/-- What is left after the date and the time is no offset. -/
theorem read?_literal_least {instant : DateTimeOffset} (least : instant.offset = -2 ^ 15) :
    InstantSpelling.read? instant.literal = none := by
  have ends : EndsTime ['-', '-', '5', '4', '6', ':', '-', '8'] :=
    ⟨breaks_cons rfl _, by decide, by decide⟩
  have unread : (readOffset ['-', '-', '5', '4', '6', ':', '-', '8']).toOption = none := by decide
  rw [literal, least, writeOffset_least, List.append_assoc, List.cons_append,
    InstantSpelling.read?_append instant.localDate.dateText_literal
      instant.localTime.timeText_literal ends, unread, Option.map_none]

theorem seconds_localTime (instant : DateTimeOffset) :
    instant.localTime.seconds = (instant.localSeconds % secondsPerDay).toNat := by
  have nanos_lt := instant.nanos_lt
  simp only [TimeOfDay.seconds, localTime, nanosPerSecond] at *
  omega

theorem nano_localTime (instant : DateTimeOffset) : instant.localTime.nano = instant.nanos := by
  have nanos_lt := instant.nanos_lt
  simp only [TimeOfDay.nano, localTime, nanosPerSecond] at *
  omega

theorem ofParts?_eq_some {epochSeconds offset : Int} {nanos : Nat} {instant : DateTimeOffset}
    (built : ofParts? epochSeconds nanos offset = some instant) :
    instant.nanos = nanos ∧ instant.offset = offset := by
  rw [ofParts?, Option.dite_none_right_eq_some] at built
  obtain ⟨_, same⟩ := built
  rw [← Option.some.inj same]
  exact ⟨rfl, rfl⟩

/-- Local date, local time and offset determine the instant. -/
theorem ofLocal?_local (instant : DateTimeOffset) :
    ofLocal? instant.localDate instant.localTime instant.offset = some instant := by
  have epoch : instant.localDate.days * secondsPerDay + instant.localTime.seconds -
      instant.offset * 60 = instant.epochSeconds := by
    rw [seconds_localTime]
    simp only [localDate, localSeconds, secondsPerDay, secondsPerHour, secondsPerMinute]
    omega
  rw [ofLocal?, nano_localTime, epoch, ofParts?,
    dif_pos ⟨instant.nanos_lt, instant.offset_passes, instant.year_le⟩]

end DateTimeOffset

end EntityModel
