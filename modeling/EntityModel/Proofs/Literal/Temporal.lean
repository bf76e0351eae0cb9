import EntityModel.Proofs.Calendar.Order
import EntityModel.Proofs.Literal.Facets

/-!
Dates, times of day and instants as their literals show them. A literal is valid exactly if it is
written like one. It is read into the host type of its kind if its year lies within six digits and
its fraction within nine, zeros apart, and then the value shows what is written.
-/

set_option autoImplicit false

namespace EntityModel

open EntityModel.Calendar EntityModel.Text

namespace Calendar.ClockTime

/-- Nothing but zeros is written below the nanosecond. -/
def InNanos (time : ClockTime) : Prop := ∀ c ∈ (time.fraction.getD []).drop 9, c = '0'

instance (time : ClockTime) : Decidable time.InNanos :=
  List.decidableBAll (· = '0') ((time.fraction.getD []).drop 9)

end Calendar.ClockTime

namespace TimeOfDay

/-- A time of day has the hour, the minute, the second and the fraction that are written. -/
structure Shows (value : TimeOfDay) (time : ClockTime) : Prop where
  hour : value.hour = time.hour
  minute : value.minute = time.minute
  second : value.second = time.second
  fraction : value.nano * 10 ^ (time.fraction.getD []).length =
    digitsValue (time.fraction.getD []) * 10 ^ 9

/-- The fields of a clock time come back from its count of nanoseconds. -/
theorem exists_clock {hour minute second nano : Nat} (hour_le : hour ≤ 23)
    (minute_le : minute ≤ 59) (second_le : second ≤ 59) (small : nano < nanosPerSecond) :
    ∃ time, ofClock? hour minute second nano = some time ∧ time.hour = hour ∧
      time.minute = minute ∧ time.second = second ∧ time.nano = nano := by
  obtain ⟨time, built, nanos⟩ := exists_ofClock? hour_le minute_le second_le small
  refine ⟨time, built, ?_⟩
  simp only [TimeOfDay.hour, TimeOfDay.minute, TimeOfDay.second, seconds, TimeOfDay.nano, nanos,
    secondsPerHour, secondsPerMinute, nanosPerSecond] at *
  omega

end TimeOfDay

namespace DateTimeOffset

/-- Local clocks with the offset of an instant show what is written. -/
structure Shows (value : DateTimeOffset) (instant : InstantSpelling) : Prop where
  date : value.localDate.civil = instant.date
  time : value.localTime.Shows instant.time
  offset : value.offset = instant.offset

/-- Every local date and time is shown at some instant, whatever the offset is. -/
theorem exists_ofLocal? (day : Date) (time : TimeOfDay) {offset : Int}
    (small : offset.natAbs ≤ maxOffset) :
    ∃ instant, ofLocal? day time offset = some instant ∧ instant.localDate = day ∧
      instant.localTime = time ∧ instant.offset = offset := by
  have unit : secondsPerDay = 86400 := rfl
  have seconds_lt : time.seconds < secondsPerDay :=
    Nat.div_lt_of_lt_mul (Nat.mul_comm .. ▸ time.nanos_lt)
  have seconds : day.days * secondsPerDay + time.seconds - offset * 60 + offset * 60 =
      day.days * secondsPerDay + time.seconds := Int.sub_add_cancel ..
  -- Less than a day is added to whole days, so division gives both back.
  have days : (day.days * secondsPerDay + time.seconds) / secondsPerDay = day.days := by
    rw [unit] at *
    omega
  have clock : (day.days * secondsPerDay + time.seconds) % secondsPerDay = time.seconds := by
    rw [unit] at *
    omega
  have near : (CivilDate.ofDays ((day.days * secondsPerDay + time.seconds - offset * 60 +
      offset * 60) / secondsPerDay)).year.natAbs ≤ maxYear := by
    rw [seconds, days]
    exact day.year_le
  refine ⟨_, dif_pos ⟨time.nano_lt, offsetPasses_iff.2 (.inl small), near⟩, ?_, ?_, rfl⟩
  · simp only [localDate, localSeconds, seconds, days]
  · have nanos : time.seconds * nanosPerSecond + time.nano = time.nanos := Nat.div_add_mod' ..
    simp only [localTime, localSeconds, seconds, clock, Int.toNat_natCast, nanos]

end DateTimeOffset

namespace PrimitiveKind

variable {kind : PrimitiveKind} {literal : String} {target : HostType}

section Parts

theorem exists_dateOf {date : CivilDate} (real : date.Exists)
    (near : date.year.natAbs ≤ maxYear) :
    ∃ day : Date, day.civil = date ∧ kind.dateOf literal date target = .ok day := by
  have back := CivilDate.ofDays_toDays real
  have inRange : (CivilDate.ofDays date.toDays).year.natAbs ≤ maxYear := by rwa [back]
  have built : Date.ofCivil? date = some ⟨date.toDays, inRange⟩ :=
    Date.ofCivil?_eq_some_iff.2 ⟨real, near, rfl⟩
  exact ⟨⟨date.toDays, inRange⟩, back, by rw [dateOf, built, orMisfit]⟩

theorem dateOf_of_far {date : CivilDate} (far : ¬ date.year.natAbs ≤ maxYear) :
    kind.dateOf literal date target = .error (kind.misfit literal target) := by
  rw [dateOf, Date.ofCivil?, if_neg fun both => far both.2]
  rfl

variable {time : ClockTime} {text : List Char}

theorem exists_timeOf (written : TimeText time text) (whole : time.InNanos) :
    ∃ value : TimeOfDay, value.Shows time ∧ kind.timeOf literal time target = .ok value := by
  obtain ⟨hour_le, minute_le, second_le⟩ := written.range
  obtain ⟨nanos, found⟩ := exists_nanosOfFraction? written.run whole
  obtain ⟨value, built, hour, minute, second, nano⟩ :=
    TimeOfDay.exists_clock hour_le minute_le second_le (nanosOfFraction?_lt found)
  refine ⟨value, ⟨hour, minute, second, ?_⟩, ?_⟩
  · rw [nano]
    exact nanosOfFraction?_value found
  · rw [timeOf, found, orMisfit, ok_bind, built]

theorem timeOf_of_fine (fine : ¬ time.InNanos) :
    kind.timeOf literal time target = .error (kind.misfit literal target) := by
  have refused : nanosOfFraction? (time.fraction.getD []) = none :=
    Option.eq_none_iff_forall_ne_some.2 fun _ found => fine (zeros_of_nanosOfFraction? found)
  rw [timeOf, refused]
  rfl

variable {instant : InstantSpelling}

theorem exists_instantLiteralValue (written : instant.WrittenAs text)
    (near : instant.date.year.natAbs ≤ maxYear) (whole : instant.time.InNanos) :
    ∃ shown : DateTimeOffset, shown.Shows instant ∧
      instantLiteralValue literal instant .dateTimeOffset = .ok (.dateTimeOffset shown) := by
  cases written with
  | intro dateWritten timeWritten offsetWritten =>
    obtain ⟨day, civil, day_read⟩ := exists_dateOf dateWritten.real near
    obtain ⟨time, shows, time_read⟩ := exists_timeOf timeWritten whole
    obtain ⟨shown, found, date, clock, offset⟩ :=
      DateTimeOffset.exists_ofLocal? day time offsetWritten.natAbs_le
    exact ⟨shown, ⟨date ▸ civil, clock ▸ shows, offset⟩,
      instantLiteralValue_of_parts literal day_read time_read found⟩

/-- The date is looked at before the time, but both are refused in the same words. -/
theorem instantLiteralValue_of_unfit (written : instant.WrittenAs text)
    (unfit : ¬ (instant.date.year.natAbs ≤ maxYear ∧ instant.time.InNanos)) :
    instantLiteralValue literal instant .dateTimeOffset =
      .error (dateTimeOffset.misfit literal .dateTimeOffset) := by
  rw [instantLiteralValue]
  by_cases near : instant.date.year.natAbs ≤ maxYear
  · cases written with
    | intro dateWritten _ _ =>
      obtain ⟨day, -, day_read⟩ := exists_dateOf dateWritten.real near
      rw [day_read, ok_bind, timeOf_of_fine fun whole => unfit ⟨near, whole⟩]
      rfl
  · rw [dateOf_of_far near]
    rfl

end Parts

end PrimitiveKind

namespace ScalarType

/-- A valid literal is read into the host type of its kind if it fits, and is refused as too much
for this type if it does not. -/
def ReadsIf (kind : PrimitiveKind) (literal : String) (fits : Prop) (shows : Value → Prop) : Prop :=
  (fits → ∃ value, shows value ∧
    (primitive kind).read .empty kind.hostType (some literal) = .ok (some value)) ∧
  (¬ fits → (primitive kind).read .empty kind.hostType (some literal) =
    .error (.doesNotFit kind.qualifiedName literal kind.hostType))

section Spellings

variable {kind : PrimitiveKind} {literal : String} {spelling : kind.Spelling}

theorem readsIf_of_spelling {fits : Prop} {shows : Value → Prop}
    (spelled : kind.spelling? literal = some spelling)
    (taken : fits → ∃ value, shows value ∧
      kind.spellingValue literal spelling kind.hostType = .ok value)
    (refused : ¬ fits → kind.spellingValue literal spelling kind.hostType =
      .error (kind.misfit literal kind.hostType)) : ReadsIf kind literal fits shows := by
  constructor
  · intro fit
    obtain ⟨value, shown, done⟩ := taken fit
    exact ⟨value, shown, by rw [read_empty spelled, done]; rfl⟩
  · intro unfit
    rw [read_empty spelled, refused unfit]
    rfl

end Spellings

/-- The literals of dates, times of day and instants are the texts that are written like them. Each
is read into the host type of its kind exactly if its year lies within six digits and nothing but
zeros is written below the nanosecond, and then the value has the fields that are written. -/
theorem temporal_exactly (literal : String) :
    ((primitive .date).validates .empty (some literal) = true ↔
      ∃ date, DateText date literal.toList) ∧
    ((primitive .timeOfDay).validates .empty (some literal) = true ↔
      ∃ time, TimeText time literal.toList) ∧
    ((primitive .dateTimeOffset).validates .empty (some literal) = true ↔
      ∃ instant : InstantSpelling, instant.WrittenAs literal.toList) ∧
    (∀ date, DateText date literal.toList →
      ReadsIf .date literal (date.year.natAbs ≤ 999999) fun value =>
        ∃ day : Date, value = .date day ∧ day.civil = date) ∧
    (∀ time, TimeText time literal.toList →
      ReadsIf .timeOfDay literal time.InNanos fun value =>
        ∃ shown : TimeOfDay, value = .timeOfDay shown ∧ shown.Shows time) ∧
    ∀ instant : InstantSpelling, instant.WrittenAs literal.toList →
      ReadsIf .dateTimeOffset literal
        (instant.date.year.natAbs ≤ 999999 ∧ instant.time.InNanos) fun value =>
          ∃ shown : DateTimeOffset, value = .dateTimeOffset shown ∧ shown.Shows instant := by
  refine ⟨?_, ?_, ?_, ?_, ?_, ?_⟩
  · exact validates_empty_iff.trans (exists_congr fun _ => readDate?_eq_some_iff)
  · exact validates_empty_iff.trans (exists_congr fun _ => readTime?_eq_some_iff)
  · exact validates_empty_iff.trans (exists_congr fun _ => InstantSpelling.read?_eq_some_iff)
  · intro date written
    refine readsIf_of_spelling (readDate?_eq_some_iff.2 written) ?_ ?_
    · intro near
      obtain ⟨day, same, done⟩ := PrimitiveKind.exists_dateOf written.real near
      exact ⟨.date day, ⟨day, rfl, same⟩, map_eq_ok_iff.2 ⟨day, done, rfl⟩⟩
    · intro far
      exact map_eq_error_iff.2 (PrimitiveKind.dateOf_of_far far)
  · intro time written
    refine readsIf_of_spelling (readTime?_eq_some_iff.2 written) ?_ ?_
    · intro whole
      obtain ⟨shown, shows, done⟩ := PrimitiveKind.exists_timeOf written whole
      exact ⟨.timeOfDay shown, ⟨shown, rfl, shows⟩, map_eq_ok_iff.2 ⟨shown, done, rfl⟩⟩
    · intro fine
      exact map_eq_error_iff.2 (PrimitiveKind.timeOf_of_fine fine)
  · intro instant written
    refine readsIf_of_spelling (InstantSpelling.read?_eq_some_iff.2 written) ?_ ?_
    · rintro ⟨near, whole⟩
      obtain ⟨shown, shows, done⟩ := PrimitiveKind.exists_instantLiteralValue written near whole
      exact ⟨.dateTimeOffset shown, ⟨shown, rfl, shows⟩, done⟩
    · exact PrimitiveKind.instantLiteralValue_of_unfit written

/-- Year zero has a leap day, and its sign does not count; a tenth of a nanosecond is too fine. -/
theorem temporal_exactly_sample :
    (∃ shown : DateTimeOffset,
      (primitive .dateTimeOffset).read .empty .dateTimeOffset (some "-0000-02-29T23:59-24:00") =
        .ok (some (.dateTimeOffset shown)) ∧ shown.Shows ⟨⟨0, 2, 29⟩, ⟨23, 59, 0, none⟩, -1440⟩) ∧
    (primitive .timeOfDay).validates .empty (some "12:00:00.0000000001") = true ∧
    (primitive .timeOfDay).read .empty .timeOfDay (some "12:00:00.0000000001") =
      .error (.doesNotFit (.primitive "TimeOfDay") "12:00:00.0000000001" .timeOfDay) := by
  have instant : InstantSpelling.WrittenAs ⟨⟨0, 2, 29⟩, ⟨23, 59, 0, none⟩, -1440⟩
      "-0000-02-29T23:59-24:00".toList := InstantSpelling.read?_eq_some_iff.1 rfl
  have time : TimeText ⟨12, 0, 0, some "0000000001".toList⟩ "12:00:00.0000000001".toList :=
    readTime?_eq_some_iff.1 rfl
  obtain ⟨-, valid, -, -, times, -⟩ := temporal_exactly "12:00:00.0000000001"
  obtain ⟨-, -, -, -, -, instants⟩ := temporal_exactly "-0000-02-29T23:59-24:00"
  obtain ⟨_, ⟨shown, rfl, shows⟩, done⟩ := (instants _ instant).1 (by decide)
  exact ⟨⟨shown, done, shows⟩, valid.2 ⟨_, time⟩, (times _ time).2 (by decide)⟩

end ScalarType

end EntityModel
