import EntityModel.Literal.Instant
import EntityModel.Proofs.Calendar.Notation

/-!
How dates, times of day and instants are written as literals. The readers take exactly the texts
that stand for them.
-/

set_option autoImplicit false

namespace EntityModel

open EntityModel.Calendar EntityModel.Text

variable {text : List Char}

theorem readDate?_eq_some_iff {date : CivilDate} :
    readDate? text = some date ↔ DateText date text := by
  have front : readWholeDate text = .ok date ↔ readDate text = .ok (date, []) := by
    unfold readWholeDate
    split <;> simp [*]
  rw [readDate?, toOption_eq_some_iff, front, readDate_eq_ok_iff]
  simp

theorem readTime?_eq_some_iff {time : ClockTime} :
    readTime? text = some time ↔ TimeText time text := by
  constructor
  · intro read
    unfold readTime? at read
    split at read
    · next found =>
      cases read
      obtain ⟨start, written, rfl⟩ := exists_timeText found
      rwa [List.append_nil]
    · cases read
  · intro written
    have found := written.read endsTime_nil
    rw [List.append_nil] at found
    rw [readTime?, found]

namespace InstantSpelling

/-- The texts that stand for an instant. -/
inductive WrittenAs (instant : InstantSpelling) : List Char → Prop where
  | intro {date time offset : List Char} : DateText instant.date date →
      TimeText instant.time time → OffsetText instant.offset offset →
      WrittenAs instant (date ++ 'T' :: (time ++ offset))

/-- An offset does not look like more of a time, so an instant falls apart in one way only. -/
theorem read?_eq_some_iff {instant : InstantSpelling} :
    read? text = some instant ↔ instant.WrittenAs text := by
  simp only [read?, Option.bind_eq_bind, Option.bind_eq_some_iff, toOption_eq_some_iff,
    readChar?_eq_some_iff, readDate_eq_ok_iff, readOffset_eq_ok_iff, Prod.exists, Option.pure_def,
    Option.some_inj]
  constructor
  · rintro ⟨date, _, ⟨dateText, dateWritten, rfl⟩, rest, rfl, time, offsetText, time_read, offset,
      offsetWritten, rfl⟩
    obtain ⟨timeText, timeWritten, rfl⟩ := exists_timeText time_read
    exact .intro dateWritten timeWritten offsetWritten
  · rintro ⟨dateWritten, timeWritten, offsetWritten⟩
    exact ⟨_, _, ⟨_, dateWritten, rfl⟩, _, rfl, _, _, timeWritten.read offsetWritten.endsTime, _,
      offsetWritten, rfl⟩

/-- Date and time are read off a text, and what is left has to be an offset. -/
theorem read?_append {date : CivilDate} {time : ClockTime} {dateText timeText rest : List Char}
    (dateWritten : DateText date dateText) (timeWritten : TimeText time timeText)
    (ends : EndsTime rest) :
    read? (dateText ++ 'T' :: (timeText ++ rest)) =
      (readOffset rest).toOption.map fun offset => ⟨date, time, offset⟩ := by
  have date_read : (readDate (dateText ++ 'T' :: (timeText ++ rest))).toOption =
      some (date, 'T' :: (timeText ++ rest)) :=
    toOption_eq_some_iff.2 (readDate_eq_ok_iff.2 ⟨_, dateWritten, rfl⟩)
  have time_read := toOption_eq_some_iff.2 (timeWritten.read ends)
  rw [read?, date_read]
  simp only [Option.bind_eq_bind, Option.bind_some, readChar?_cons, time_read]
  exact Option.map_eq_bind.symm

end InstantSpelling

end EntityModel
