import EntityModel.Calendar.Fragment
import EntityModel.Proofs.Outcome
import EntityModel.Proofs.Text.Digits

/-!
How dates, clock times and offsets are written. Relations say which texts stand for each of them,
without a word about reading. A date is read from the front of any text, a clock time from a text
that goes on in a way that cannot be mistaken for more of it, an offset takes the whole text.
-/

set_option autoImplicit false

namespace EntityModel.Calendar

open EntityModel.Text

/-- A field has two digits. -/
inductive FieldText : Nat → List Char → Prop where
  | digits {tens ones : Char} : tens.isDigit = true → ones.isDigit = true →
      FieldText (digitsValue [tens, ones]) [tens, ones]

/-- A year has four digits or more, whose number takes no more than 63 bits, and perhaps a minus
sign, even in front of zeros. -/
inductive YearText : Int → List Char → Prop where
  | plain {digits : List Char} : Digits digits → 4 ≤ digits.length → digitsValue digits < 2 ^ 63 →
      YearText (digitsValue digits) digits
  | minus {digits : List Char} : Digits digits → 4 ≤ digits.length → digitsValue digits < 2 ^ 63 →
      YearText (-(digitsValue digits : Int)) ('-' :: digits)

/-- A date is one that the calendar has. -/
inductive DateText (date : CivilDate) : List Char → Prop where
  | intro {year month day : List Char} : YearText date.year year → FieldText date.month month →
      FieldText date.day day → date.Exists →
      DateText date (year ++ '-' :: (month ++ '-' :: day))

/-- Seconds may be left out, and so may their fraction. -/
inductive SecondText : Nat → Option (List Char) → List Char → Prop where
  | omitted : SecondText 0 none []
  | whole {second : Nat} {field : List Char} : FieldText second field →
      SecondText second none (':' :: field)
  | fraction {second : Nat} {field digits : List Char} : FieldText second field → Digits digits →
      1 ≤ digits.length → digits.length ≤ 12 →
      SecondText second (some digits) (':' :: (field ++ '.' :: digits))

/-- A clock time lies within one day. -/
inductive TimeText (time : ClockTime) : List Char → Prop where
  | intro {hour minute seconds : List Char} : FieldText time.hour hour →
      FieldText time.minute minute → SecondText time.second time.fraction seconds →
      time.hour ≤ 23 → time.minute ≤ 59 → time.second ≤ 59 →
      TimeText time (hour ++ ':' :: (minute ++ seconds))

/-- An offset goes up to 24 hours in either direction. -/
inductive OffsetText : Int → List Char → Prop where
  | universal : OffsetText 0 ['Z']
  | plus {hours minutes : Nat} {h m : List Char} : FieldText hours h → FieldText minutes m →
      minutes ≤ 59 → hours * 60 + minutes ≤ 24 * 60 →
      OffsetText (hours * 60 + minutes) ('+' :: (h ++ ':' :: m))
  | minus {hours minutes : Nat} {h m : List Char} : FieldText hours h → FieldText minutes m →
      minutes ≤ 59 → hours * 60 + minutes ≤ 24 * 60 →
      OffsetText (-(hours * 60 + minutes)) ('-' :: (h ++ ':' :: m))

/-- A text that does not go on like a clock time. -/
structure EndsTime (rest : List Char) : Prop where
  noDigit : Breaks rest
  noColon : rest.head? ≠ some ':'
  noPoint : rest.head? ≠ some '.'

variable {text rest : List Char} {n : Nat}

section Fields

theorem expectChar_eq_ok_iff {c : Char} {otherwise : FragmentError} :
    expectChar c otherwise text = .ok rest ↔ text = c :: rest := by
  rw [expectChar, ← readChar?_eq_some_iff]
  cases readChar? c text <;> simp

@[simp] theorem expectChar_cons (c : Char) (otherwise : FragmentError) (rest : List Char) :
    expectChar c otherwise (c :: rest) = .ok rest :=
  expectChar_eq_ok_iff.2 rfl

theorem readTwoDigits_eq_ok_iff {field : Field} :
    readTwoDigits field text = .ok (n, rest) ↔
      ∃ start, FieldText n start ∧ text = start ++ rest := by
  constructor
  · intro read
    unfold readTwoDigits at read
    split at read
    · next tens ones after =>
      split at read
      · next digits =>
        cases read
        exact ⟨_, .digits digits.1 digits.2, rfl⟩
      · cases read
    · cases read
  · rintro ⟨start, ⟨tens, ones⟩, rfl⟩
    exact if_pos ⟨tens, ones⟩

theorem FieldText.read {start : List Char} (written : FieldText n start) (field : Field)
    (rest : List Char) : readTwoDigits field (start ++ rest) = .ok (n, rest) :=
  readTwoDigits_eq_ok_iff.2 ⟨start, written, rfl⟩

theorem FieldText.two_digits {start : List Char} (written : FieldText n start) :
    ∃ tens ones : Char, start = [tens, ones] ∧ tens.isDigit = true ∧ ones.isDigit = true := by
  cases written with
  | digits tens ones => exact ⟨_, _, rfl, tens, ones⟩

end Fields

section Dates

variable {year : Int} {date : CivilDate} {start digits : List Char}

/-- What follows a minus sign, if there is one in front. -/
def unsigned (text : List Char) : List Char := if text.head? = some '-' then text.tail else text

theorem head?_ne_hyphen (run : Digits digits) (filled : digits ≠ []) (rest : List Char) :
    (digits ++ rest).head? ≠ some '-' := by
  cases digits with
  | nil => exact absurd rfl filled
  | cons c digits =>
    intro same
    obtain rfl : c = '-' := Option.some.inj same
    exact absurd (run '-' List.mem_cons_self) (by decide)

/-- The year that the digits after the sign denote. -/
def yearOf (text digits : List Char) : Int :=
  if text.head? = some '-' then -(digitsValue digits : Int) else digitsValue digits

theorem yearText_takeWhile (text : List Char)
    (long : 4 ≤ ((unsigned text).takeWhile Char.isDigit).length)
    (small : digitsValue ((unsigned text).takeWhile Char.isDigit) < 2 ^ 63) :
    ∃ start, YearText (yearOf text ((unsigned text).takeWhile Char.isDigit)) start ∧
      text = start ++ (unsigned text).dropWhile Char.isDigit := by
  have run := digits_takeWhile (unsigned text)
  have parts := List.takeWhile_append_dropWhile (p := Char.isDigit) (l := unsigned text)
  generalize (unsigned text).takeWhile Char.isDigit = digits at *
  generalize (unsigned text).dropWhile Char.isDigit = rest at *
  by_cases negative : text.head? = some '-'
  · obtain ⟨after, rfl⟩ : ∃ after, text = '-' :: after := List.head?_eq_some_iff.1 negative
    refine ⟨_, by rw [yearOf, if_pos negative]; exact .minus run long small, ?_⟩
    rw [List.cons_append, parts]
    rfl
  · refine ⟨_, by rw [yearOf, if_neg negative]; exact .plain run long small, ?_⟩
    rw [parts, unsigned, if_neg negative]

theorem YearText.split (written : YearText year start) (broken : Breaks rest) :
    ∃ digits, 4 ≤ digits.length ∧ digitsValue digits < 2 ^ 63 ∧
      (unsigned (start ++ rest)).takeWhile Char.isDigit = digits ∧
      (unsigned (start ++ rest)).dropWhile Char.isDigit = rest ∧
      yearOf (start ++ rest) digits = year := by
  cases written with
  | plain run long small =>
    have plain := head?_ne_hyphen run (List.length_pos_iff.1 (by omega)) rest
    refine ⟨start, long, small, ?_, ?_, if_neg plain⟩ <;> rw [unsigned, if_neg plain]
    · exact run.takeWhile_append broken
    · exact run.dropWhile_append broken
  | minus run long small =>
    exact ⟨_, long, small, run.takeWhile_append broken, run.dropWhile_append broken, rfl⟩

/-- The hyphen after the year ends its digits, so the front of the text alone decides. -/
theorem readDate_eq_ok_iff :
    readDate text = .ok (date, rest) ↔ ∃ start, DateText date start ∧ text = start ++ rest := by
  simp only [readDate, ite_error_eq_ok_iff, bind_eq_ok_iff, expectChar_eq_ok_iff,
    readTwoDigits_eq_ok_iff, Prod.exists, Except.ok.injEq, Prod.mk.injEq]
  constructor
  · -- Each piece is what the one before it has left.
    rintro ⟨bounds, afterYear, ends, month, afterMonth, ⟨monthText, monthWritten, rfl⟩, beforeDay,
      rfl, day, afterDay, ⟨dayText, dayWritten, rfl⟩, monthExists, dayExists, rfl, rfl⟩
    obtain ⟨long, small⟩ := not_or.1 bounds
    obtain ⟨yearText, yearWritten, parts⟩ :=
      yearText_takeWhile text (Nat.not_lt.1 long) (Nat.not_le.1 small)
    rw [unsigned, ends] at parts
    refine ⟨_, .intro yearWritten monthWritten dayWritten ?_, by rw [parts]; simp⟩
    simp only [CivilDate.Exists]
    omega
  · rintro ⟨start, written, rfl⟩
    cases written with
    | @intro yearText monthText dayText yearWritten monthWritten dayWritten real =>
      have broken := breaks_cons (c := '-') rfl (monthText ++ '-' :: (dayText ++ rest))
      obtain ⟨digits, long, small, taken, dropped, year⟩ := yearWritten.split broken
      obtain ⟨month_ge, month_le, day_ge, day_le⟩ := real
      simp only [unsigned, yearOf] at taken dropped year
      simp only [List.append_assoc, List.cons_append, taken, dropped, year]
      exact ⟨by omega, _, rfl, _, _, ⟨_, monthWritten, rfl⟩, _, rfl, _, _, ⟨_, dayWritten, rfl⟩,
        by omega, by omega, rfl, rfl⟩

theorem DateText.real (written : DateText date text) : date.Exists := by
  cases written with
  | intro _ _ _ real => exact real

end Dates

section Times

variable {second : Nat} {fraction : Option (List Char)} {start : List Char} {whole : String}
  {time : ClockTime}

theorem SecondText.read (written : SecondText second fraction start) (ends : EndsTime rest) :
    readSeconds whole (start ++ rest) = .ok (second, fraction, rest) := by
  have point := readChar?_eq_none_iff.2 ends.noPoint
  cases written with
  | omitted => rw [List.nil_append, readSeconds, readChar?_eq_none_iff.2 ends.noColon]
  | whole field =>
    simp only [readSeconds, List.cons_append, readChar?_cons, field.read, ok_bind, point]
  | fraction field run filled short =>
    have digits_read : readDigits? maxFractionDigits _ = _ :=
      readDigits?_append run ends.noDigit filled short
    simp only [readSeconds, List.cons_append, List.append_assoc, readChar?_cons, field.read,
      ok_bind, digits_read]

theorem exists_secondText (read : readSeconds whole text = .ok (second, fraction, rest)) :
    ∃ start, SecondText second fraction start ∧ text = start ++ rest := by
  unfold readSeconds at read
  split at read
  · cases read
    exact ⟨[], .omitted, rfl⟩
  · next after colon =>
    obtain rfl := readChar?_eq_some_iff.1 colon
    obtain ⟨⟨value, afterField⟩, field_read, ended⟩ := bind_eq_ok_iff.1 read
    obtain ⟨field, written, rfl⟩ := readTwoDigits_eq_ok_iff.1 field_read
    dsimp only at ended
    split at ended
    · cases ended
      exact ⟨_, .whole written, rfl⟩
    · next afterPoint point =>
      obtain rfl := readChar?_eq_some_iff.1 point
      split at ended
      · next digits after found =>
        cases ended
        obtain ⟨rfl, run, filled, short⟩ := readDigits?_eq_some found
        exact ⟨_, .fraction written run filled short, by simp⟩
      · cases ended

/-- A clock time is read if the text does not go on like one. -/
theorem TimeText.read (written : TimeText time start) (ends : EndsTime rest) :
    readTime (start ++ rest) = .ok (time, rest) := by
  cases written with
  | intro hour minute seconds hour_le minute_le second_le =>
    simp only [readTime, List.append_assoc, List.cons_append, hour.read, minute.read, ok_bind,
      expectChar_cons, seconds.read ends]
    rw [if_neg (Nat.not_lt.2 hour_le), if_neg (Nat.not_lt.2 minute_le),
      if_neg (Nat.not_lt.2 second_le)]

theorem exists_timeText (read : readTime text = .ok (time, rest)) :
    ∃ start, TimeText time start ∧ text = start ++ rest := by
  simp only [readTime, ite_error_eq_ok_iff, bind_eq_ok_iff, expectChar_eq_ok_iff,
    readTwoDigits_eq_ok_iff, Prod.exists, Except.ok.injEq, Prod.mk.injEq] at read
  obtain ⟨hour, afterHour, ⟨hourText, hourWritten, rfl⟩, beforeMinute, rfl, minute, afterMinute,
    ⟨minuteText, minuteWritten, rfl⟩, second, fraction, after, seconds, hour_le, minute_le,
    second_le, rfl, rfl⟩ := read
  obtain ⟨secondText, secondWritten, rfl⟩ := exists_secondText seconds
  exact ⟨_, .intro hourWritten minuteWritten secondWritten (Nat.not_lt.1 hour_le)
    (Nat.not_lt.1 minute_le) (Nat.not_lt.1 second_le), by simp⟩

theorem TimeText.range (written : TimeText time text) :
    time.hour ≤ 23 ∧ time.minute ≤ 59 ∧ time.second ≤ 59 := by
  cases written with
  | intro _ _ _ hour_le minute_le second_le => exact ⟨hour_le, minute_le, second_le⟩

theorem SecondText.run (written : SecondText second fraction text) :
    Digits (fraction.getD []) := by
  cases written with
  | omitted | whole => exact digits_nil
  | fraction _ run => exact run

theorem TimeText.run (written : TimeText time text) : Digits (time.fraction.getD []) := by
  cases written with
  | intro _ _ seconds => exact seconds.run

theorem endsTime_nil : EndsTime [] := ⟨breaks_nil, nofun, nofun⟩

end Times

section Offsets

theorem toNat_lt_of_isDigit {c : Char} (digit : c.isDigit = true) : c.toNat < 128 := by
  obtain ⟨n, small, rfl⟩ := exists_digitChar digit
  rw [Nat.toNat_digitChar_of_lt_ten small]
  omega

theorem fieldText_of_read {field : Field} {tens ones : Char}
    (read : readTwoDigits field [tens, ones] = .ok (n, rest)) : FieldText n [tens, ones] := by
  obtain ⟨start, written, parts⟩ := readTwoDigits_eq_ok_iff.1 read
  cases written with
  | digits tensDigit onesDigit =>
    cases parts
    exact .digits tensDigit onesDigit

theorem readOffset_signed {sign : Char} {hours minutes : Nat} {hoursText minutesText : List Char}
    (signed : sign = '+' ∨ sign = '-') (hoursWritten : FieldText hours hoursText)
    (minutesWritten : FieldText minutes minutesText) (le : minutes ≤ 59)
    (total : hours * 60 + minutes ≤ 24 * 60) :
    readOffset (sign :: (hoursText ++ ':' :: minutesText)) =
      .ok (if sign = '-' then -(hours * 60 + minutes) else hours * 60 + minutes) := by
  have hours_read := hoursWritten.read .offsetHours []
  have minutes_read := minutesWritten.read .offsetMinutes []
  obtain ⟨h, h', rfl, hDigit, h'Digit⟩ := hoursWritten.two_digits
  obtain ⟨m, m', rfl, mDigit, m'Digit⟩ := minutesWritten.two_digits
  have low : sign.toNat < 128 := by rcases signed with rfl | rfl <;> decide
  have ascii : [sign, h, h', ':', m, m'].all (·.toNat < 128) = true := by
    simp [low, toNat_lt_of_isDigit, hDigit, h'Digit, mDigit, m'Digit]
  have marks : ¬ (sign ≠ '+' ∧ sign ≠ '-') := not_and_or.2 (signed.imp not_not.2 not_not.2)
  have bounds : ¬ (24 < hours ∨ hours = 24 ∧ minutes ≠ 0 ∨ 59 < minutes) := by omega
  simp only [List.append_nil] at hours_read minutes_read
  simp only [readOffset, List.cons_append, List.nil_append, ascii, marks, bounds, hours_read,
    minutes_read, ok_bind, not_true_eq_false, ne_eq, or_self, if_false]

/-- An offset is read from the texts that stand for it, and from nothing else. -/
theorem readOffset_eq_ok_iff {offset : Int} :
    readOffset text = .ok offset ↔ OffsetText offset text := by
  constructor
  · intro read
    unfold readOffset at read
    dsimp only at read
    split at read
    · cases read
      exact .universal
    · next sign h h' colon m m' =>
      simp only [ite_error_eq_ok_iff, bind_eq_ok_iff, Prod.exists, Except.ok.injEq] at read
      obtain ⟨marks, hours, _, hours_read, minutes, _, minutes_read, bounds, same⟩ := read
      have hoursWritten := fieldText_of_read hours_read
      have minutesWritten := fieldText_of_read minutes_read
      obtain ⟨-, signs, rfl⟩ : _ ∧ (sign = '-' ∨ sign = '+') ∧ colon = ':' := by
        simpa [not_or, imp_iff_or_not] using marks
      rw [← same]
      rcases signs with rfl | rfl
      · exact .minus hoursWritten minutesWritten (by omega) (by omega)
      · exact .plus hoursWritten minutesWritten (by omega) (by omega)
    · cases read
  · intro written
    cases written with
    | universal => rfl
    | plus hours minutes le total => exact readOffset_signed (.inl rfl) hours minutes le total
    | minus hours minutes le total => exact readOffset_signed (.inr rfl) hours minutes le total

theorem OffsetText.endsTime {offset : Int} (written : OffsetText offset text) : EndsTime text := by
  cases written <;> exact ⟨breaks_cons rfl _, by simp, by simp⟩

end Offsets

end EntityModel.Calendar
