import EntityModel.Literal.Duration
import EntityModel.Proofs.Text.Digits

/-!
How durations are written. Relations say which texts stand for a count, for the seconds, for the
part after `T` and for a whole duration; the reader takes exactly these texts. A count is followed
by a letter of its own, so it is clear from the first letter after some digits which counts are left
out.
-/

set_option autoImplicit false

namespace EntityModel.DurationSpelling

open EntityModel.Calendar EntityModel.Text

/-- A count has digits and its letter; zero may be left out. -/
inductive CountText (letter : Char) : Nat → List Char → Prop where
  | omitted : CountText letter 0 []
  | count {digits : List Char} : Digits digits → digits ≠ [] →
      CountText letter (digitsValue digits) (digits ++ [letter])

/-- Seconds may have a fraction. -/
inductive SecondsText : Nat → Option (List Char) → List Char → Prop where
  | omitted : SecondsText 0 none []
  | whole {digits : List Char} : Digits digits → digits ≠ [] →
      SecondsText (digitsValue digits) none (digits ++ ['S'])
  | fraction {digits fraction : List Char} : Digits digits → digits ≠ [] → Digits fraction →
      1 ≤ fraction.length → fraction.length ≤ maxFractionDigits →
      SecondsText (digitsValue digits) (some fraction) (digits ++ '.' :: (fraction ++ ['S']))

/-- The part after `T` is not empty, or left out together with the `T`. -/
inductive ClockText : Nat → Nat → Nat → Option (List Char) → List Char → Prop where
  | omitted : ClockText 0 0 0 none []
  | clock {hours minutes seconds : Nat} {fraction : Option (List Char)} {h m s : List Char} :
      CountText 'H' hours h → CountText 'M' minutes m → SecondsText seconds fraction s →
      h ++ (m ++ s) ≠ [] → ClockText hours minutes seconds fraction ('T' :: (h ++ (m ++ s)))

/-- The texts that stand for a duration. -/
inductive WrittenAs (d : DurationSpelling) : List Char → Prop where
  | intro {days clock : List Char} : CountText 'D' d.days days →
      ClockText d.hours d.minutes d.seconds d.fraction clock → days ++ clock ≠ [] →
      WrittenAs d ((if d.negative then ['-'] else []) ++ 'P' :: (days ++ clock))

/-- The texts in which no count reaches the next greater unit. Days, hours and minutes are left out
if they are zero; seconds are always there. -/
inductive BalancedText (d : DurationSpelling) : List Char → Prop where
  | intro {days hours minutes seconds : List Char} : CountText 'D' d.days days →
      CountText 'H' d.hours hours → CountText 'M' d.minutes minutes →
      SecondsText d.seconds d.fraction seconds →
      (d.days = 0 → days = []) → (d.hours = 0 → hours = []) → (d.minutes = 0 → minutes = []) →
      seconds ≠ [] → d.hours < 24 → d.minutes < 60 → d.seconds < 60 →
      BalancedText d ((if d.negative then ['-'] else []) ++
        'P' :: (days ++ 'T' :: (hours ++ (minutes ++ seconds))))

theorem BalancedText.writtenAs {d : DurationSpelling} {text : List Char}
    (balanced : d.BalancedText text) : d.WrittenAs text := by
  cases balanced with
  | intro days hours minutes seconds _ _ _ filled =>
    exact .intro days (.clock hours minutes seconds (by simp [filled])) (by simp)

variable {letter mark : Char} {count hours minutes seconds : Nat} {fraction : Option (List Char)}
  {negative : Bool} {digits rest text : List Char} {d : DurationSpelling}

section Counts

theorem readCount?_append (run : Digits digits) (filled : digits ≠ [])
    (other : mark.isDigit = false) :
    readCount? letter (digits ++ mark :: rest) =
      if mark = letter then some (digitsValue digits, rest) else none := by
  have broken := breaks_cons other rest
  simp [readCount?, run.takeWhile_append broken, run.dropWhile_append broken, filled]

theorem readCount?_of_ne (run : Digits digits) (other : mark.isDigit = false)
    (apart : mark ≠ letter) : readCount? letter (digits ++ mark :: rest) = none := by
  have broken := breaks_cons other rest
  simp [readCount?, run.dropWhile_append broken, apart]

theorem readCount?_eq_some (read : readCount? letter text = some (count, rest)) :
    ∃ digits, Digits digits ∧ digits ≠ [] ∧ text = digits ++ letter :: rest ∧
      count = digitsValue digits := by
  unfold readCount? at read
  dsimp only at read
  split at read
  · next mark after ends =>
    obtain ⟨⟨filled, rfl⟩, same⟩ := Option.ite_none_right_eq_some.1 read
    cases same
    refine ⟨_, digits_takeWhile text, filled, ?_, rfl⟩
    rw [← ends, List.takeWhile_append_dropWhile]
  · cases read

/-- A count is read if what follows does not look like one. -/
theorem CountText.read (written : CountText letter count text) (other : letter.isDigit = false)
    (missing : readCount? letter rest = none) :
    readCount letter (text ++ rest) = (count, rest) := by
  unfold readCount
  cases written with
  | omitted =>
    rw [List.nil_append, missing]
    rfl
  | count run filled =>
    rw [List.append_assoc, List.singleton_append, readCount?_append run filled other, if_pos rfl]
    rfl

theorem exists_countText (read : readCount letter text = (count, rest)) :
    ∃ start, CountText letter count start ∧ text = start ++ rest := by
  unfold readCount at read
  cases found : readCount? letter text with
  | none =>
    rw [found] at read
    cases read
    exact ⟨[], .omitted, rfl⟩
  | some answer =>
    obtain ⟨value, after⟩ := answer
    rw [found] at read
    cases read
    obtain ⟨digits, run, filled, rfl, rfl⟩ := readCount?_eq_some found
    exact ⟨_, .count run filled, by simp⟩

/-- A count does not look like one with another letter. -/
theorem CountText.missing (written : CountText mark count text) (other : mark.isDigit = false)
    (apart : mark ≠ letter) (missing : readCount? letter rest = none) :
    readCount? letter (text ++ rest) = none := by
  cases written with
  | omitted => exact missing
  | count run =>
    rw [List.append_assoc]
    exact readCount?_of_ne run other apart

end Counts

section Clock

theorem SecondsText.missing (written : SecondsText seconds fraction text) (notSeconds : letter ≠ 'S')
    (notPoint : letter ≠ '.') : readCount? letter text = none := by
  cases written with
  | omitted => rfl
  | whole run => exact readCount?_of_ne run rfl notSeconds.symm
  | fraction run => exact readCount?_of_ne run rfl notPoint.symm

theorem SecondsText.read (written : SecondsText seconds fraction text) :
    readSeconds text = (seconds, fraction, []) := by
  cases written with
  | omitted => rfl
  | whole run filled =>
    rw [readSeconds, readCount?_append run filled rfl, if_pos rfl]
  | fraction run filled fractionRun fractionFilled short =>
    have broken (after : List Char) := breaks_cons (c := '.') rfl after
    have missing (after : List Char) : readCount? 'S' (_ ++ '.' :: after) = none :=
      readCount?_of_ne run rfl (by decide)
    have found := readDigits?_append fractionRun (breaks_cons (c := 'S') rfl []) fractionFilled
      short
    simp only [readSeconds, missing, run.takeWhile_append (broken _),
      run.dropWhile_append (broken _), found, if_neg filled]

theorem exists_secondsText (read : readSeconds text = (seconds, fraction, rest)) :
    ∃ start, SecondsText seconds fraction start ∧ text = start ++ rest := by
  -- Whatever does not look like seconds is left where it is.
  have nothing (same : (0, none, text) = (seconds, fraction, rest)) :
      ∃ start, SecondsText seconds fraction start ∧ text = start ++ rest := by
    cases same
    exact ⟨[], .omitted, rfl⟩
  unfold readSeconds at read
  split at read
  · next found =>
    cases read
    obtain ⟨digits, run, filled, rfl, rfl⟩ := readCount?_eq_some found
    exact ⟨_, .whole run filled, by simp⟩
  dsimp only at read
  split at read
  · next after ends =>
    split at read
    · next found =>
      split at read
      · exact nothing read
      · next filled =>
        cases read
        obtain ⟨rfl, fractionRun, fractionFilled, short⟩ := readDigits?_eq_some found
        refine ⟨_, .fraction (digits_takeWhile text) filled fractionRun fractionFilled short, ?_⟩
        calc text
          _ = text.takeWhile Char.isDigit ++ text.dropWhile Char.isDigit :=
            List.takeWhile_append_dropWhile.symm
          _ = _ := by rw [ends]; simp
    · exact nothing read
  · exact nothing read

theorem readClock?_eq_some_iff {days : Nat} :
    readClock? negative days text = some d ↔
      ∃ hours minutes seconds fraction, ClockText hours minutes seconds fraction ('T' :: text) ∧
        d = ⟨negative, days, hours, minutes, seconds, fraction⟩ := by
  constructor
  · intro read
    unfold readClock? at read
    cases hoursRead : readCount 'H' text with
    | mk hours afterHours =>
    cases minutesRead : readCount 'M' afterHours with
    | mk minutes afterMinutes =>
    rcases secondsRead : readSeconds afterMinutes with ⟨seconds, fraction, rest⟩
    simp only [hoursRead, minutesRead, secondsRead, Option.ite_none_right_eq_some] at read
    obtain ⟨⟨filled, rfl⟩, same⟩ := read
    obtain ⟨h, hoursText, rfl⟩ := exists_countText hoursRead
    obtain ⟨m, minutesText, rfl⟩ := exists_countText minutesRead
    obtain ⟨s, secondsText, rfl⟩ := exists_secondsText secondsRead
    rw [List.append_nil] at filled ⊢
    exact ⟨hours, minutes, seconds, fraction, .clock hoursText minutesText secondsText filled,
      (Option.some.inj same).symm⟩
  · rintro ⟨hours, minutes, seconds, fraction, written, rfl⟩
    cases written with
    | clock hoursText minutesText secondsText filled =>
      -- A count that is left out is not mistaken for one that comes after it.
      have noMinutes : readCount? 'M' _ = none := secondsText.missing (by decide) (by decide)
      have noHours : readCount? 'H' _ = none :=
        minutesText.missing rfl (by decide) (secondsText.missing (by decide) (by decide))
      simp only [readClock?, hoursText.read rfl noHours, minutesText.read rfl noMinutes,
        secondsText.read]
      exact if_pos ⟨filled, trivial⟩

end Clock

/-- What follows `P` is read from a count of days and a clock that are not both left out. -/
theorem readCounts?_eq_some_iff :
    readCounts? negative text = some d ↔
      ∃ days clock, CountText 'D' d.days days ∧
        ClockText d.hours d.minutes d.seconds d.fraction clock ∧ days ++ clock ≠ [] ∧
        text = days ++ clock ∧ d.negative = negative := by
  constructor
  · intro read
    unfold readCounts? at read
    split at read
    · next found =>
      cases read
      obtain ⟨digits, run, filled, rfl, rfl⟩ := readCount?_eq_some found
      exact ⟨_, [], .count run filled, .omitted, by simp, by simp, rfl⟩
    · next found =>
      obtain ⟨digits, run, filled, rfl, rfl⟩ := readCount?_eq_some found
      obtain ⟨_, _, _, _, written, rfl⟩ := readClock?_eq_some_iff.1 read
      exact ⟨_, _, .count run filled, written, by simp, by simp, rfl⟩
    · cases read
    · split at read
      · obtain ⟨_, _, _, _, written, rfl⟩ := readClock?_eq_some_iff.1 read
        exact ⟨_, _, .omitted, written, by simp, rfl, rfl⟩
      · cases read
  · obtain ⟨own, days, hours, minutes, seconds, fraction⟩ := d
    rintro ⟨daysText, clockText, written, clock, filled, rfl, rfl⟩
    dsimp only at written clock
    have clockRead (rest : List Char) (same : clockText = 'T' :: rest) :
        readClock? own days rest = some ⟨own, days, hours, minutes, seconds, fraction⟩ := by
      subst same
      exact readClock?_eq_some_iff.2 ⟨_, _, _, _, clock, rfl⟩
    cases written with
    | omitted =>
      cases clock with
      | omitted => exact absurd rfl filled
      | clock =>
        have missing (text : List Char) : readCount? 'D' ('T' :: text) = none :=
          readCount?_of_ne digits_nil rfl (by decide)
        simp only [readCounts?, List.nil_append, missing]
        exact clockRead _ rfl
    | count run daysFilled =>
      have found (digits rest : List Char) (run : Digits digits) (filled : digits ≠ []) :
          readCount? 'D' (digits ++ 'D' :: rest) = some (digitsValue digits, rest) := by
        rw [readCount?_append run filled rfl, if_pos rfl]
      simp only [readCounts?, List.append_assoc, List.singleton_append,
        found _ _ run daysFilled]
      cases clock with
      | omitted => rfl
      | clock => exact clockRead _ rfl

/-- A duration is read exactly from the texts that stand for it. -/
theorem read?_eq_some_iff : read? text = some d ↔ d.WrittenAs text := by
  constructor
  · intro read
    unfold read? at read
    split at read
    · obtain ⟨_, _, days, clock, filled, rfl, negative⟩ := readCounts?_eq_some_iff.1 read
      have written := WrittenAs.intro days clock filled
      rwa [negative] at written
    · obtain ⟨_, _, days, clock, filled, rfl, negative⟩ := readCounts?_eq_some_iff.1 read
      have written := WrittenAs.intro days clock filled
      rwa [negative] at written
    · cases read
  · rintro ⟨days, clock, filled⟩
    have counts (negative : Bool) (same : d.negative = negative) :=
      readCounts?_eq_some_iff.2 ⟨_, _, days, clock, filled, rfl, same⟩
    cases negative : d.negative with
    | true => exact counts true negative
    | false => exact counts false negative

end EntityModel.DurationSpelling
