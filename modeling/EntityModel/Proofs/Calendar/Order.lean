import EntityModel.Proofs.Calendar.Day
import EntityModel.Value.Moment
import Mathlib.Tactic.IntervalCases
import Mathlib.Tactic.Ring

/-!
Days are counted in the order of the calendar. A date stands in a year that begins in March and in a
month of this year; the count is the start of the year, the start of the month within it and the day
put together. No date reaches the start of the next month or year, so later dates have greater
counts, and no count belongs to two dates.
-/

set_option autoImplicit false

namespace EntityModel

namespace Calendar

/-- The days before a year that begins in March, from 1970-01-01. -/
def yearStart (year : Int) : Int := 365 * year + year / 4 - year / 100 + year / 400 - 719468

/-- The number of a month if March is the month zero. -/
def fromMarch (month : Nat) : Int := if month ≤ 2 then (month : Int) + 9 else (month : Int) - 3

/-- The days before a month, counted from March, within its year. -/
def monthStart (month : Int) : Int := (153 * month + 2) / 5

theorem yearStart_mono {year later : Int} (le : year ≤ later) :
    yearStart year ≤ yearStart later := by
  unfold yearStart
  omega

/-- The leap day ends a year, so it belongs to the civil year that has begun meanwhile. -/
theorem yearStart_succ (year : Int) :
    yearStart (year + 1) = yearStart year + 365 + if isLeapYear (year + 1) then 1 else 0 := by
  simp only [yearStart, isLeapYear, decide_eq_true_eq]
  split <;> omega

theorem monthStart_mono {month later : Int} (le : month ≤ later) :
    monthStart month ≤ monthStart later := by
  unfold monthStart
  omega

theorem fromMarch_range {month : Nat} (lower : 1 ≤ month) (upper : month ≤ 12) :
    0 ≤ fromMarch month ∧ fromMarch month ≤ 11 ∧ (month ≠ 2 → fromMarch month ≤ 10) := by
  unfold fromMarch
  omega

/-- Every month but February ends where the next one starts. -/
theorem daysInMonth_eq (year : Int) {month : Nat} (lower : 1 ≤ month) (upper : month ≤ 12)
    (other : month ≠ 2) : (daysInMonth year month : Int) =
      monthStart (fromMarch month + 1) - monthStart (fromMarch month) := by
  interval_cases month <;> first | contradiction | rfl

namespace CivilDate

/-- An earlier date has a smaller year, or a smaller month in the same year, or a smaller day in the
same month. -/
instance : LT CivilDate where
  lt first second := first.year < second.year ∨ first.year = second.year ∧
    (first.month < second.month ∨ first.month = second.month ∧ first.day < second.day)

/-- The year of a date if years begin in March. -/
def marchYear (date : CivilDate) : Int := if date.month ≤ 2 then date.year - 1 else date.year

variable {date first second : CivilDate}

theorem lt_iff : first < second ↔ first.year < second.year ∨ first.year = second.year ∧
    (first.month < second.month ∨ first.month = second.month ∧ first.day < second.day) := Iff.rfl

theorem lt_trichotomy (first second : CivilDate) :
    first < second ∨ first = second ∨ second < first := by
  obtain ⟨year, month, day⟩ := first
  obtain ⟨year', month', day'⟩ := second
  simp only [lt_iff, mk.injEq]
  omega

section Counting

theorem toDays_eq (date : CivilDate) : date.toDays =
    yearStart date.marchYear + monthStart (fromMarch date.month) + date.day - 1 := by
  simp only [toDays, ← marchYear.eq_1, ← fromMarch.eq_1, yearStart, monthStart]
  omega

/-- The days before the month that comes after a date. -/
def monthEnd (date : CivilDate) : Int :=
  yearStart date.marchYear + monthStart (fromMarch date.month) +
    daysInMonth date.year date.month

theorem monthEnd_eq (real : date.Exists) (other : date.month ≠ 2) :
    date.monthEnd = yearStart date.marchYear + monthStart (fromMarch date.month + 1) := by
  have length := daysInMonth_eq date.year real.1 real.2.1 other
  rw [monthEnd, length]
  omega

/-- A year that begins in March ends with February, which has the leap day. -/
theorem monthEnd_february (february : date.month = 2) :
    date.monthEnd = yearStart (date.marchYear + 1) := by
  have year : date.marchYear + 1 = date.year := by simp [marchYear, february]
  have start : monthStart (fromMarch 2) = 337 := rfl
  rw [yearStart_succ, year, monthEnd, february, start, daysInMonth]
  split <;> push_cast <;> ring

theorem Exists.yearStart_le (real : date.Exists) : yearStart date.marchYear ≤ date.toDays := by
  obtain ⟨lower, upper, first_le, -⟩ := real
  have start : monthStart 0 ≤ monthStart (fromMarch date.month) :=
    monthStart_mono (fromMarch_range lower upper).1
  have zero : monthStart 0 = 0 := rfl
  rw [toDays_eq]
  omega

theorem Exists.toDays_lt_month (real : date.Exists) : date.toDays < date.monthEnd := by
  have day_le := real.2.2.2
  rw [toDays_eq, monthEnd]
  omega

theorem Exists.toDays_lt_year (real : date.Exists) :
    date.toDays < yearStart (date.marchYear + 1) := by
  refine Int.lt_of_lt_of_le real.toDays_lt_month ?_
  by_cases february : date.month = 2
  · exact Int.le_of_eq (monthEnd_february february)
  · have last : monthStart (fromMarch date.month + 1) ≤ monthStart 11 := by
      have range := (fromMarch_range real.1 real.2.1).2.2 february
      exact monthStart_mono (by omega)
    have length : monthStart 11 = 337 := rfl
    rw [monthEnd_eq real february, yearStart_succ]
    split <;> omega

end Counting

section Order

/-- The order of dates does not depend on the month in which years begin. -/
theorem lt_march (real : first.Exists) (real' : second.Exists) (less : first < second) :
    first.marchYear < second.marchYear ∨ first.marchYear = second.marchYear ∧
      (fromMarch first.month < fromMarch second.month ∨
        first.month = second.month ∧ first.day < second.day) := by
  obtain ⟨lower, upper, -⟩ := real
  obtain ⟨lower', upper', -⟩ := real'
  rw [lt_iff] at less
  simp only [marchYear, fromMarch]
  omega

theorem toDays_lt (real : first.Exists) (real' : second.Exists) (less : first < second) :
    first.toDays < second.toDays := by
  rcases lt_march real real' less with year | ⟨sameYear, month | ⟨sameMonth, day⟩⟩
  · calc first.toDays
      _ < yearStart (first.marchYear + 1) := real.toDays_lt_year
      _ ≤ yearStart second.marchYear := yearStart_mono year
      _ ≤ second.toDays := real'.yearStart_le
  · have other : first.month ≠ 2 := by
      have last := (fromMarch_range real'.1 real'.2.1).2.1
      rintro february
      rw [february] at month
      exact absurd last (Int.not_le.2 month)
    have next : monthStart (fromMarch first.month + 1) ≤ monthStart (fromMarch second.month) :=
      monthStart_mono month
    have ends := real.toDays_lt_month
    have begins := real'.2.2.1
    rw [monthEnd_eq real other] at ends
    rw [toDays_eq second, ← sameYear]
    omega
  · rw [toDays_eq, toDays_eq, sameYear, sameMonth]
    omega

/-- Dates are counted in their order. -/
theorem toDays_lt_iff (real : first.Exists) (real' : second.Exists) :
    first.toDays < second.toDays ↔ first < second := by
  constructor
  · intro fewer
    rcases lt_trichotomy first second with less | rfl | greater
    · exact less
    · exact absurd fewer (Int.lt_irrefl _)
    · exact absurd (toDays_lt real' real greater) (Int.lt_asymm fewer)
  · exact toDays_lt real real'

theorem toDays_inj (real : first.Exists) (real' : second.Exists)
    (same : first.toDays = second.toDays) : first = second := by
  rcases lt_trichotomy first second with less | same' | greater
  · exact absurd same (Int.ne_of_lt (toDays_lt real real' less))
  · exact same'
  · exact absurd same.symm (Int.ne_of_lt (toDays_lt real' real greater))

/-- A date is found again by its count. -/
theorem ofDays_toDays (real : date.Exists) : ofDays date.toDays = date :=
  toDays_inj (exists_ofDays _) real (toDays_ofDays _)

end Order

section Successor

/-- The day after a date. -/
def next (date : CivilDate) : CivilDate :=
  if date.day < daysInMonth date.year date.month then { date with day := date.day + 1 }
  else if date.month < 12 then ⟨date.year, date.month + 1, 1⟩
  else ⟨date.year + 1, 1, 1⟩

theorem one_le_daysInMonth (year : Int) {month : Nat} (lower : 1 ≤ month) (upper : month ≤ 12) :
    1 ≤ daysInMonth year month := by
  by_cases february : month = 2
  · rw [february, daysInMonth]
    split <;> decide
  · have length := daysInMonth_eq year lower upper february
    rw [monthStart, monthStart] at length
    omega

theorem exists_next (real : date.Exists) : date.next.Exists := by
  obtain ⟨lower, upper, first_le, -⟩ := real
  have one_le (month : Nat) : 1 ≤ month + 1 := Nat.le_add_left 1 month
  unfold next
  split
  · next within => exact ⟨lower, upper, one_le _, within⟩
  split
  · next early =>
    exact ⟨one_le _, early, Nat.le_refl 1, one_le_daysInMonth _ (one_le _) early⟩
  · exact ⟨Nat.le_refl 1, one_le 11, Nat.le_refl 1,
      one_le_daysInMonth _ (Nat.le_refl 1) (one_le 11)⟩

theorem toDays_next (real : date.Exists) : date.next.toDays = date.toDays + 1 := by
  have day_le := real.2.2.2
  have upper := real.2.1
  unfold next
  split
  · next within =>
    simp only [toDays_eq, marchYear]
    omega
  next full =>
  -- The last day of a month is followed by the day with which the next month starts.
  have last : date.toDays + 1 = date.monthEnd := by
    rw [toDays_eq, monthEnd]
    omega
  rw [last, toDays_eq]
  by_cases february : date.month = 2
  · have early : date.month < 12 := by omega
    have year : date.marchYear + 1 = date.year := by simp [marchYear, february]
    have start : monthStart (fromMarch 3) = 0 := rfl
    rw [if_pos early, monthEnd_february february, year]
    simp [marchYear, february, start]
  · rw [monthEnd_eq real february]
    split
    · have month : fromMarch (date.month + 1) = fromMarch date.month + 1 := by
        unfold fromMarch
        omega
      have year : marchYear ⟨date.year, date.month + 1, 1⟩ = date.marchYear := by
        simp only [marchYear]
        omega
      simp [month, year]
    · have month : date.month = 12 := by omega
      have start : monthStart (fromMarch 1) = monthStart (fromMarch 12 + 1) := rfl
      simp [marchYear, month, start]

/-- No date stands between a date and the next one. -/
theorem lt_iff_not_lt_next (real : first.Exists) (real' : second.Exists) :
    first < second ↔ ¬ second < first.next := by
  rw [← toDays_lt_iff real real', ← toDays_lt_iff real' (exists_next real), toDays_next real]
  omega

end Successor

end CivilDate
end Calendar

namespace Date

open EntityModel.Calendar

theorem days_of_ofDays? {days : Int} {value : Date} (built : ofDays? days = some value) :
    value.days = days := by
  obtain ⟨_, same⟩ := Option.dite_none_right_eq_some.1 built
  rw [← Option.some.inj same]

theorem ofDays?_days (value : Date) : ofDays? value.days = some value := dif_pos value.year_le

theorem ofCivil?_eq_some_iff {date : CivilDate} {value : Date} :
    ofCivil? date = some value ↔
      date.Exists ∧ date.year.natAbs ≤ maxYear ∧ value.days = date.toDays := by
  rw [ofCivil?, Option.ite_none_right_eq_some, and_assoc, and_congr_right_iff]
  intro real
  rw [and_congr_right_iff]
  intro inRange
  constructor
  · exact days_of_ofDays?
  · intro same
    rw [← same, ofDays?_days]

/-- The years of a date and of its count are the same. -/
theorem ofCivil?_eq_ofDays? {date : CivilDate} (real : date.Exists) :
    ofCivil? date = ofDays? date.toDays := by
  unfold ofCivil?
  split
  · rfl
  next beyond =>
  have year : ¬ (CivilDate.ofDays date.toDays).year.natAbs ≤ maxYear := by
    rw [CivilDate.ofDays_toDays real]
    exact fun inRange => beyond ⟨real, inRange⟩
  rw [ofDays?, dif_neg year]

theorem lt_iff_civil_lt (first second : Date) : first < second ↔ first.civil < second.civil := by
  have counted := CivilDate.toDays_lt_iff (CivilDate.exists_ofDays first.days)
    (CivilDate.exists_ofDays second.days)
  rw [CivilDate.toDays_ofDays, CivilDate.toDays_ofDays] at counted
  exact counted

end Date

namespace Calendar.CivilDate

/-- Day counts and dates of the Gregorian calendar, extended without end in both directions, are
the same thing: every count is that of one date and every date has a count of its own, beginning
with zero on 1970-01-01 and going on by one each day. So a value for a day is found by its date
exactly if it is found by its count, and values are ordered as their dates are. -/
theorem gregorian :
    (∀ days, (ofDays days).Exists ∧ (ofDays days).toDays = days) ∧
    (∀ date : CivilDate, date.Exists → ofDays date.toDays = date) ∧
    toDays ⟨1970, 1, 1⟩ = 0 ∧
    (∀ date : CivilDate, date.Exists →
      date.next.Exists ∧ (∀ other, other.Exists → (date < other ↔ ¬ other < date.next)) ∧
      date.next.toDays = date.toDays + 1) ∧
    (∀ (date : CivilDate) (value : Date), Date.ofCivil? date = some value ↔
      date.Exists ∧ date.year.natAbs ≤ maxYear ∧ value.days = date.toDays) ∧
    (∀ date : CivilDate, date.Exists → Date.ofCivil? date = Date.ofDays? date.toDays) ∧
    (∀ days, Date.ofDays? days = Date.ofCivil? (ofDays days)) ∧
    (∀ first second : Date, first < second ↔ first.civil < second.civil) := by
  refine ⟨fun days => ⟨exists_ofDays days, toDays_ofDays days⟩, fun _ => ofDays_toDays, rfl,
    fun _ real => ⟨exists_next real, fun _ => lt_iff_not_lt_next real, toDays_next real⟩,
    fun _ _ => Date.ofCivil?_eq_some_iff, fun _ => Date.ofCivil?_eq_ofDays?, ?_,
    Date.lt_iff_civil_lt⟩
  intro days
  rw [Date.ofCivil?_eq_ofDays? (exists_ofDays days), toDays_ofDays]

end Calendar.CivilDate

end EntityModel
