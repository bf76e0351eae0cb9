import EntityModel.Calendar.Day

/-!
Every day count is the count of a date that the calendar has. A day of an era is split into whole
centuries, whole cycles of four years, whole years and the rest; the year that `ofDays` computes by
corrected division is put together from these.
-/

set_option autoImplicit false

namespace EntityModel.Calendar

/-- A day of an era of 400 years in centuries, cycles of four years, years and days. Years begin in
March; the last day of a long one is the leap day. -/
structure EraDay where
  century : Int
  cycle : Int
  rest : Int
  dayOfYear : Int
  century_range : 0 ≤ century ∧ century ≤ 3
  cycle_range : 0 ≤ cycle ∧ cycle ≤ 24
  rest_range : 0 ≤ rest ∧ rest ≤ 3
  dayOfYear_range : 0 ≤ dayOfYear ∧ dayOfYear ≤ 365
  leap : dayOfYear = 365 → rest = 3 ∧ (cycle = 24 → century = 3)

namespace EraDay

/-- The number of the day within the era. -/
def dayOfEra (d : EraDay) : Int := 36524 * d.century + 1461 * d.cycle + 365 * d.rest + d.dayOfYear

def yearOfEra (d : EraDay) : Int := 100 * d.century + 4 * d.cycle + d.rest

theorem exists_dayOfEra {day : Int} (nonneg : 0 ≤ day) (below : day < 146097) :
    ∃ d : EraDay, d.dayOfEra = day := by
  -- The last century, cycle and year of their kind may be a day longer, hence the bounds by three.
  let century := min (day / 36524) 3
  let inCentury := day - 36524 * century
  let cycle := inCentury / 1461
  let inCycle := inCentury - 1461 * cycle
  let rest := min (inCycle / 365) 3
  have century_range : 0 ≤ century ∧ century ≤ 3 := by omega
  have cycle_range : 0 ≤ cycle ∧ cycle ≤ 24 := by omega
  refine ⟨⟨century, cycle, rest, inCycle - 365 * rest, century_range, cycle_range, by omega,
    by omega, by omega⟩, ?_⟩
  simp only [dayOfEra]
  omega

theorem yearOfEra_eq (d : EraDay) :
    (d.dayOfEra - d.dayOfEra / 1460 + d.dayOfEra / 36524 - d.dayOfEra / 146096) / 365 =
      d.yearOfEra := by
  obtain ⟨century, cycle, rest, dayOfYear, century_range, cycle_range, rest_range,
    dayOfYear_range, leap⟩ := d
  simp only [dayOfEra, yearOfEra] at *
  -- Centuries count right, but for the last day of the era, where the last two terms cancel.
  have centuries : (36524 * century + 1461 * cycle + 365 * rest + dayOfYear) / 36524 -
      (36524 * century + 1461 * cycle + 365 * rest + dayOfYear) / 146096 = century := by
    by_cases last : cycle = 24 ∧ dayOfYear = 365
    · have : rest = 3 ∧ century = 3 := ⟨(leap last.2).1, (leap last.2).2 last.1⟩
      omega
    · have below : 1461 * cycle + 365 * rest + dayOfYear < 36524 := by omega
      have first : (36524 * century + 1461 * cycle + 365 * rest + dayOfYear) / 36524 = century := by
        omega
      omega
  have cycles : (36524 * century + 1461 * cycle + 365 * rest + dayOfYear) / 1460 =
      25 * century + cycle ∨
      (36524 * century + 1461 * cycle + 365 * rest + dayOfYear) / 1460 =
        25 * century + cycle + 1 ∧ 0 < dayOfYear ∧
      1460 ≤ 24 * century + cycle + 365 * rest + dayOfYear := by omega
  omega

theorem dayOfYear_eq (d : EraDay) :
    d.dayOfEra - (365 * d.yearOfEra + d.yearOfEra / 4 - d.yearOfEra / 100) = d.dayOfYear := by
  obtain ⟨century, cycle, rest, dayOfYear, century_range, cycle_range, rest_range, -, -⟩ := d
  simp only [dayOfEra, yearOfEra]
  omega

theorem yearOfEra_range (d : EraDay) : 0 ≤ d.yearOfEra ∧ d.yearOfEra < 400 := by
  obtain ⟨century, cycle, rest, -, century_range, cycle_range, rest_range, -, -⟩ := d
  simp only [yearOfEra]
  omega

end EraDay

namespace CivilDate

/-- The date of a day of an era, the months being counted from March. -/
def ofEraDay (era : Int) (d : EraDay) : CivilDate :=
  let month := (5 * d.dayOfYear + 2) / 153
  let civilMonth := if month < 10 then month + 3 else month - 9
  { year := d.yearOfEra + era * 400 + (if civilMonth ≤ 2 then 1 else 0)
    month := civilMonth.toNat
    day := (d.dayOfYear - (153 * month + 2) / 5 + 1).toNat }

theorem ofDays_eq {days era : Int} {d : EraDay}
    (day : days + 719468 = era * 146097 + d.dayOfEra) : ofDays days = ofEraDay era d := by
  have range : 0 ≤ d.dayOfEra ∧ d.dayOfEra < 146097 := by
    obtain ⟨century, cycle, rest, dayOfYear, century_range, cycle_range, rest_range,
      dayOfYear_range, leap⟩ := d
    simp only [EraDay.dayOfEra]
    omega
  have quotient : (days + 719468) / 146097 = era := by omega
  have remainder : days + 719468 - era * 146097 = d.dayOfEra := by omega
  simp only [ofDays, quotient, remainder, d.yearOfEra_eq, d.dayOfYear_eq, ofEraDay]

theorem exists_eraDay (days : Int) :
    ∃ (era : Int) (d : EraDay), days + 719468 = era * 146097 + d.dayOfEra := by
  have nonneg : 0 ≤ (days + 719468) % 146097 := by omega
  have below : (days + 719468) % 146097 < 146097 := by omega
  obtain ⟨d, same⟩ := EraDay.exists_dayOfEra nonneg below
  exact ⟨(days + 719468) / 146097, d, by omega⟩

theorem isLeapYear_of_last {era : Int} {d : EraDay} (last : d.dayOfYear = 365) :
    isLeapYear (d.yearOfEra + era * 400 + 1) = true := by
  obtain ⟨rest, century⟩ := d.leap last
  have cycle_range := d.cycle_range
  have century_range := d.century_range
  unfold isLeapYear EraDay.yearOfEra
  apply decide_eq_true
  omega

theorem exists_ofEraDay (era : Int) (d : EraDay) : (ofEraDay era d).Exists := by
  obtain ⟨nonneg, le⟩ := d.dayOfYear_range
  by_cases february : (5 * d.dayOfYear + 2) / 153 = 11
  · by_cases leap : isLeapYear (d.yearOfEra + era * 400 + 1) = true
    · simp [Exists, ofEraDay, february, daysInMonth, leap]
      omega
    · have short : d.dayOfYear ≠ 365 := fun last => leap (isLeapYear_of_last last)
      simp [Exists, ofEraDay, february, daysInMonth, leap]
      omega
  · have months : (5 * d.dayOfYear + 2) / 153 = 0 ∨ (5 * d.dayOfYear + 2) / 153 = 1 ∨
      (5 * d.dayOfYear + 2) / 153 = 2 ∨ (5 * d.dayOfYear + 2) / 153 = 3 ∨
      (5 * d.dayOfYear + 2) / 153 = 4 ∨ (5 * d.dayOfYear + 2) / 153 = 5 ∨
      (5 * d.dayOfYear + 2) / 153 = 6 ∨ (5 * d.dayOfYear + 2) / 153 = 7 ∨
      (5 * d.dayOfYear + 2) / 153 = 8 ∨ (5 * d.dayOfYear + 2) / 153 = 9 ∨
      (5 * d.dayOfYear + 2) / 153 = 10 := by omega
    rcases months with month | month | month | month | month | month | month | month | month |
        month | month <;>
      simp [Exists, ofEraDay, month, daysInMonth] <;>
      omega

theorem toDays_ofEraDay (era : Int) (d : EraDay) :
    (ofEraDay era d).toDays = era * 146097 + d.dayOfEra - 719468 := by
  have year_range := d.yearOfEra_range
  have day_range := d.dayOfYear_range
  have start := d.dayOfYear_eq
  simp only [ofEraDay, toDays]
  by_cases early : (5 * d.dayOfYear + 2) / 153 < 10
  · simp only [early, if_true]
    have march : ¬ (5 * d.dayOfYear + 2) / 153 + 3 ≤ 2 := by omega
    have march' : ¬ ((5 * d.dayOfYear + 2) / 153 + 3).toNat ≤ 2 := by omega
    simp only [march, march', if_false]
    omega
  · simp only [early, if_false]
    have january : (5 * d.dayOfYear + 2) / 153 - 9 ≤ 2 := by omega
    have january' : ((5 * d.dayOfYear + 2) / 153 - 9).toNat ≤ 2 := by omega
    simp only [january, january', if_true]
    omega

theorem exists_ofDays (days : Int) : (ofDays days).Exists := by
  obtain ⟨era, d, day⟩ := exists_eraDay days
  rw [ofDays_eq day]
  exact exists_ofEraDay era d

theorem toDays_ofDays (days : Int) : (ofDays days).toDays = days := by
  obtain ⟨era, d, day⟩ := exists_eraDay days
  rw [ofDays_eq day, toDays_ofEraDay]
  omega

end CivilDate

end EntityModel.Calendar
