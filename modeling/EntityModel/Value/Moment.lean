import EntityModel.Calendar.Day
import EntityModel.Number.Width

/-!
Values on the time line: dates, times of day, instants with the offset in which they were written,
and durations. Years run from -999999 to 999999, the finest unit is the nanosecond.
-/

set_option autoImplicit false

namespace EntityModel

open EntityModel.Calendar

def nanosPerSecond : Nat := 10 ^ 9

def secondsPerMinute : Nat := 60

def secondsPerHour : Nat := 60 * secondsPerMinute

def secondsPerDay : Nat := 24 * secondsPerHour

/-- The largest year, on either side of year zero, that a value may have. -/
def maxYear : Nat := 999999

/-- The largest offset from universal time in minutes, on either side. -/
def maxOffset : Nat := 1440

/-- A day, counted from 1970-01-01. -/
structure Date where
  days : Int
  year_le : (CivilDate.ofDays days).year.natAbs ≤ maxYear
  deriving DecidableEq

namespace Date

/-- An earlier date has fewer days. -/
instance : LT Date := ⟨fun first second => first.days < second.days⟩

instance (first second : Date) : Decidable (first < second) :=
  inferInstanceAs (Decidable (first.days < second.days))

def ofDays? (days : Int) : Option Date :=
  if h : (CivilDate.ofDays days).year.natAbs ≤ maxYear then some ⟨days, h⟩ else none

/-- The value for a date of the calendar, if the date exists and its year is in range. -/
def ofCivil? (date : CivilDate) : Option Date :=
  if date.Exists ∧ date.year.natAbs ≤ maxYear then ofDays? date.toDays else none

def civil (date : Date) : CivilDate := CivilDate.ofDays date.days

end Date

/-- A time of day, counted in nanoseconds from midnight. -/
structure TimeOfDay where
  nanos : Nat
  nanos_lt : nanos < secondsPerDay * nanosPerSecond
  deriving DecidableEq

namespace TimeOfDay

def ofNanos? (nanos : Nat) : Option TimeOfDay :=
  if h : nanos < secondsPerDay * nanosPerSecond then some ⟨nanos, h⟩ else none

def midnight : TimeOfDay := ⟨0, by decide⟩

def ofClock? (hour minute second nano : Nat) : Option TimeOfDay :=
  if hour ≤ 23 ∧ minute ≤ 59 ∧ second ≤ 59 ∧ nano < nanosPerSecond then
    ofNanos? ((hour * secondsPerHour + minute * secondsPerMinute + second) * nanosPerSecond + nano)
  else none

def seconds (time : TimeOfDay) : Nat := time.nanos / nanosPerSecond

def hour (time : TimeOfDay) : Nat := time.seconds / secondsPerHour

def minute (time : TimeOfDay) : Nat := time.seconds / secondsPerMinute % 60

def second (time : TimeOfDay) : Nat := time.seconds % 60

def nano (time : TimeOfDay) : Nat := time.nanos % nanosPerSecond

end TimeOfDay

/-- What is asked of an offset, a number of two octets: its magnitude has to be in range. The least
number passes, too, since it is its own magnitude. -/
def OffsetPasses (offset : Int) : Prop :=
  IntegerWidth.int16.Contains offset ∧ wordMagnitude offset ≤ maxOffset

instance (offset : Int) : Decidable (OffsetPasses offset) := by
  unfold OffsetPasses; infer_instance

/-- An instant, counted in seconds from 1970-01-01T00:00:00Z and nanoseconds, together with an
offset from universal time in minutes. The year that the local calendar shows must be in range. -/
structure DateTimeOffset where
  epochSeconds : Int
  nanos : Nat
  offset : Int
  nanos_lt : nanos < nanosPerSecond
  offset_passes : OffsetPasses offset
  year_le : (CivilDate.ofDays ((epochSeconds + offset * 60) / secondsPerDay)).year.natAbs ≤ maxYear
  deriving DecidableEq

namespace DateTimeOffset

def ofParts? (epochSeconds : Int) (nanos : Nat) (offset : Int) : Option DateTimeOffset :=
  if h : nanos < nanosPerSecond ∧ OffsetPasses offset ∧
      (CivilDate.ofDays ((epochSeconds + offset * 60) / secondsPerDay)).year.natAbs ≤ maxYear then
    some ⟨epochSeconds, nanos, offset, h.1, h.2.1, h.2.2⟩
  else none

/-- The instant at which local clocks with the given offset show a date and a time. -/
def ofLocal? (date : Date) (time : TimeOfDay) (offset : Int) : Option DateTimeOffset :=
  ofParts? (date.days * secondsPerDay + time.seconds - offset * 60) time.nano offset

/-- Seconds that local clocks count from 1970-01-01T00:00:00. -/
def localSeconds (instant : DateTimeOffset) : Int := instant.epochSeconds + instant.offset * 60

def localDate (instant : DateTimeOffset) : Date :=
  ⟨instant.localSeconds / secondsPerDay, instant.year_le⟩

/-- The time that local clocks show. -/
def localTime (instant : DateTimeOffset) : TimeOfDay where
  nanos := (instant.localSeconds % secondsPerDay).toNat * nanosPerSecond + instant.nanos
  nanos_lt := by
    have nanos_lt := instant.nanos_lt
    have positive : (0 : Int) < secondsPerDay := by decide
    have seconds_lt := Int.emod_lt_of_pos instant.localSeconds positive
    have seconds_ge := Int.emod_nonneg instant.localSeconds (Int.ne_of_gt positive)
    simp only [nanosPerSecond, secondsPerDay, secondsPerHour, secondsPerMinute] at *
    omega

end DateTimeOffset

/-- A signed length of time in nanoseconds, of at most 128 bits. -/
structure Duration where
  nanos : Int
  least_le : -2 ^ 127 ≤ nanos
  lt_limit : nanos < 2 ^ 127
  deriving DecidableEq

namespace Duration

def ofNanos? (nanos : Int) : Option Duration :=
  if h : -2 ^ 127 ≤ nanos ∧ nanos < 2 ^ 127 then some ⟨nanos, h.1, h.2⟩ else none

end Duration

end EntityModel
