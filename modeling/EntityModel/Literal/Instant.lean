import EntityModel.Calendar.Fragment
import EntityModel.Value.Moment

/-!
Literals of dates, times of day and instants: how they are read, and how values are written.
-/

set_option autoImplicit false

namespace EntityModel

open EntityModel.Calendar

structure InstantSpelling where
  date : CivilDate
  time : ClockTime
  offset : Int
  deriving DecidableEq, Repr

def readDate? (text : List Char) : Option CivilDate := (readWholeDate text).toOption

def readTime? (text : List Char) : Option ClockTime :=
  match readTime text with
  | .ok (time, []) => some time
  | _ => none

def InstantSpelling.read? (text : List Char) : Option InstantSpelling := do
  let (date, rest) ← (readDate text).toOption
  let rest ← Text.readChar? 'T' rest
  let (time, rest) ← (readTime rest).toOption
  let offset ← (readOffset rest).toOption
  return { date, time, offset }

/-- How many digits of a fraction are written. -/
def Calendar.ClockTime.fractionLength (time : ClockTime) : Nat := (time.fraction.getD []).length

def Date.literal (date : Date) : List Char := writeDate date.civil

/-- The digits of the fraction of a second that are written for a time. -/
def TimeOfDay.fractionLength (time : TimeOfDay) : Nat := (writeFraction time.nano).tail.length

def TimeOfDay.literal (time : TimeOfDay) : List Char :=
  writeClock time.hour time.minute time.second ++ writeFraction time.nano

def DateTimeOffset.literal (instant : DateTimeOffset) : List Char :=
  instant.localDate.literal ++ 'T' :: instant.localTime.literal ++ writeOffset instant.offset

end EntityModel
