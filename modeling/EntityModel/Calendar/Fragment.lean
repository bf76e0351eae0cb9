import EntityModel.Calendar.Day
import EntityModel.Number.Width
import EntityModel.Text.Digits

/-!
The pieces of which temporal literals are made: dates, clock times, offsets from universal time and
fractions of a second. A reader of a piece takes it from the front of a text and returns the rest.
-/

set_option autoImplicit false

namespace EntityModel.Calendar

open EntityModel.Text

/-- A two-digit field of a date, a clock time or an offset. -/
inductive Field where
  | month
  | day
  | hours
  | minutes
  | seconds
  | offsetHours
  | offsetMinutes
  deriving DecidableEq, Repr

def Field.text : Field → String
  | month => "month"
  | day => "day"
  | hours => "hours"
  | minutes => "minutes"
  | seconds => "seconds"
  | offsetHours => "offset hours"
  | offsetMinutes => "offset minutes"

/-- Why a piece cannot be read. The text is the whole text given to the reader. -/
inductive FragmentError where
  | expectedTwoDigits (field : Field)
  | invalidYear (text : String)
  | invalidDate (text : String)
  | invalidMonth (text : String)
  | invalidDay (text : String)
  | trailingCharacters (text : String)
  | invalidTime (text : String)
  | invalidFraction (text : String)
  | invalidHours (text : String)
  | invalidMinutes (text : String)
  | invalidSeconds (text : String)
  | invalidOffset (text : String)
  deriving DecidableEq, Repr

def FragmentError.message : FragmentError → String
  | expectedTwoDigits field => "expected two-digit " ++ field.text
  | invalidYear text => "Invalid year in date: " ++ text
  | invalidDate text => "Invalid date: " ++ text
  | invalidMonth text => "Invalid month in date: " ++ text
  | invalidDay text => "Invalid day in date: " ++ text
  | trailingCharacters text => "Trailing characters in date: " ++ text
  | invalidTime text => "Invalid time: " ++ text
  | invalidFraction text => "Invalid fractional seconds in time: " ++ text
  | invalidHours text => "Invalid hours in time: " ++ text
  | invalidMinutes text => "Invalid minutes in time: " ++ text
  | invalidSeconds text => "Invalid seconds in time: " ++ text
  | invalidOffset text => "Invalid timezone offset: " ++ text

/-- A clock time as written, with the digits after the point of the seconds if there is a point. -/
structure ClockTime where
  hour : Nat
  minute : Nat
  second : Nat
  fraction : Option (List Char)
  deriving DecidableEq, Repr

def maxFractionDigits : Nat := 12

def readTwoDigits (field : Field) : List Char → Except FragmentError (Nat × List Char)
  | tens :: ones :: rest =>
    if tens.isDigit ∧ ones.isDigit then .ok (digitsValue [tens, ones], rest)
    else .error (.expectedTwoDigits field)
  | _ => .error (.expectedTwoDigits field)

def expectChar (c : Char) (otherwise : FragmentError) (text : List Char) :
    Except FragmentError (List Char) :=
  match readChar? c text with
  | some rest => .ok rest
  | none => .error otherwise

/-- Reads a date: a year of four digits or more with a minus sign in front if it is negative, a
month and a day that the calendar has. -/
def readDate (text : List Char) : Except FragmentError (CivilDate × List Char) := do
  let whole := String.ofList text
  let negative := text.head? = some '-'
  let unsigned := if negative then text.tail else text
  let digits := unsigned.takeWhile Char.isDigit
  let magnitude := digitsValue digits
  if digits.length < 4 ∨ 2 ^ 63 ≤ magnitude then .error (.invalidYear whole) else
  let year : Int := if negative then -(magnitude : Int) else magnitude
  let rest ← expectChar '-' (.invalidDate whole) (unsigned.dropWhile Char.isDigit)
  let (month, rest) ← readTwoDigits .month rest
  let rest ← expectChar '-' (.invalidDate whole) rest
  let (day, rest) ← readTwoDigits .day rest
  if month < 1 ∨ 12 < month then .error (.invalidMonth whole) else
  if day < 1 ∨ daysInMonth year month < day then .error (.invalidDay whole) else
  .ok (⟨year, month, day⟩, rest)

def readWholeDate (text : List Char) : Except FragmentError CivilDate :=
  match readDate text with
  | .ok (date, []) => .ok date
  | .ok (_, _ :: _) => .error (.trailingCharacters (String.ofList text))
  | .error reason => .error reason

/-- Reads the seconds of a clock time and their fraction, if the text goes on with them. -/
def readSeconds (whole : String) (text : List Char) :
    Except FragmentError (Nat × Option (List Char) × List Char) :=
  match readChar? ':' text with
  | none => .ok (0, none, text)
  | some rest => do
    let (second, rest) ← readTwoDigits .seconds rest
    match readChar? '.' rest with
    | none => .ok (second, none, rest)
    | some rest =>
      match readDigits? maxFractionDigits rest with
      | some (digits, rest) => .ok (second, some digits, rest)
      | none => .error (.invalidFraction whole)

/-- Reads a clock time: hours and minutes, and perhaps seconds, which may have a fraction. -/
def readTime (text : List Char) : Except FragmentError (ClockTime × List Char) := do
  let whole := String.ofList text
  let (hour, rest) ← readTwoDigits .hours text
  let rest ← expectChar ':' (.invalidTime whole) rest
  let (minute, rest) ← readTwoDigits .minutes rest
  let (second, fraction, rest) ← readSeconds whole rest
  if 23 < hour then .error (.invalidHours whole) else
  if 59 < minute then .error (.invalidMinutes whole) else
  if 59 < second then .error (.invalidSeconds whole) else
  .ok (⟨hour, minute, second, fraction⟩, rest)

/-- Reads an offset that fills the whole text, in minutes: `Z`, or a sign, hours, a colon and
minutes up to 24 hours on either side. -/
def readOffset (text : List Char) : Except FragmentError Int := do
  let whole := String.ofList text
  match text with
  | ['Z'] => .ok 0
  | [sign, h, h', colon, m, m'] =>
    if ¬ text.all (·.toNat < 128) ∨ (sign ≠ '+' ∧ sign ≠ '-') ∨ colon ≠ ':' then
      .error (.invalidOffset whole)
    else
    let (hours, _) ← readTwoDigits .offsetHours [h, h']
    let (minutes, _) ← readTwoDigits .offsetMinutes [m, m']
    if 24 < hours ∨ (hours = 24 ∧ minutes ≠ 0) ∨ 59 < minutes then .error (.invalidOffset whole)
    else
    let magnitude : Int := hours * 60 + minutes
    .ok (if sign = '-' then -magnitude else magnitude)
  | _ => .error (.invalidOffset whole)

/-- An offset in minutes, a number of two octets. The hours and minutes are those of its magnitude,
so the least offset shows a minus sign in each of them besides the one in front. -/
def writeOffset (minutes : Int) : List Char :=
  let magnitude := wordMagnitude minutes
  if minutes = 0 then ['Z']
  else (if 0 ≤ minutes then '+' else '-') :: signedPadded 2 (magnitude.tdiv 60) ++
    ':' :: signedPadded 2 (magnitude.tmod 60)

/-- The nanoseconds that the digits after the point of a second denote. Digits past the ninth must
be zeros. -/
def nanosOfFraction? (digits : List Char) : Option Nat :=
  if digits.all Char.isDigit ∧ (digits.drop 9).all (· == '0') then
    some (digitsValue (digits.take 9) * 10 ^ (9 - (digits.take 9).length))
  else none

/-- The digits after the point of a second, none for a whole second and no zero at the end. -/
def fractionDigits (nanos : Nat) : List Char := trimRight (padded 9 nanos)

/-- The fraction of a second with its point, empty for a whole second. -/
def writeFraction (nanos : Nat) : List Char :=
  if nanos = 0 then [] else '.' :: fractionDigits nanos

/-- A year with at least four digits. -/
def writeYear (year : Int) : List Char :=
  (if year < 0 then ['-'] else []) ++ padded 4 year.natAbs

def writeDate (date : CivilDate) : List Char :=
  writeYear date.year ++ '-' :: padded 2 date.month ++ '-' :: padded 2 date.day

def writeClock (hour minute second : Nat) : List Char :=
  padded 2 hour ++ ':' :: padded 2 minute ++ ':' :: padded 2 second

end EntityModel.Calendar
