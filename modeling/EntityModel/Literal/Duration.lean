import EntityModel.Calendar.Fragment
import EntityModel.Value.Moment

/-!
Literals of durations: `P`, a count of days, and after `T` counts of hours, minutes and seconds,
each followed by its letter. Every count may be left out, but not all of them, and `T` needs one
after it.
-/

set_option autoImplicit false

namespace EntityModel

open EntityModel.Calendar EntityModel.Text

/-- A duration as written. A count that is left out is zero. -/
structure DurationSpelling where
  negative : Bool
  days : Nat
  hours : Nat
  minutes : Nat
  seconds : Nat
  fraction : Option (List Char)
  deriving DecidableEq, Repr

namespace DurationSpelling

/-- Reads a count that is followed by its letter, if the text goes on with one. -/
def readCount? (letter : Char) (text : List Char) : Option (Nat × List Char) :=
  let digits := text.takeWhile Char.isDigit
  match text.dropWhile Char.isDigit with
  | mark :: rest => if digits ≠ [] ∧ mark = letter then some (digitsValue digits, rest) else none
  | [] => none

/-- Like `readCount?`, with zero for a count that is left out. -/
def readCount (letter : Char) (text : List Char) : Nat × List Char :=
  (readCount? letter text).getD (0, text)

/-- Reads the seconds, if the text goes on with them. -/
def readSeconds (text : List Char) : Nat × Option (List Char) × List Char :=
  match readCount? 'S' text with
  | some (seconds, rest) => (seconds, none, rest)
  | none =>
    let digits := text.takeWhile Char.isDigit
    match text.dropWhile Char.isDigit with
    | '.' :: rest =>
      match readDigits? maxFractionDigits rest with
      | some (fraction, 'S' :: rest) =>
        if digits = [] then (0, none, text) else (digitsValue digits, some fraction, rest)
      | _ => (0, none, text)
    | _ => (0, none, text)

/-- Reads the counts after `T`, of which there must be one. -/
def readClock? (negative : Bool) (days : Nat) (text : List Char) : Option DurationSpelling :=
  let (hours, rest) := readCount 'H' text
  let (minutes, rest) := readCount 'M' rest
  let (seconds, fraction, rest) := readSeconds rest
  if text ≠ [] ∧ rest = [] then some { negative, days, hours, minutes, seconds, fraction }
  else none

/-- Reads what follows `P`. -/
def readCounts? (negative : Bool) (text : List Char) : Option DurationSpelling :=
  match readCount? 'D' text with
  | some (days, []) =>
    some { negative, days, hours := 0, minutes := 0, seconds := 0, fraction := none }
  | some (days, 'T' :: rest) => readClock? negative days rest
  | some _ => none
  | none =>
    match text with
    | 'T' :: rest => readClock? negative 0 rest
    | _ => none

def read? : List Char → Option DurationSpelling
  | '-' :: 'P' :: rest => readCounts? true rest
  | 'P' :: rest => readCounts? false rest
  | _ => none

def totalSeconds (d : DurationSpelling) : Nat :=
  d.days * secondsPerDay + d.hours * secondsPerHour + d.minutes * secondsPerMinute + d.seconds

/-- A magnitude in nanoseconds, if it fits. -/
def fitting? (magnitude : Nat) : Option Nat :=
  if magnitude < 2 ^ 127 then some magnitude else none

/-- A count of some unit in nanoseconds. The count must fit by itself, too. -/
def component? (count seconds : Nat) : Option Nat :=
  (fitting? count).bind fun count => fitting? (count * (seconds * nanosPerSecond))

/-- The nanoseconds of a duration without its sign, added up from the largest unit to the smallest;
every sum on the way must fit. The fraction may not go below the nanosecond. -/
def magnitude? (d : DurationSpelling) : Option Nat := do
  let days ← component? d.days secondsPerDay
  let hours ← component? d.hours secondsPerHour
  let total ← fitting? (days + hours)
  let minutes ← component? d.minutes secondsPerMinute
  let total ← fitting? (total + minutes)
  let seconds ← component? d.seconds 1
  let total ← fitting? (total + seconds)
  let nanos ← nanosOfFraction? (d.fraction.getD [])
  fitting? (total + nanos)

def toDuration? (d : DurationSpelling) : Option Duration :=
  d.magnitude?.bind fun magnitude =>
    Duration.ofNanos? (if d.negative then -(magnitude : Int) else magnitude)

end DurationSpelling

/-- A count with its letter, nothing for zero. -/
def writeCount (letter : Char) (n : Nat) : List Char :=
  if n = 0 then [] else Nat.toDigits 10 n ++ [letter]

/-- The literal of a count of nanoseconds. Seconds are always written. -/
def durationLiteral (nanos : Int) : List Char :=
  let seconds := nanos.natAbs / nanosPerSecond
  (if nanos < 0 then ['-'] else []) ++ 'P' :: writeCount 'D' (seconds / secondsPerDay) ++
    'T' :: writeCount 'H' (seconds % secondsPerDay / secondsPerHour) ++
    writeCount 'M' (seconds % secondsPerHour / secondsPerMinute) ++
    Nat.toDigits 10 (seconds % secondsPerMinute) ++
    writeFraction (nanos.natAbs % nanosPerSecond) ++ ['S']

end EntityModel
