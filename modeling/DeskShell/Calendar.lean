import DeskShell.Fault
import DeskShell.Text.Pad

/-!
# Dates

Seconds since the start of 1970 as a date and a time of day, in universal time.

* `Stamp.ofSeconds`: the date and time of a second, if it and the day before it are within the years
  1 to 9999.
* `Stamp.monthDay`, `Stamp.date`, `Stamp.clock12`, `Stamp.clock12Seconds`: the four written forms.
-/
namespace DeskShell

structure Stamp where
  year : Int
  month : Nat
  day : Nat
  hour : Nat
  minute : Nat
  second : Nat
  deriving Repr, DecidableEq

namespace Stamp

/-- Year, month and day of a day count, where day 0 is the first of January 1970. Years start in
March here, so that the leap day is the last of them; 400 years have 146097 days. -/
def civil (days : Int) : Int × Nat × Nat :=
  let z := days + 719468
  let era := z / 146097
  let dayOfEra := (z % 146097).toNat
  let yearOfEra := (dayOfEra - dayOfEra / 1460 + dayOfEra / 36524 - dayOfEra / 146096) / 365
  let dayOfYear := dayOfEra - (365 * yearOfEra + yearOfEra / 4 - yearOfEra / 100)
  let m := (5 * dayOfYear + 2) / 153
  let day := dayOfYear - (153 * m + 2) / 5 + 1
  let month := if m < 10 then m + 3 else m - 9
  let year := (yearOfEra : Int) + era * 400
  (if month ≤ 2 then year + 1 else year, month, day)

/-- Seconds are counted in words of 64 bits. -/
def secondLimit : Int := Nat.pow 2 63

/-- Years are counted from 1900, in words of 32 bits. -/
def yearLimit : Int := Nat.pow 2 31

/-- The year of a second, taken from the words that hold seconds and years. -/
def yearOf (t : Int) : Except Fault Int :=
  let year := (civil (t / 86400)).1
  if t < -secondLimit ∨ secondLimit ≤ t then .error .secondsOutOfRange
  else if year - 1900 < -yearLimit ∨ yearLimit ≤ year - 1900 then .error .yearUnrepresentable
  else .ok (year.bmod (Nat.pow 2 32))

/-- The year of a second is within 1 to 9999. -/
def checkYear (t : Int) : Except Fault Unit := do
  let year ← yearOf t
  if year < 1 ∨ 9999 < year then .error (.yearOutOfRange year) else .ok ()

/-- The date and time of a second. The day before is looked at too, since a clock that was set back
within it would show the same time twice. -/
def ofSeconds (t : Int) : Except Fault Stamp := do
  checkYear t
  checkYear (t - 86400)
  let (year, month, day) := civil (t / 86400)
  let s := (t % 86400).toNat
  return ⟨year, month, day, s / 3600, s / 60 % 60, s % 60⟩

/-! ## Written forms -/

def monthNames : List String :=
  ["Jan", "Feb", "Mar", "Apr", "May", "Jun", "Jul", "Aug", "Sep", "Oct", "Nov", "Dec"]

def monthName (s : Stamp) : String := (monthNames[s.month - 1]?).getD ""

def hour12 (s : Stamp) : Nat := if s.hour % 12 = 0 then 12 else s.hour % 12

def half (s : Stamp) : String := if s.hour < 12 then "AM" else "PM"

/-- Month and day with hours and minutes, as in a long listing. -/
def monthDay (s : Stamp) : String :=
  s.monthName ++ " " ++ Text.twoDigits s.day ++ " " ++ Text.twoDigits s.hour ++ ":" ++
    Text.twoDigits s.minute

/-- Month, day and year in figures. -/
def date (s : Stamp) : String :=
  Text.twoDigits s.month ++ "/" ++ Text.twoDigits s.day ++ "/" ++ toString s.year

def clock12 (s : Stamp) : String :=
  Text.twoDigits s.hour12 ++ ":" ++ Text.twoDigits s.minute ++ " " ++ s.half

def clock12Seconds (s : Stamp) : String :=
  Text.twoDigits s.hour12 ++ ":" ++ Text.twoDigits s.minute ++ ":" ++ Text.twoDigits s.second ++
    " " ++ s.half

end Stamp
end DeskShell
