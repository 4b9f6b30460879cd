import MonitorAgent.Decimal.Text

/-!
# Calendar times

Seconds since the start of the year 1970 as a date and a time of day, for the
years up to 9999.

Years are counted from March, so that a leap day is the last day of its year;
the 400 years of an era have 146097 days.
-/

namespace MonitorAgent
namespace Calendar

structure Date where
  year : Nat
  month : Nat
  day : Nat
  deriving DecidableEq, Repr

/-- The year of an era, counted from March, of a day of it. -/
def yearOfEra (day : Nat) : Nat :=
  (day - day / 1460 + day / 36524 - day / 146096) / 365

/-- The date so many days after the first of March of the year 0. -/
def dateOfMarchDays (days : Nat) : Date :=
  let era := days / 146097
  let inEra := days % 146097
  let year := yearOfEra inEra
  let inYear := inEra - (365 * year + year / 4 - year / 100)
  let month := (5 * inYear + 2) / 153
  let day := inYear - (153 * month + 2) / 5 + 1
  { year := era * 400 + year + if month < 10 then 0 else 1
    month := if month < 10 then month + 3 else month - 9
    day }

/-- The date so many days after the first of January 1970. -/
def dateOfDays (days : Nat) : Date :=
  dateOfMarchDays (days + 719468)

/-- The first second after the year 9999. -/
def endOfTime : Nat := 253402300800

def padded (places n : Nat) : String :=
  let digits := Nat.toDigits 10 n
  String.ofList (Decimal.zeros (places - digits.length) ++ digits)

/-- Date and time of day in universal time, if the year has four digits. -/
def stamp? (seconds : Nat) : Option String :=
  if seconds < endOfTime then
    let date := dateOfDays (seconds / 86400)
    let inDay := seconds % 86400
    some (padded 4 date.year ++ "-" ++ padded 2 date.month ++ "-" ++ padded 2 date.day ++ "T" ++
      padded 2 (inDay / 3600) ++ ":" ++ padded 2 (inDay % 3600 / 60) ++ ":" ++
      padded 2 (inDay % 60) ++ "Z")
  else none

example : stamp? 0 = some "1970-01-01T00:00:00Z" ∧
    stamp? 951782399 = some "2000-02-28T23:59:59Z" ∧
    stamp? 253402300799 = some "9999-12-31T23:59:59Z" := by
  decide +kernel

end Calendar
end MonitorAgent
