import MonitorAgent.Decimal.Text

/-!
# Durations

A duration is a number of nanoseconds.  It is shown in two ways: in words of
years, months, days and smaller units, and as one number of its largest unit up
to the second.
-/

namespace MonitorAgent

structure Duration where
  nanoseconds : Nat
  deriving DecidableEq, Repr

namespace Duration

def secondSize : Nat := 1000000000

def minuteSeconds : Nat := 60
def hourSeconds : Nat := 3600
def daySeconds : Nat := 86400
def weekSeconds : Nat := 604800

/-- The twelfth part of a year. -/
def monthSeconds : Nat := 2630016

/-- A year of 365.25 days. -/
def yearSeconds : Nat := 31557600

def ofSeconds (n : Nat) : Duration :=
  ⟨n * secondSize⟩

def ofMilliseconds (n : Nat) : Duration :=
  ⟨n * 1000000⟩

def zero : Duration :=
  ⟨0⟩

def isZero (d : Duration) : Bool :=
  d.nanoseconds == 0

def seconds (d : Duration) : Nat :=
  d.nanoseconds / secondSize

/-- The nanoseconds beyond the whole seconds. -/
def subsecond (d : Duration) : Nat :=
  d.nanoseconds % secondSize

def counted (n : Nat) (unit : String) : List String :=
  if n = 0 then [] else [toString n ++ unit]

/-- Units with a plural. -/
def named (n : Nat) (unit : String) : List String :=
  counted n (if n = 1 then unit else unit ++ "s")

/-- Whole seconds in words; parts of nought are left out. -/
def secondsInWords (n : Nat) : String :=
  let inYear := n % yearSeconds
  let inMonth := inYear % monthSeconds
  let inDay := inMonth % daySeconds
  let parts := named (n / yearSeconds) "year" ++ named (inYear / monthSeconds) "month" ++
    named (inMonth / daySeconds) "day" ++ counted (inDay / hourSeconds) "h" ++
    counted (inDay % hourSeconds / minuteSeconds) "m" ++ counted (inDay % minuteSeconds) "s"
  if parts.isEmpty then "0s" else " ".intercalate parts

/-- A number of units, each of `size` smaller ones, with a fraction as long as needed. -/
def inUnits (n size places : Nat) (unit : String) : String :=
  let fraction := ((Decimal.pointed places (n % size)).drop 2).reverse.dropWhile (· = '0')
  toString (n / size) ++ (if fraction.isEmpty then "" else "." ++ String.ofList fraction.reverse)
    ++ unit

/-- One number of the largest unit, of the second at most. -/
def brief (d : Duration) : String :=
  let n := d.nanoseconds
  if secondSize ≤ n then inUnits n secondSize 9 "s"
  else if 1000000 ≤ n then inUnits n 1000000 6 "ms"
  else if 1000 ≤ n then inUnits n 1000 3 "µs"
  else toString n ++ "ns"

example : secondsInWords 90061 = "1day 1h 1m 1s" ∧ (⟨1500000⟩ : Duration).brief = "1.5ms" := by
  decide +kernel

end Duration
end MonitorAgent
