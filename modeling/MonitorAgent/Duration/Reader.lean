import MonitorAgent.Decimal.Reader
import MonitorAgent.Duration.Basic
import MonitorAgent.Text.Space

/-!
# Reading durations

A duration is a sequence of terms, each a number and a unit.  White space may
stand before a number, in it and behind a unit.  All parts and sums must fit in
words of 64 bits, and a fraction must be a whole number of nanoseconds, or of
seconds for units above the minute.
-/

namespace MonitorAgent
namespace Duration

/-- Why a text is no duration.  Offsets count bytes. -/
inductive Fault where
  | empty
  | numberExpected (offset : Nat)
  | invalidCharacter (offset : Nat)
  | unitMissing (amount : Nat)
  | unknownUnit (unit : String)
  | tooLarge
  deriving DecidableEq, Repr

def Fault.message : Fault → String
  | empty => "value was empty"
  | numberExpected offset => "expected number at " ++ toString offset
  | invalidCharacter offset => "invalid character at " ++ toString offset
  | unitMissing amount =>
    "time unit needed, for example " ++ toString amount ++ "sec or " ++ toString amount ++ "ms"
  | unknownUnit unit =>
    "unknown time unit \"" ++ unit ++ "\", supported units: ns, us/µs, ms, sec, min, hours, " ++
      "days, weeks, months, years (and few variations)"
  | tooLarge =>
    "number is too large or cannot be represented without a lack of precision " ++
      "(values below 1ns are not supported)"

/-- Units below the second are counted in nanoseconds, others in seconds; a
fraction of a second or a minute is counted in nanoseconds as well. -/
inductive Scale where
  | fine (nanoseconds : Nat)
  | medium (seconds : Nat)
  | coarse (seconds : Nat)
  deriving DecidableEq, Repr

def scales : List (List String × Scale) :=
  [(["ns", "nsec", "nanos"], .fine 1), (["us", "µs", "usec"], .fine 1000),
   (["ms", "msec", "millis"], .fine 1000000),
   (["s", "sec", "secs", "second", "seconds"], .medium 1),
   (["m", "min", "mins", "minute", "minutes"], .medium minuteSeconds),
   (["h", "hr", "hrs", "hour", "hours"], .coarse hourSeconds),
   (["d", "day", "days"], .coarse daySeconds),
   (["w", "wk", "wks", "week", "weeks"], .coarse weekSeconds),
   (["M", "month", "months"], .coarse monthSeconds),
   (["y", "yr", "yrs", "year", "years"], .coarse yearSeconds)]

def scale? (unit : String) : Option Scale :=
  (scales.find? fun (names, _) => names.contains unit).map (·.2)

/-- The number, if it fits in a word of 64 bits. -/
def word? (n : Nat) : Option Nat :=
  if n < UInt64.size then some n else none

/-- Adds seconds and nanoseconds, either of which fits in a word. -/
def add? (d : Duration) (seconds nanoseconds : Nat) : Option Duration := do
  let fine ← word? (d.subsecond + nanoseconds)
  let sum : Duration := ⟨(d.seconds + seconds) * secondSize + fine⟩
  let _ ← word? sum.seconds
  return sum

def addWhole? (d : Duration) (amount : Nat) : Scale → Option Duration
  | .fine size => do d.add? 0 (← word? (amount * size))
  | .medium size | .coarse size => do d.add? (← word? (amount * size)) 0

/-- A fraction of a unit, as a numerator and a denominator. -/
structure Fraction where
  numerator : Nat
  denominator : Nat
  deriving DecidableEq, Repr

/-- So many times the fraction, if that is whole. -/
def Fraction.of? (f : Fraction) (size : Nat) : Option Nat := do
  let n ← word? (f.numerator * size)
  if n % f.denominator = 0 then some (n / f.denominator) else none

def addFraction? (d : Duration) (f : Fraction) : Scale → Option Duration
  | .fine size => do if size = 1 then none else d.add? 0 (← f.of? size)
  | .medium size => do d.add? 0 (← f.of? (size * secondSize))
  | .coarse size => do d.add? (← f.of? size) 0

def addTerm (d : Duration) (amount : Nat) (fraction : Option Fraction) (unit : String) :
    Except Fault Duration :=
  match scale? unit with
  | none => .error (.unknownUnit unit)
  | some scale =>
    match d.addWhole? amount scale, fraction with
    | none, _ => .error .tooLarge
    | some d, none => .ok d
    | some d, some f =>
      match d.addFraction? f scale with
      | none => .error .tooLarge
      | some d => .ok d

/-- How far the text has been read. -/
inductive Phase where
  /-- A number is expected, and its absence is blamed on `origin`. -/
  | before (total : Option Duration) (origin : Nat)
  | whole (total : Duration) (amount : Nat)
  /-- Behind a point; an invalid character is blamed on `blamed`. -/
  | fraction (total : Duration) (amount : Nat) (fraction : Fraction) (blamed : Nat)
  | unit (total : Duration) (amount : Nat) (fraction : Option Fraction) (letters : List Char)
  deriving DecidableEq, Repr

def isUnitLetter (c : Char) : Bool :=
  c.isAlpha || c == 'µ'

/-- A fraction with one more digit. -/
def Fraction.push? (f : Fraction) (digit : Nat) : Option Fraction :=
  (word? (10 * f.denominator)).map fun denominator => ⟨10 * f.numerator + digit, denominator⟩

namespace Phase

def stepWhole (total : Duration) (amount offset : Nat) (c : Char) : Except Fault Phase :=
  if c.isDigit then
    match word? (10 * amount + Decimal.digitValue c) with
    | none => .error .tooLarge
    | some amount => .ok (whole total amount)
  else if Text.isSpace c then .ok (whole total amount)
  else if isUnitLetter c then .ok (unit total amount none [c])
  else if c = '.' then .ok (fraction total amount ⟨0, 1⟩ offset)
  else .error (.invalidCharacter offset)

def stepFraction (total : Duration) (amount : Nat) (f : Fraction) (blamed next : Nat) (c : Char) :
    Except Fault Phase :=
  if c.isDigit then
    match f.push? (Decimal.digitValue c) with
    | none => .error .tooLarge
    | some f => .ok (fraction total amount f next)
  else if Text.isSpace c then .ok (fraction total amount f next)
  else if isUnitLetter c && f.denominator != 1 then .ok (unit total amount (some f) [c])
  else .error (.invalidCharacter blamed)

def stepUnit (total : Duration) (amount : Nat) (f : Option Fraction) (letters : List Char)
    (offset next : Nat) (c : Char) : Except Fault Phase :=
  let sum := total.addTerm amount f (String.ofList letters)
  if c.isDigit then sum.map fun total => whole total (Decimal.digitValue c)
  else if Text.isSpace c then sum.map fun total => before (some total) next
  else if isUnitLetter c then .ok (unit total amount f (letters ++ [c]))
  else .error (.invalidCharacter offset)

/-- Reads the character at the offset. -/
def step (p : Phase) (offset : Nat) (c : Char) : Except Fault Phase :=
  let next := offset + c.utf8Size
  match p with
  | before total origin =>
    if c.isDigit then .ok (whole (total.getD zero) (Decimal.digitValue c))
    else if Text.isSpace c then .ok (before total origin)
    else .error (.numberExpected origin)
  | whole total amount => stepWhole total amount offset c
  | fraction total amount f blamed => stepFraction total amount f blamed next c
  | unit total amount f letters => stepUnit total amount f letters offset next c

def finish : Phase → Except Fault Duration
  | before none _ => .error .empty
  | before (some total) _ => .ok total
  | whole _ amount => .error (.unitMissing amount)
  | fraction _ amount f blamed =>
    if f.denominator = 1 then .error (.invalidCharacter blamed) else .error (.unitMissing amount)
  | unit total amount f letters => total.addTerm amount f (String.ofList letters)

def run (p : Phase) (offset : Nat) : List Char → Except Fault Duration
  | [] => p.finish
  | c :: s =>
    match p.step offset c with
    | .error fault => .error fault
    | .ok p => p.run (offset + c.utf8Size) s

end Phase

/-- A nought alone needs no unit. -/
def read (text : String) : Except Fault Duration :=
  if text = "0" then .ok zero else (Phase.before none 0).run 0 text.toList

example : read "1h 30m" = .ok ⟨5400 * secondSize⟩ ∧ read "5" = .error (.unitMissing 5) := by
  constructor <;> rfl

end Duration
end MonitorAgent
