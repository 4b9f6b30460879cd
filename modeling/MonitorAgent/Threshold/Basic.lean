import MonitorAgent.Decimal.Reader
import MonitorAgent.Threshold.Operator

/-!
# Thresholds

A threshold asks for a relation between a named field and a value with an
optional unit.  The value stays text; it is a number when it reads as one, and
a known unit then multiplies it.  The disabled threshold has no name.
-/

namespace MonitorAgent

structure Threshold where
  name : String
  operator : Threshold.Operator
  value : String
  unit : String
  deriving DecidableEq, Repr

namespace Threshold

/-- The threshold that nothing meets. -/
def disabled : Threshold where
  name := ""
  operator := .equal
  value := "none"
  unit := ""

def saysNone (s : List Char) : Bool :=
  Text.sameLetters s ['n', 'o', 'n', 'e']

def isDisabled (t : Threshold) : Bool :=
  t.name.isEmpty || saysNone t.value.toList

/-- Units of time have one spelling each. -/
def seconds? (unit : String) : Option Float :=
  [("s", 1), ("m", 60), ("h", 3600), ("d", 86400), ("w", 604800)].lookup unit

/-- Units of size may be written in any letter case. -/
def bytes? (unit : String) : Option Float :=
  [("B", 1), ("KB", 1e3), ("MB", 1e6), ("GB", 1e9), ("TB", 1e12), ("PB", 1e15)].lookup
    (String.ofList (Text.upper unit.toList))

def multiplier? (unit : String) : Option Float :=
  (seconds? unit).or (bytes? unit)

def isKnownUnit (unit : String) : Bool :=
  unit.isEmpty || unit == "%" || (multiplier? unit).isSome

def number? (t : Threshold) : Option Float :=
  (Decimal.read? t.value.toList).map (· * (multiplier? t.unit).getD 1)

def percentMark : List Char :=
  ['_', 'p', 'c', 't']

def withPercentMark (name : String) : String :=
  name ++ String.ofList percentMark

/-- The text without the mark at its end, if it has one. -/
def dropPercentMark (name : String) : String :=
  if percentMark.isSuffixOf name.toList then
    String.ofList (name.toList.take (name.toList.length - percentMark.length))
  else name

/-- A field in percent is shown by its plain name, as its unit tells it. -/
def shownName (t : Threshold) : String :=
  if t.unit = "%" then dropPercentMark t.name else t.name

def display (t : Threshold) : String :=
  if t.isDisabled then "none"
  else t.shownName ++ " " ++ t.operator.symbol ++ " " ++ t.value ++ t.unit

@[simp] theorem isDisabled_disabled : disabled.isDisabled = true := rfl

end Threshold
end MonitorAgent
