import MonitorAgent.Check.Settings
import MonitorAgent.Decimal.Text

/-!
# Performance data

A metric is a named number with the levels of the thresholds that speak about
it.  Its text is `'name'=value` with the unit, both levels and both bounds.
-/

namespace MonitorAgent
namespace Check

structure Metric where
  name : String
  unit : String := ""
  value : Float
  warning : Option Float := none
  critical : Option Float := none
  min : Option Float := none
  max : Option Float := none

/-- Whole numbers below this one are shown digit by digit. -/
def wholeLimit : Nat :=
  1000000000000000

/-- A number in thousandths; small whole numbers have no sign of a point, others
are shown with the fewest digits that read back. -/
def numberText (x : Float) : String :=
  let x := Decimal.nearestWhole (x * 1000) / 1000
  match Decimal.whole? x with
  | some n => if n.natAbs < wholeLimit then toString n else Decimal.plain x
  | none => Decimal.plain x

namespace Metric

/-- The level of a threshold on one of the named fields. -/
def level? (keys : List String) (t : Threshold) : Option Float :=
  if t.name ∈ keys then t.number? else none

def withLevels (m : Metric) (s : Settings) (keys : List String) : Metric :=
  { m with warning := level? keys s.warning, critical := level? keys s.critical }

def optionText (x : Option Float) : String :=
  (x.map numberText).getD ""

def text (m : Metric) : String :=
  "'" ++ m.name ++ "'=" ++ numberText m.value ++ m.unit ++ ";" ++ optionText m.warning ++ ";" ++
    optionText m.critical ++ ";" ++ optionText m.min ++ ";" ++ optionText m.max

end Metric

example : numberText 2.5 = "2.5" ∧ numberText (-0.0001) = "0" ∧ numberText 0.0005 = "0.001" := by
  decide +kernel

end Check
end MonitorAgent
