import MonitorAgent.Check.Result
import MonitorAgent.Check.Template

/-!
# Tallies

A tally sorts the detail lines of the checked items by their states.  At the
end the worst state decides, and the lists of lines are offered to the template
of that outcome.
-/

namespace MonitorAgent
namespace Check

/-- The lines of each state, in the order in which they came. -/
structure Tally where
  ok : List String := []
  warning : List String := []
  critical : List String := []
  deriving DecidableEq, Repr

namespace Tally

def add (t : Tally) (s : Settings) (item : Fields) : Tally :=
  let line := Template.render s.detail item
  match s.classify item with
  | .critical => { t with critical := t.critical ++ [line] }
  | .warning => { t with warning := t.warning ++ [line] }
  | _ => { t with ok := t.ok ++ [line] }

/-- The tally of all items in their order. -/
def ofItems (s : Settings) (items : List Fields) : Tally :=
  items.foldl (fun t item => t.add s item) {}

def count (t : Tally) : Nat :=
  t.ok.length + t.warning.length + t.critical.length

def state (t : Tally) : State :=
  if !t.critical.isEmpty then .critical
  else if !t.warning.isEmpty then .warning
  else .ok

def problems (t : Tally) : List String :=
  t.critical ++ t.warning

def lines (t : Tally) : List String :=
  t.critical ++ t.warning ++ t.ok

def listed (lines : List String) : String :=
  ", ".intercalate lines

/-- What the tally tells to a template. -/
def summary (t : Tally) : Fields :=
  [("status", t.state.name), ("count", toString t.count), ("ok_list", listed t.ok),
   ("warn_list", listed t.warning), ("crit_list", listed t.critical),
   ("problem_list", listed t.problems), ("list", listed t.lines)]

def emptySummary (s : Settings) : Fields :=
  [("status", s.emptyState.name), ("count", "0")]

/-- The state and the text of all that was added, with further fields. -/
def finish (t : Tally) (s : Settings) (extra : Fields := []) : State × String :=
  if t.count = 0 then
    (s.emptyState, Template.render s.empty ((emptySummary s).override extra))
  else
    let template := if t.state = .ok then s.ok else s.top
    (t.state, Template.render template (t.summary.override extra))

def result (t : Tally) (s : Settings) (metrics : List Metric) : Result :=
  let (state, output) := t.finish s
  { state, output, metrics }

end Tally

/-- An item that is checked, with the metrics that go with it. -/
structure Entry where
  fields : Fields
  metrics : List Metric

/-- The result of all entries. -/
def Entry.report (s : Settings) (entries : List Entry) : Result :=
  (Tally.ofItems s (entries.map (·.fields))).result s (entries.flatMap (·.metrics))

end Check
end MonitorAgent
