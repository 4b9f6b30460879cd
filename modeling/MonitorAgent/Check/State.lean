import MonitorAgent.Text.Case
import MonitorAgent.Text.Space

/-!
# States of checks

The four states, from good to bad to unknown, with their names and codes, and
the spellings in which a state may be asked for.
-/

namespace MonitorAgent
namespace Check

inductive State where
  | ok
  | warning
  | critical
  | unknown
  deriving DecidableEq, Repr

namespace State

def code : State → UInt16
  | ok => 0
  | warning => 1
  | critical => 2
  | unknown => 3

def name : State → String
  | ok => "OK"
  | warning => "WARNING"
  | critical => "CRITICAL"
  | unknown => "UNKNOWN"

def spellings : List (String × State) :=
  [("0", ok), ("ok", ok), ("1", warning), ("warn", warning), ("warning", warning),
   ("2", critical), ("crit", critical), ("critical", critical), ("3", unknown),
   ("unknown", unknown)]

def read? (s : String) : Option State :=
  spellings.lookup (String.ofList (Text.lower (Text.trim s.toList)))

/-- The worse of two states. -/
def worse (a b : State) : State :=
  if a.code ≤ b.code then b else a

theorem read?_name (s : State) : read? s.name = some s := by
  cases s <;> decide +kernel

theorem code_injective {a b : State} (h : a.code = b.code) : a = b := by
  revert h
  cases a <;> cases b <;> decide

theorem name_inj {a b : State} : a.name = b.name ↔ a = b := by
  cases a <;> cases b <;> decide

end State

end Check
end MonitorAgent
