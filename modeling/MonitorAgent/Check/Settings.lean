import MonitorAgent.Check.Failure
import MonitorAgent.Threshold.Compare

/-!
# Settings of checks

A check carries two thresholds, four templates and a state for the case that
there is nothing to check.  Arguments of the form `key=value` change them; the
arguments with keys of other names are left to the check.
-/

namespace MonitorAgent
namespace Check

structure Argument where
  key : String
  value : String
  deriving DecidableEq, Repr

/-- Key and value stand around the first equals sign. -/
def Argument.read (raw : String) : Argument :=
  let s := raw.toList
  let (key, value) := (Text.cut '=' s).getD (s, [])
  ⟨String.ofList (Text.trim key), String.ofList (Text.trim value)⟩

structure Settings where
  warning : Threshold := .disabled
  critical : Threshold := .disabled
  detail : String := ""
  top : String := "%(status): %(problem_list)"
  ok : String := "%(status): All %(count) item(s) are ok."
  empty : String := "%(status): No items found."
  emptyState : State := .unknown
  deriving DecidableEq, Repr

namespace Settings

def readThreshold (text : String) : Except Failure Threshold :=
  (Threshold.read text).mapError .threshold

/-- The settings after an argument, and the argument if it is left over. -/
def accept (s : Settings) (a : Argument) : Except Failure (Settings × Option Argument) :=
  match a.key with
  | "" => .ok (s, none)
  | "warn" | "warning" => (readThreshold a.value).map fun t => ({ s with warning := t }, none)
  | "crit" | "critical" => (readThreshold a.value).map fun t => ({ s with critical := t }, none)
  | "detail-syntax" => .ok ({ s with detail := a.value }, none)
  | "top-syntax" => .ok ({ s with top := a.value }, none)
  | "ok-syntax" => .ok ({ s with ok := a.value }, none)
  | "empty-syntax" => .ok ({ s with empty := a.value }, none)
  | "empty-state" => (State.read a.value).map fun state => ({ s with emptyState := state }, none)
  | _ => .ok (s, some a)

/-- The settings as far as the arguments could be read, and what is left over. -/
def read (s : Settings) : List String → Settings × Except Failure (List Argument)
  | [] => (s, .ok [])
  | raw :: more =>
    match s.accept (Argument.read raw) with
    | .error failure => (s, .error failure)
    | .ok (s, left) =>
      let (s, result) := s.read more
      (s, result.map (left.toList ++ ·))

/-- How bad the fields are by the thresholds. -/
def classify (s : Settings) (fields : Fields) : State :=
  if s.critical.isMet fields then .critical
  else if s.warning.isMet fields then .warning
  else .ok

@[simp] theorem read_nil (s : Settings) : s.read [] = (s, .ok []) := rfl

end Settings
end Check
end MonitorAgent
