import MonitorAgent.Duration.Reader
import MonitorAgent.Probe.View

/-!
# The load probe

The mean load of the processor over one or more windows of time.
-/

namespace MonitorAgent
namespace Probe
namespace Load

open Check

def settings : Settings where
  warning := ⟨"load", .greater, "80", ""⟩
  critical := ⟨"load", .greater, "90", ""⟩
  detail := "%(time): %(load_rounded)%"
  ok := "%(status): CPU load is ok."
  empty := "%(status): no cpu samples collected yet"

def standardWindows : List String :=
  ["5m", "1m", "5s"]

def windows (args : List Argument) : Except Failure (List String) := do
  refuseOthers ["time"] args
  let given := valuesOf "time" args
  return if given.isEmpty then standardWindows else given

def entry (s : Settings) (window : String) (load : Float) : Entry where
  fields :=
    [("time", window), ("core", "total"), ("load", numberText load),
     ("load_pct", numberText load), ("load_rounded", numberText (Decimal.nearestWhole load))]
  metrics :=
    [Metric.withLevels
      { name := "total " ++ window, unit := "%", value := Decimal.nearestWhole load
        min := some 0, max := some 100 }
      s ["load", "load_pct"]]

def readWindow (window : String) : Except Failure Duration :=
  match Duration.read window with
  | .ok duration => .ok duration
  | .error fault => .error (.argument ("time=" ++ window ++ ": " ++ fault.message))

/-- The entry of a window, if there are samples at all, or what ends the check. -/
def measured? (v : View) (s : Settings) (window : String) : Except Outcome (Option Entry) := do
  let duration ← (readWindow window).mapError .failed
  if v.history.isCountable v.now duration then
    return (v.history.average? v.now duration).map (entry s window)
  else .error (.aborted .countOverflow)

/-- The settings that the arguments leave, and the windows that they ask for. -/
def request (args : List String) : Except Failure (Settings × List String) := do
  let (s, rest) := settings.read args
  return (s, ← windows (← rest))

def check (v : View) (args : List String) : Outcome :=
  match request args with
  | .error failure => .failed failure
  | .ok (s, windows) =>
    match windows.mapM (measured? v s) with
    | .error outcome => outcome
    | .ok entries => .done (Entry.report s (entries.filterMap id))

end Load

def load : Probe := fun args v =>
  Load.check v args

end Probe
end MonitorAgent
