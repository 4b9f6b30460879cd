import MonitorAgent.Calendar
import MonitorAgent.Probe.View

/-!
# The uptime probe

How long the host has been up, and since when.
-/

namespace MonitorAgent
namespace Probe
namespace Uptime

open Check

def settings : Settings where
  warning := ⟨"uptime", .lower, "180", "s"⟩
  critical := ⟨"uptime", .lower, "60", "s"⟩
  detail := "uptime: %(uptime_human), boot: %(boot)"
  top := "%(status): %(list)"
  ok := "%(status): %(list)"

def entry (s : Settings) (uptime : Nat) (boot : String) : Entry where
  fields :=
    [("uptime", toString uptime), ("uptime_human", Duration.secondsInWords uptime),
     ("boot", boot)]
  metrics :=
    [Metric.withLevels { name := "uptime", unit := "s", value := Float.ofNat uptime } s ["uptime"]]

/-- The settings that the arguments leave, of a collected host. -/
def request (v : View) (args : List String) : Except Failure Settings := do
  let (s, rest) := settings.read args
  refuseOthers [] (← rest)
  requireCollected v.host
  return s

def check (v : View) (args : List String) : Outcome :=
  match request v args with
  | .error failure => .failed failure
  | .ok s =>
    match Calendar.stamp? v.host.snapshot.bootTime.toNat with
    | none => .aborted .dateOverflow
    | some boot => .done (Entry.report s [entry s v.host.snapshot.uptime.toNat boot])

end Uptime

def uptime : Probe := fun args v =>
  Uptime.check v args

end Probe
end MonitorAgent
