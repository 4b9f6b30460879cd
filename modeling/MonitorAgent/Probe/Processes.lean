import MonitorAgent.Probe.View

/-!
# The processes probe

Whether the wanted processes run, or how many processes there are.
-/

namespace MonitorAgent
namespace Probe
namespace Processes

open Check

def settings : Settings where
  critical := ⟨"state", .equal, "stopped", ""⟩
  detail := "%(process)=%(state)"
  ok := "%(status): all %(count) processes are ok."
  empty := "%(status): check_process failed to find anything with this filter."

def wanted (args : List Argument) : Except Failure (List String) := do
  refuseOthers ["process"] args
  return valuesOf "process" args

def runningFields (p : Host.Process) : Fields :=
  [("process", p.name), ("pid", toString p.pid.toNat), ("state", "started"),
   ("status", p.status), ("rss", toString p.memory.toNat),
   ("rss_human", Host.sizeText p.memory.toNat), ("cpu", Decimal.fixed 1 p.load)]

def stoppedFields (name : String) : Fields :=
  [("process", name), ("state", "stopped"), ("count", "0")]

/-- The processes of a name, in which letter case does not matter. -/
def matching (processes : List Host.Process) (name : String) : List Host.Process :=
  processes.filter fun p => Text.sameLetters p.name.toList name.toList

/-- A name without a process stands for one that has stopped. -/
def itemsOf (processes : List Host.Process) (name : String) : List Fields :=
  match matching processes name with
  | [] => [stoppedFields name]
  | running => running.map runningFields

def count (name : String) (n : Nat) : Metric where
  name
  value := Float.ofNat n
  min := some 0

def report (s : Settings) (processes : List Host.Process) : List String → Result
  | [] =>
    (Tally.ofItems s (processes.map runningFields)).result s [count "count" processes.length]
  | names =>
    (Tally.ofItems s (names.flatMap (itemsOf processes))).result s
      (names.map fun name =>
        (count name (matching processes name).length).withLevels s ["count"])

def check (v : View) (args : List String) : Except Failure Result := do
  let (s, rest) := settings.read args
  let names ← wanted (← rest)
  requireCollected v.host
  return report s v.host.snapshot.processes names

end Processes

def processes : Probe := fun args v =>
  .ofExcept (Processes.check v args)

end Probe
end MonitorAgent
