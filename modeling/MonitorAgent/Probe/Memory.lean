import MonitorAgent.Probe.View

/-!
# The memory probe

How full the physical memory is, and the memory and the swap space together.
-/

namespace MonitorAgent
namespace Probe
namespace Memory

open Check

def settings : Settings where
  warning := ⟨"used_pct", .greater, "80", "%"⟩
  critical := ⟨"used_pct", .greater, "90", "%"⟩
  detail := "%(type) = %(used_human)/%(size_human) (%(used_pct)%)"
  ok := "%(status): %(list)"

inductive Kind where
  | physical
  | committed
  deriving DecidableEq, Repr

def Kind.name : Kind → String
  | physical => "physical"
  | committed => "committed"

def Kind.read (a : Argument) : Except Failure Kind :=
  if a.key = "type" then
    match a.value with
    | "physical" => .ok .physical
    | "committed" => .ok .committed
    | other => .error (.argument ("unknown memory type '" ++ other ++ "'"))
  else .error (.unexpectedArgument a.key)

def kinds (args : List Argument) : Except Failure (List Kind) := do
  let given ← args.mapM Kind.read
  return if given.isEmpty then [.physical, .committed] else given

/-- The sum of two sizes, if it fits in a word. -/
def sum? (a b : UInt64) : Except Abort Nat :=
  if a.toNat + b.toNat < UInt64.size then .ok (a.toNat + b.toNat) else .error .sizeOverflow

/-- The used bytes of a kind and all of them. -/
def usage (host : Host.Snapshot) : Kind → Except Abort (Nat × Nat)
  | .physical => .ok (host.memoryUsed.toNat, host.memoryTotal.toNat)
  | .committed => do
    let used ← sum? host.memoryUsed host.swapUsed
    let total ← sum? host.memoryTotal host.swapTotal
    return (used, total)

def entry (s : Settings) (kind : Kind) (used total : Nat) : Entry where
  fields := ("type", kind.name) :: usageFields used total
  metrics := usageMetrics kind.name (kind.name ++ " %") used total s

/-- A kind of which there is nothing has no entry. -/
def present? (host : Host.Snapshot) (s : Settings) (kind : Kind) : Except Abort (Option Entry) := do
  let (used, total) ← usage host kind
  return if total = 0 then none else some (entry s kind used total)

/-- What the arguments ask for, of a collected host. -/
def request (v : View) (args : List String) : Except Failure (Settings × List Kind) := do
  let (s, rest) := settings.read args
  let kinds ← kinds (← rest)
  requireCollected v.host
  return (s, kinds)

def check (v : View) (args : List String) : Outcome :=
  match request v args with
  | .error failure => .failed failure
  | .ok (s, kinds) =>
    match kinds.mapM (present? v.host.snapshot s) with
    | .error cause => .aborted cause
    | .ok entries => .done (Entry.report s (entries.filterMap id))

end Memory

def memory : Probe := fun args v =>
  Memory.check v args

end Probe
end MonitorAgent
