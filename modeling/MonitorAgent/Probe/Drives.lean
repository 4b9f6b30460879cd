import MonitorAgent.Probe.View

/-!
# The drives probe

How full the file systems are.
-/

namespace MonitorAgent
namespace Probe
namespace Drives

open Check

def settings : Settings where
  warning := ⟨"used_pct", .greater, "80", "%"⟩
  critical := ⟨"used_pct", .greater, "90", "%"⟩
  detail := "%(drive) %(used_human)/%(size_human) used (%(used_pct)%)"
  ok := "%(status): All %(count) drive(s) are ok"
  empty := "%(status): No drives found"

/-- The drives that are asked for and those that are not wanted. -/
structure Selection where
  drives : List String
  excluded : List String

namespace Selection

def read (args : List Argument) : Except Failure Selection := do
  refuseOthers ["drive", "exclude"] args
  return ⟨valuesOf "drive" args, valuesOf "exclude" args⟩

def isWildcard (drive : String) : Bool :=
  drive == "*" || drive == "all"

def wantsAll (sel : Selection) : Bool :=
  sel.drives.isEmpty || sel.drives.any isWildcard

def selects (sel : Selection) (disk : Host.Disk) : Bool :=
  !sel.excluded.contains disk.mount && (sel.wantsAll || sel.drives.contains disk.mount)

end Selection

def entry (s : Settings) (disk : Host.Disk) : Entry where
  fields :=
    ("drive", disk.mount) :: ("fstype", disk.fileSystem) ::
      usageFields disk.used.toNat disk.total.toNat
  metrics :=
    usageMetrics (disk.mount ++ " used") (disk.mount ++ " used %") disk.used.toNat
      disk.total.toNat s

def check (v : View) (args : List String) : Except Failure Result := do
  let (s, rest) := settings.read args
  let sel ← Selection.read (← rest)
  requireCollected v.host
  return Entry.report s ((v.host.snapshot.disks.filter sel.selects).map (entry s))

end Drives

def drives : Probe := fun args v =>
  .ofExcept (Drives.check v args)

end Probe
end MonitorAgent
