import MonitorAgent.Probe.View

/-!
# The network probe

The traffic of the network interfaces per second.
-/

namespace MonitorAgent
namespace Probe
namespace Network

open Check

def settings : Settings where
  warning := ⟨"total", .greater, "80", "MB"⟩
  critical := ⟨"total", .greater, "100", "MB"⟩
  detail := "%(name) >%(sent_human)/s <%(received_human)/s"
  ok := "%(status): %(list)"
  empty := "%(status): No network interfaces found"

/-- The devices that are asked for and those that are not wanted. -/
structure Selection where
  devices : List String
  excluded : List String

namespace Selection

def read (args : List Argument) : Except Failure Selection := do
  refuseOthers ["device", "exclude"] args
  return ⟨valuesOf "device" args, valuesOf "exclude" args⟩

def selects (sel : Selection) (i : Host.Interface) : Bool :=
  !sel.excluded.contains i.name && (sel.devices.isEmpty || sel.devices.contains i.name)

end Selection

/-- Both directions together, at most the greatest word. -/
def totalRate (i : Host.Interface) : UInt64 :=
  UInt64.ofNat (min (i.receiveRate.toNat + i.sendRate.toNat) (UInt64.size - 1))

def entry (s : Settings) (i : Host.Interface) : Entry where
  fields :=
    [("name", i.name), ("received", toString i.receiveRate.toNat),
     ("sent", toString i.sendRate.toNat), ("total", toString (totalRate i).toNat),
     ("received_total", toString i.received.toNat), ("sent_total", toString i.sent.toNat),
     ("received_human", Host.sizeText i.receiveRate.toNat),
     ("sent_human", Host.sizeText i.sendRate.toNat)]
  metrics :=
    [sized (i.name ++ "_traffic_in") i.receiveRate s "received",
     sized (i.name ++ "_traffic_out") i.sendRate s "sent",
     sized (i.name ++ "_traffic_total") (totalRate i) s "total"]

def check (v : View) (args : List String) : Except Failure Result := do
  let (s, rest) := settings.read args
  let sel ← Selection.read (← rest)
  requireCollected v.host
  return Entry.report s ((v.host.snapshot.interfaces.filter sel.selects).map (entry s))

end Network

def network : Probe := fun args v =>
  .ofExcept (Network.check v args)

end Probe
end MonitorAgent
