import MonitorAgent.Decimal.Text
import MonitorAgent.Host.Size
import MonitorAgent.Host.State

/-!
# Gauges

What the agent shows of the host.  The gauges outlive a collection and are set anew
by the next one: a gauge of the host is overwritten, and those of the disks and the
interfaces, which stand under their names, are dropped first and then set one by one.
-/

namespace MonitorAgent
namespace Telemetry

/-- Values by the value of a label, in the order of these. -/
abbrev Readings :=
  List (String × Float)

namespace Readings

/-- Sets the value under a key; it replaces one that is there. -/
def set (key : String) (value : Float) : Readings → Readings
  | [] => [(key, value)]
  | (other, present) :: more =>
    if key = other then (key, value) :: more
    else if key < other then (key, value) :: (other, present) :: more
    else (other, present) :: set key value more

/-- Drops all values. -/
def reset (_ : Readings) : Readings :=
  []

end Readings

def sizeOf (n : UInt64) : Float :=
  Float.ofNat n.toNat

def ofTime (n : Int64) : Float :=
  Decimal.signed (n < 0) n.toInt.natAbs

/-- The time between two times, within the bounds of times. -/
def timeSince (start now : Int64) : Int64 :=
  Int64.ofInt (max Int64.minValue.toInt (min Int64.maxValue.toInt (now.toInt - start.toInt)))

structure Gauges where
  load : Float := 0
  memoryUsed : Float := 0
  memoryTotal : Float := 0
  swapUsed : Float := 0
  swapTotal : Float := 0
  diskUsed : Readings := []
  diskTotal : Readings := []
  diskUsage : Readings := []
  netReceived : Readings := []
  netSent : Readings := []
  processes : Float := 0
  uptime : Float := 0
  agentUptime : Float := 0
  collectedAt : Float := 0

namespace Gauges

/-- Sets what there is one of. -/
def setHost (g : Gauges) (host : Host.State) : Gauges :=
  let now := host.snapshot
  { g with
    load := now.load
    memoryUsed := sizeOf now.memoryUsed
    memoryTotal := sizeOf now.memoryTotal
    swapUsed := sizeOf now.swapUsed
    swapTotal := sizeOf now.swapTotal
    processes := Float.ofNat now.processes.length
    uptime := sizeOf now.uptime
    collectedAt := ofTime host.collectedAt }

def reset (g : Gauges) : Gauges :=
  { g with
    diskUsed := g.diskUsed.reset
    diskTotal := g.diskTotal.reset
    diskUsage := g.diskUsage.reset
    netReceived := g.netReceived.reset
    netSent := g.netSent.reset }

def setDisk (g : Gauges) (d : Host.Disk) : Gauges :=
  { g with
    diskUsed := g.diskUsed.set d.mount (sizeOf d.used)
    diskTotal := g.diskTotal.set d.mount (sizeOf d.total)
    diskUsage := g.diskUsage.set d.mount (Host.percent d.used.toNat d.total.toNat) }

def setInterface (g : Gauges) (i : Host.Interface) : Gauges :=
  { g with
    netReceived := g.netReceived.set i.name (sizeOf i.receiveRate)
    netSent := g.netSent.set i.name (sizeOf i.sendRate) }

/-- The gauges after a collection, at a time of the clock. -/
def update (g : Gauges) (host : Host.State) (clock : Int64) : Gauges :=
  let g := (g.setHost host).reset
  let g := host.snapshot.disks.foldl setDisk g
  let g := host.snapshot.interfaces.foldl setInterface g
  { g with agentUptime := ofTime (timeSince host.startedAt clock) }

end Gauges
end Telemetry
end MonitorAgent
