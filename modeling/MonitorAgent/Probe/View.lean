import MonitorAgent.Check.Options
import MonitorAgent.Check.Registry
import MonitorAgent.Check.Tally
import MonitorAgent.Host.LoadHistory
import MonitorAgent.Host.Size
import MonitorAgent.Host.State

/-!
# What probes see

A probe is a check that looks at the state of the host and the history of its
load at one instant, and changes nothing.
-/

namespace MonitorAgent

structure Probe.View where
  host : Host.State
  history : Host.LoadHistory
  now : Int

abbrev Probe :=
  Check.Handler (ReaderM Probe.View)

namespace Probe

open Check

/-- A probe of the collected host.  The arguments come first, then the question
whether there is anything collected. -/
def requireCollected (host : Host.State) : Except Failure Unit :=
  if host.isCollected then .ok () else .error .notCollected

def sized (name : String) (bytes : UInt64) (s : Settings) (key : String) : Metric :=
  Metric.withLevels { name, unit := "B", value := Float.ofNat bytes.toNat, min := some 0 } s [key]

/-- A share in percent, rounded to tenths. -/
def share (name : String) (percent : Float) (s : Settings) : Metric :=
  Metric.withLevels
    { name, unit := "%", value := Decimal.nearestWhole (percent * 10) / 10, min := some 0
      max := some 100 }
    s ["used_pct"]

/-- The fields of a used part of a total. -/
def usageFields (used total : Nat) : Fields :=
  let free := total - used
  let percent := Host.percent used total
  [("used", toString used), ("free", toString free), ("size", toString total),
   ("used_pct", numberText percent), ("free_pct", numberText (100 - percent)),
   ("used_human", Host.sizeText used), ("free_human", Host.sizeText free),
   ("size_human", Host.sizeText total)]

/-- The metrics of a used part of a total, in bytes and in percent. -/
def usageMetrics (bytesName percentName : String) (used total : Nat) (s : Settings) :
    List Metric :=
  [Metric.withLevels
     { name := bytesName, unit := "B", value := Float.ofNat used, min := some 0
       max := some (Float.ofNat total) }
     s ["used"],
   share percentName (Host.percent used total) s]

end Probe
end MonitorAgent
