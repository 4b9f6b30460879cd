import MonitorAgent.Check.State

/-!
# Counters

What the agent counts: connections by how they ended, runs of checks by name and
state, scrapes and failed collections.  Counts are kept by labels, in the order
of the labels, and a combination of labels appears with its first event.
-/

namespace MonitorAgent
namespace Telemetry

/-- How a connection ended. -/
inductive Ending where
  | answered
  | denied
  | failed
  deriving DecidableEq, Repr

def Ending.name : Ending → String
  | answered => "ok"
  | denied => "denied"
  | failed => "error"

/-- What is counted. -/
inductive Event where
  | connection (ending : Ending)
  | execution (check : String) (state : Check.State)
  | scrape
  | collectError (collector : String)
  deriving DecidableEq, Repr

/-- Counts by label values. -/
abbrev Counts :=
  List (List String × Nat)

namespace Counts

def of (counts : Counts) (labels : List String) : Nat :=
  (counts.lookup labels).getD 0

/-- One more for the labels. -/
def bump (labels : List String) : Counts → Counts
  | [] => [(labels, 1)]
  | (other, n) :: counts =>
    if labels = other then (other, n + 1) :: counts
    else if labels < other then (labels, 1) :: (other, n) :: counts
    else (other, n) :: bump labels counts

end Counts

structure Counters where
  scrapes : Nat := 0
  connections : Counts := []
  executions : Counts := []
  collectErrors : Counts := []
  deriving DecidableEq, Repr

namespace Counters

def record (c : Counters) : Event → Counters
  | .connection ending => { c with connections := c.connections.bump [ending.name] }
  | .execution check state => { c with executions := c.executions.bump [check, state.name] }
  | .scrape => { c with scrapes := c.scrapes + 1 }
  | .collectError collector => { c with collectErrors := c.collectErrors.bump [collector] }

def recordAll (c : Counters) (events : List Event) : Counters :=
  events.foldl record c

theorem recordAll_append (c : Counters) (a b : List Event) :
    c.recordAll (a ++ b) = (c.recordAll a).recordAll b :=
  List.foldl_append

end Counters
end Telemetry
end MonitorAgent
