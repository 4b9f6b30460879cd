import MonitorAgent.Nrpe.Server

/-!
# Listening

A listener takes connections until it is told to stop.  Each of them is handled on
its own, so that they end in any order, and those that it took go on when it has
stopped.  A reply may get lost on its way to the peer: that is an error of the
connection, which then is not counted as answered.
-/

namespace MonitorAgent
namespace Nrpe

/-- What becomes of a reply. -/
inductive Delivery where
  | arrived
  | failed (fault : Fault)
  | stalled
  deriving DecidableEq, Repr

def Delivery.error? (limit : Duration) : Delivery → Option Error
  | arrived => none
  | failed fault => some (.connection fault)
  | stalled => some (.timeout limit)

def Exchange.deliver (limit : Duration) (d : Delivery) (e : Exchange) : Exchange :=
  match e.reply, d.error? limit with
  | some _, some error =>
    { outcome := .error error, reply := none
      events := e.events.filter (· ≠ .connection .answered) }
  | _, _ => e

/-- A peer with what it sends and what becomes of the reply to it. -/
structure Connection where
  peer : Net.Address
  stream : Stream
  delivery : Delivery := .arrived
  padding : UInt16 := 0

def Connection.exchange {m : Type → Type} [Monad m] (registry : Check.Registry m)
    (policy : Policy) (c : Connection) : m Exchange := do
  let exchange ← connect registry policy c.peer c.stream c.padding
  pure (exchange.deliver policy.timeout c.delivery)

/-- The connections are those that were taken and have not ended yet. -/
structure Listener where
  isOpen : Bool := true
  connections : List Connection := []

namespace Listener

/-- What happens to a listener.  The word to stop may change, or nobody may be left to
give it. -/
inductive Event where
  | taken (c : Connection)
  | failed (fault : Fault)
  | told (stop : Option Bool)
  | ended (place : Nat)

/-- The listener after an event, and the connection that has ended with it. -/
def step (l : Listener) : Event → Listener × Option Connection
  | .taken c => (if l.isOpen then { l with connections := l.connections ++ [c] } else l, none)
  | .failed _ => (l, none)
  | .told stop => ({ l with isOpen := l.isOpen && stop == some false }, none)
  | .ended place =>
    ({ l with connections := l.connections.eraseIdx place }, l.connections[place]?)

end Listener
end Nrpe
end MonitorAgent
