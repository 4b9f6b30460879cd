import MonitorAgent.Check.Registry
import MonitorAgent.Nrpe.Command
import MonitorAgent.Nrpe.Policy
import MonitorAgent.Nrpe.Stream
import MonitorAgent.Telemetry.Counters

/-!
# Answering requests

One connection is one exchange: a query comes in, a check runs, a response goes
out.  A peer that is not allowed gets none, and nothing runs for a query that
does not verify.  Every exchange tells what is to be counted of it.
-/

namespace MonitorAgent
namespace Nrpe

def agentVersion : String :=
  "SNClient+ v0.1.0"

/-- The command that asks for the version only. -/
def versionCommand : String :=
  "_NRPE_CHECK"

variable {m : Type → Type} [Monad m]

/-- Runs a command that the policy lets pass, and counts it. -/
def execute (registry : Check.Registry m) (policy : Policy) (c : Command) :
    m (Check.Result × List Telemetry.Event) :=
  if c.name = versionCommand then pure ({ state := .ok, output := agentVersion }, [])
  else
    match policy.refusal? c.args with
    | some refusal => pure (.unknown refusal.message, [])
    | none => do
      let result ← registry.runGuarded c.name c.args
      pure (result, [.execution c.name result.state])

/-- How a connection went: what came of it, the response if there was one, and
what is counted. -/
structure Exchange where
  outcome : Except Error Unit
  reply : Option Packet
  events : List Telemetry.Event

/-- The command of the query that a stream holds. -/
def receiveQuery (limit : Duration) (stream : Stream) : Except Error Command :=
  match (Packet.read limit stream).1 with
  | .error error => .error error
  | .ok packet =>
    match packet.verify .query with
    | .error error => .error error
    | .ok () => .ok (Command.decode packet.text)

/-- One connection from a peer. -/
def connect (registry : Check.Registry m) (policy : Policy) (peer : Net.Address)
    (stream : Stream) (padding : UInt16) : m Exchange :=
  if !policy.allows peer then pure ⟨.ok (), none, [.connection .denied]⟩
  else
    match receiveQuery policy.timeout stream with
    | .error error => pure ⟨.error error, none, []⟩
    | .ok command => do
      let (result, events) ← execute registry policy command
      let reply := Packet.response result.state.code result.text padding
      pure ⟨.ok (), some reply, events ++ [.connection .answered]⟩

/-- What a listener counts of a connection: an error counts as well. -/
def Exchange.counted (e : Exchange) : List Telemetry.Event :=
  match e.outcome with
  | .ok () => e.events
  | .error _ => e.events ++ [.connection .failed]

end Nrpe
end MonitorAgent
