import MonitorAgent.Nrpe.Server

/-!
# Asking other agents

A query is written to the peer and one packet is read back, which has to verify
as a response.
-/

namespace MonitorAgent
namespace Nrpe

variable {m : Type → Type} [Monad m]

/-- The way to a peer: none, or what the peer sends back for the bytes it gets. -/
inductive Link (m : Type → Type) where
  | broken (fault : Fault)
  | peer (respond : List UInt8 → m Stream)

def receiveResponse (limit : Duration) (stream : Stream) : Except Error Packet :=
  match (Packet.read limit stream).1 with
  | .error error => .error error
  | .ok packet =>
    match packet.verify .response with
    | .error error => .error error
    | .ok () => .ok packet

/-- The response to a command. -/
def ask (link : Link m) (c : Command) (limit : Duration) (padding : UInt16) :
    m (Except Error Packet) :=
  match link with
  | .broken fault => pure (.error (.connection fault))
  | .peer respond => do
    let stream ← respond (Packet.query c.encode padding).toBytes
    pure (receiveResponse limit stream)

/-- The stream that a server of this kind answers some bytes with; the one who
sends them then waits. -/
def respond (registry : Check.Registry m) (policy : Policy) (peer : Net.Address)
    (padding : UInt16) (bytes : List UInt8) : m Stream := do
  let exchange ← connect registry policy peer ⟨[bytes], .silent⟩ padding
  pure ⟨(exchange.reply.map Packet.toBytes).toList, .closed⟩

/-- What a program ends with. -/
structure Exit where
  code : Nat
  output : String
  deriving DecidableEq, Repr

def Exit.ofResult (r : Check.Result) : Exit :=
  ⟨r.state.code.toNat, r.text ++ "\n"⟩

def Exit.unknown (reason : String) : Exit :=
  .ofResult (.unknown reason)

/-- Shows the response; its status is the exit code, as far as it is one of a state. -/
def Exit.ofResponse : Except Error Packet → Exit
  | .ok packet => ⟨min packet.status.toNat 3, packet.text ++ "\n"⟩
  | .error error => .unknown error.message

/-- Asks a peer with a time limit given as text. -/
def report (link : Link m) (c : Command) (limit : String) (padding : UInt16) : m Exit :=
  match Duration.read limit with
  | .error fault => pure (.unknown ("invalid timeout '" ++ limit ++ "': " ++ fault.message))
  | .ok limit => do
    let response ← ask link c limit padding
    pure (.ofResponse response)

end Nrpe
end MonitorAgent
