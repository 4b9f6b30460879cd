import MonitorAgent.Text.Cut

/-!
# Commands in payloads

A command and its arguments are written one after the other with exclamation
marks between them.
-/

namespace MonitorAgent
namespace Nrpe

structure Command where
  name : String
  args : List String
  deriving DecidableEq, Repr

namespace Command

def separator : Char := '!'

def encode (c : Command) : String :=
  String.ofList (Text.joinFields separator c.name.toList (c.args.map String.toList))

def decode (payload : String) : Command :=
  let (first, later) := Text.fields separator payload.toList
  ⟨String.ofList first, later.map String.ofList⟩

end Command
end Nrpe
end MonitorAgent
