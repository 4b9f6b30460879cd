import MonitorAgent.Probe.View

/-!
# The dummy probe

Answers with the state and the text that it is asked for.
-/

namespace MonitorAgent
namespace Probe
namespace Dummy

open Check

def check : List String → Except Failure Result
  | [] => .ok { state := .ok, output := "OK" }
  | state :: words => do
    let state ← State.read state
    return { state, output := if words.isEmpty then state.name else " ".intercalate words }

end Dummy

def dummy : Probe := fun args _ =>
  .ofExcept (Dummy.check args)

end Probe
end MonitorAgent
