import MonitorAgent.Agent
import MonitorAgent.Nrpe.Listener

/-!
# The daemon

An agent and its listener.  The agent moves on by its own steps; a connection of
the listener is counted when it ends, whatever it ends with.
-/

namespace MonitorAgent

structure Daemon where
  agent : Agent
  listener : Nrpe.Listener := {}

namespace Daemon

inductive Step where
  | own (step : Agent.Step)
  | listen (event : Nrpe.Listener.Event)

/-- What comes of a connection at an instant. -/
def exchange (d : Daemon) (now : Int) (c : Nrpe.Connection) : Nrpe.Exchange :=
  (c.exchange d.agent.registry d.agent.policy).run (d.agent.view now)

def step (d : Daemon) (now : Int) : Step → Daemon
  | .own step => { d with agent := (d.agent.step now step).1 }
  | .listen event =>
    match d.listener.step event with
    | (listener, none) => { d with listener }
    | (listener, some c) => { agent := d.agent.count (d.exchange now c).counted, listener }

/-- The daemon after steps, each of them at an instant of the clock. -/
def run (d : Daemon) (steps : List (Int × Step)) : Daemon :=
  steps.foldl (fun d (now, step) => d.step now step) d

@[simp] theorem run_nil (d : Daemon) : d.run [] = d := rfl

@[simp] theorem run_cons (d : Daemon) (now : Int) (step : Step) (steps : List (Int × Step)) :
    d.run ((now, step) :: steps) = (d.step now step).run steps := rfl

theorem run_append (d : Daemon) (a b : List (Int × Step)) : d.run (a ++ b) = (d.run a).run b :=
  List.foldl_append

end Daemon
end MonitorAgent
