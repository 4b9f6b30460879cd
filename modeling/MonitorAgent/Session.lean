import MonitorAgent.Daemon

/-!
# Sessions

The steps of an agent one after the other, each at its own instant of the clock, and
what they answer.
-/

namespace MonitorAgent
namespace Agent

namespace Step

/-- Somebody asks for something, from within or over a listener. -/
def isRequest : Step → Bool
  | check .. | execute .. | connect .. | browse .. => true
  | collect .. | sample .. | register .. | setPolicy .. | collectFailed .. | showMetrics => false

def isCollection : Step → Bool
  | collect .. => true
  | _ => false

end Step

/-- The state of the host that a collection answers with. -/
def Answer.collected? : Answer → Option Host.State
  | collected host => some host
  | _ => none

variable (a : Agent) (now : Int)

@[simp] theorem count_host (events : List Telemetry.Event) : (a.count events).host = a.host := rfl

@[simp] theorem count_gauges (events : List Telemetry.Event) :
    (a.count events).gauges = a.gauges := rfl

theorem step_execute (command : Nrpe.Command) :
    let executed := (Nrpe.execute a.registry a.policy command).run (a.view now)
    a.step now (.execute command) = (a.count executed.2, .executed executed.1) := rfl

theorem step_browse (request : Web.Request) :
    let answered := (a.site.answer request).run (a.view now)
    a.step now (.browse request) = (a.count answered.2, .page answered.1) := rfl

/-- A request is counted, and nothing else comes of it. -/
theorem exists_count_of_isRequest {step : Step} (h : step.isRequest = true) :
    ∃ events, (a.step now step).1 = a.count events := by
  cases step with
  | check name args => exact ⟨[], rfl⟩
  | execute command => exact ⟨_, rfl⟩
  | connect peer stream padding => exact ⟨_, rfl⟩
  | browse request => exact ⟨_, congrArg Prod.fst (step_browse a now request)⟩
  | _ => cases h

def run (a : Agent) (steps : List (Int × Step)) : Agent :=
  steps.foldl (fun a (now, step) => (a.step now step).1) a

@[simp] theorem run_cons (step : Step) (steps : List (Int × Step)) :
    a.run ((now, step) :: steps) = (a.step now step).1.run steps := rfl

def answers (a : Agent) : List (Int × Step) → List Answer
  | [] => []
  | (now, step) :: steps => (a.step now step).2 :: (a.step now step).1.answers steps

@[simp] theorem answers_cons (step : Step) (steps : List (Int × Step)) :
    a.answers ((now, step) :: steps) =
      (a.step now step).2 :: (a.step now step).1.answers steps := rfl

/-- What has been collected, step after step. -/
def collections (a : Agent) (steps : List (Int × Step)) : List Host.State :=
  (a.answers steps).filterMap Answer.collected?

end Agent

theorem Daemon.exists_count_listen (d : Daemon) (now : Int) (event : Nrpe.Listener.Event) :
    ∃ events, (d.step now (.listen event)).agent = d.agent.count events := by
  rw [Daemon.step]
  split
  · exact ⟨[], rfl⟩
  · exact ⟨_, rfl⟩

end MonitorAgent
