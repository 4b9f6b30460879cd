import MonitorAgent.Daemon
import MonitorAgent.Proofs.HandlerCalls

/-!
# Moments of a run

A moment is a step of the daemon together with what the step finds.  What is to be
counted of it is told here by what happens at it: which check a request has run and
with which state, how a connection ended, whether the metrics were asked for.  The
main lemma says that these are the events that the step counts, in this order, and
that it counts nothing else.
-/

namespace MonitorAgent

open Telemetry (Event)

namespace Nrpe

/-- The command is not the one for the version, and its arguments keep both rules. -/
def Command.Passes (policy : Policy) (c : Command) : Prop :=
  c.name ≠ "_NRPE_CHECK" ∧ (c.args = [] ∨ policy.allowArguments = true) ∧
    (policy.allowNastyCharacters = true ∨
      ∀ arg ∈ c.args, ∀ x ∈ arg.toList, x ∉ Policy.nastyCharacters)

theorem Command.passes_iff {policy : Policy} {c : Command} :
    c.Passes policy ↔ c.name ≠ versionCommand ∧ policy.refusal? c.args = none := by
  rw [Policy.refusal?_eq_none_iff]
  exact Iff.rfl

instance (policy : Policy) (c : Command) : Decidable (c.Passes policy) :=
  decidable_of_iff _ Command.passes_iff.symm

end Nrpe

structure Moment where
  daemon : Daemon
  now : Int
  step : Daemon.Step

/-- The moments of a run, each with the daemon that the steps before it have led to. -/
def Daemon.moments (d : Daemon) : List (Int × Daemon.Step) → List Moment
  | [] => []
  | (now, step) :: steps => ⟨d, now, step⟩ :: (d.step now step).moments steps

namespace Moment

variable (m : Moment)

def policy : Nrpe.Policy :=
  m.daemon.agent.policy

def view : Probe.View :=
  m.daemon.agent.view m.now

/-- The connection that is dealt with, by itself or by the listener. -/
def connection? : Option Nrpe.Connection :=
  match m.step with
  | .own (.connect peer stream padding) => some { peer, stream, padding }
  | .listen (.ended place) => m.daemon.listener.connections[place]?
  | _ => none

def isServed : Bool :=
  match m.step with
  | .own _ => false
  | .listen _ => true

def exchange? : Option Nrpe.Exchange :=
  m.connection?.map (m.daemon.exchange m.now)

def request? : Option Nrpe.Request :=
  match m.step with
  | .own (.execute c) => some (.execute c)
  | _ => m.connection?.map fun c => .connect c.peer c.stream c.padding

/-- The page that a request of the web comes to, with its query. -/
def route? : Option (Web.Route × List Char) :=
  match m.step with
  | .own (.browse r) =>
    if r.method = "GET" ∨ r.method = "HEAD" then
      (Web.Route.ofPath? (Web.Uri.read r.target.toList).path).map
        (·, (Web.Uri.read r.target.toList).query)
    else none
  | _ => none

/-- The command that a request of the web asks for, if its name can be read. -/
def query? : Option Nrpe.Command :=
  match m.route? with
  | some (.query name, query) =>
    (Web.pathText? name).map fun name =>
      ⟨String.ofList name, (Web.queryPairs query).map Web.argumentOf⟩
  | _ => none

/-- The command that a request gets through to the checks. -/
def command? : Option Nrpe.Command :=
  ((m.request?.bind (·.command? m.policy)).filter (·.Passes m.policy)).or m.query?

/-- What comes of a command.  A check that is broken off has a result of unknown state. -/
def result (c : Nrpe.Command) : Check.Result :=
  (m.daemon.agent.registry.runGuarded c.name c.args).run m.view

def execution? : Option (String × Check.State) :=
  m.command?.map fun c => (c.name, (m.result c).state)

def isDenied : Bool :=
  m.connection?.any fun c => !m.policy.allows c.peer

def isAnswered : Bool :=
  m.exchange?.any (·.reply.isSome)

/-- The listener gets an error for its connection. -/
def isFailed : Bool :=
  m.isServed && m.exchange?.any (!·.outcome.isOk)

def isScrape : Bool :=
  m.route?.any (·.1 = .metrics)

def collectError? : Option String :=
  match m.step with
  | .own (.collectFailed collector) => some collector
  | _ => none

/-- The endings that hold of a connection. -/
def endings : List Telemetry.Ending :=
  (if m.isDenied then [.denied] else []) ++ (if m.isAnswered then [.answered] else []) ++
    (if m.isFailed then [.failed] else [])

/-- What the step counts. -/
def events : List Event :=
  match m.step with
  | .own (.execute c) =>
    ((Nrpe.execute m.daemon.agent.registry m.policy c).run m.view).2
  | .own (.connect peer stream padding) =>
    ((Nrpe.connect m.daemon.agent.registry m.policy peer stream padding).run m.view).events
  | .own (.browse r) => ((m.daemon.agent.site.answer r).run m.view).2
  | .own (.collectFailed collector) => [.collectError collector]
  | .own _ => []
  | .listen event =>
    match (m.daemon.listener.step event).2 with
    | none => []
    | some c => (m.daemon.exchange m.now c).counted

theorem counters_step :
    (m.daemon.step m.now m.step).agent.counters =
      m.daemon.agent.counters.recordAll m.events := by
  obtain ⟨d, now, step⟩ := m
  cases step with
  | own step => cases step <;> rfl
  | listen event =>
      cases event with
      | taken c => rfl
      | failed fault => rfl
      | told stop => rfl
      | ended place =>
          simp only [Daemon.step, Nrpe.Listener.step, events]
          cases d.listener.connections[place]? <;> rfl

/-! ## Commands -/

/-- What a command counts, wherever it comes from. -/
def executed (c : Nrpe.Command) : List Event :=
  if c.Passes m.policy then [.execution c.name (m.result c).state] else []

theorem execute_of_passes {c : Nrpe.Command} (h : c.Passes m.policy) :
    (Nrpe.execute m.daemon.agent.registry m.policy c).run m.view =
      (m.result c, [.execution c.name (m.result c).state]) := by
  obtain ⟨hname, hrefusal⟩ := Nrpe.Command.passes_iff.mp h
  rw [Nrpe.execute, if_neg hname, hrefusal]
  rfl

theorem events_execute (c : Nrpe.Command) :
    ((Nrpe.execute m.daemon.agent.registry m.policy c).run m.view).2 = m.executed c := by
  by_cases h : c.Passes m.policy
  · rw [execute_of_passes m h, executed, if_pos h]
  · rw [executed, if_neg h, Nrpe.execute]
    by_cases hname : c.name = Nrpe.versionCommand
    · rw [if_pos hname]
      rfl
    · rw [if_neg hname]
      cases hrefusal : m.policy.refusal? c.args with
      | some refusal => rfl
      | none => exact absurd (Nrpe.Command.passes_iff.mpr ⟨hname, hrefusal⟩) h

/-! ## Connections -/

section

variable {c : Nrpe.Connection} {command : Nrpe.Command} {error : Nrpe.Error}

theorem exchange_eq (c : Nrpe.Connection) :
    m.daemon.exchange m.now c =
      ((Nrpe.connect m.daemon.agent.registry m.policy c.peer c.stream c.padding).run m.view).deliver
        m.policy.timeout c.delivery := rfl

theorem deliver_arrived (limit : Duration) (e : Nrpe.Exchange) : e.deliver limit .arrived = e := by
  obtain ⟨outcome, reply, events⟩ := e
  cases reply <;> rfl

/-- Without the listener all replies arrive. -/
theorem exchange_own (peer : Net.Address) (stream : Nrpe.Stream) (padding : UInt16) :
    m.daemon.exchange m.now { peer, stream, padding } =
      (Nrpe.connect m.daemon.agent.registry m.policy peer stream padding).run m.view :=
  deliver_arrived _ _

theorem exchange_denied (h : m.policy.allows c.peer = false) :
    m.daemon.exchange m.now c = ⟨.ok (), none, [.connection .denied]⟩ := by
  rw [exchange_eq, Nrpe.connect_denied m.daemon.agent.registry c.padding c.stream h]
  rfl

theorem exchange_refused (h : m.policy.allows c.peer = true)
    (hquery : Nrpe.receiveQuery m.policy.timeout c.stream = .error error) :
    m.daemon.exchange m.now c = ⟨.error error, none, []⟩ := by
  rw [exchange_eq, Nrpe.connect_refused m.daemon.agent.registry c.padding h hquery]
  rfl

theorem connect_run (h : m.policy.allows c.peer = true)
    (hquery : Nrpe.receiveQuery m.policy.timeout c.stream = .ok command) :
    (Nrpe.connect m.daemon.agent.registry m.policy c.peer c.stream c.padding).run m.view =
      .answered c.padding ((Nrpe.execute m.daemon.agent.registry m.policy command).run m.view) := by
  rw [Nrpe.connect_answered m.daemon.agent.registry c.padding h hquery]
  rfl

theorem exchange_arrived (h : m.policy.allows c.peer = true)
    (hquery : Nrpe.receiveQuery m.policy.timeout c.stream = .ok command)
    (hdelivery : c.delivery.error? m.policy.timeout = none) :
    m.daemon.exchange m.now c =
      let result := ((Nrpe.execute m.daemon.agent.registry m.policy command).run m.view).1
      ⟨.ok (), some (.response result.state.code result.text c.padding),
        m.executed command ++ [.connection .answered]⟩ := by
  rw [exchange_eq, connect_run m h hquery, Nrpe.Exchange.deliver, hdelivery, ← events_execute]
  rfl

/-- A command whose reply gets lost has been run and is counted all the same. -/
theorem exchange_lost (h : m.policy.allows c.peer = true)
    (hquery : Nrpe.receiveQuery m.policy.timeout c.stream = .ok command)
    (hdelivery : c.delivery.error? m.policy.timeout = some error) :
    m.daemon.exchange m.now c = ⟨.error error, none, m.executed command⟩ := by
  have hevents : (m.executed command ++ [Event.connection .answered]).filter
      (· ≠ Event.connection .answered) = m.executed command := by
    rw [executed]
    split <;> rfl
  rw [exchange_eq, connect_run m h hquery, Nrpe.Exchange.deliver, hdelivery]
  simp only [Nrpe.Exchange.answered, events_execute, hevents]

end

theorem command?_of_request {r : Nrpe.Request} (hrequest : m.request? = some r)
    (hquery : m.query? = none) :
    m.command? = (r.command? m.policy).filter (·.Passes m.policy) := by
  rw [command?, hrequest, hquery, Option.or_none]
  rfl

theorem execution?_of_command {command : Option Nrpe.Command}
    (h : m.command? = command.filter (·.Passes m.policy)) :
    (m.execution?.map fun (check, state) => Event.execution check state).toList =
      (command.map m.executed).getD [] := by
  rw [execution?, h]
  cases command with
  | none => rfl
  | some c =>
      rw [Option.map_some, Option.getD_some, executed, Option.filter_some]
      by_cases hc : c.Passes m.policy
      · rw [if_pos hc, if_pos (decide_eq_true hc)]
        rfl
      · rw [if_neg hc, if_neg (by simpa using hc)]
        rfl

theorem events_of_connection {c : Nrpe.Connection} (hc : m.connection? = some c)
    (hrequest : m.request? = some (.connect c.peer c.stream c.padding))
    (hquery : m.query? = none)
    (hevents : m.events = if m.isServed then (m.daemon.exchange m.now c).counted
      else (m.daemon.exchange m.now c).events) :
    m.events = (m.execution?.map fun (check, state) => Event.execution check state).toList ++
      m.endings.map .connection := by
  have hcommand := m.execution?_of_command (m.command?_of_request hrequest hquery)
  have hdenied : m.isDenied = !m.policy.allows c.peer := by rw [isDenied, hc]; rfl
  have hexchange : m.exchange? = some (m.daemon.exchange m.now c) := by rw [exchange?, hc]; rfl
  rw [hcommand, hevents, endings, isFailed, isAnswered, hexchange, hdenied, Nrpe.Request.command?]
  -- A peer is denied, or its query is refused, or its reply arrives, or the reply gets lost.
  cases hpeer : m.policy.allows c.peer with
  | false =>
      rw [exchange_denied m hpeer]
      cases m.isServed <;> rfl
  | true =>
      cases hstream : Nrpe.receiveQuery m.policy.timeout c.stream with
      | error error =>
          rw [exchange_refused m hpeer hstream]
          cases m.isServed <;> rfl
      | ok command =>
          cases hdelivery : c.delivery.error? m.policy.timeout with
          | none =>
              rw [exchange_arrived m hpeer hstream hdelivery]
              cases m.isServed <;> rfl
          | some error =>
              rw [exchange_lost m hpeer hstream hdelivery]
              cases m.isServed with
              | false => exact (List.append_nil _).symm
              | true => rfl

/-! ## Requests of the web -/

theorem command?_of_no_request (h : m.request? = none) : m.command? = m.query? := by
  rw [command?, h]
  rfl

theorem events_page {route : Web.Route} {query : List Char}
    (hroute : m.route? = some (route, query)) (hrequest : m.request? = none) :
    ((m.daemon.agent.site.page query route).run m.view).2 =
      (m.execution?.map fun (check, state) => Event.execution check state).toList ++
        (if m.isScrape then [.scrape] else []) := by
  rw [execution?, command?_of_no_request m hrequest, query?, isScrape, hroute]
  cases route with
  | health => rfl
  | metrics => rfl
  | state => rfl
  | inventory => rfl
  | query name =>
      simp only [Web.Site.page, Web.Site.runQuery]
      cases Web.pathText? name <;> rfl

/-- A request that comes to no page counts nothing. -/
theorem events_answer {r : Web.Request} (h : m.step = .own (.browse r)) :
    ((m.daemon.agent.site.answer r).run m.view).2 =
      (m.route?.map fun (route, query) =>
        ((m.daemon.agent.site.page query route).run m.view).2).getD [] := by
  simp only [route?, h, Web.Site.answer]
  cases Web.Route.ofPath? (Web.Uri.read r.target.toList).path with
  | none =>
      rw [Option.map_none, ite_self]
      rfl
  | some route =>
      by_cases hget : r.method = "GET"
      · simp only [if_pos hget, if_pos (Or.inl hget)]
        rfl
      by_cases hhead : r.method = "HEAD"
      · simp only [if_neg hget, if_pos hhead, if_pos (Or.inr hhead)]
        rfl
      · simp only [if_neg hget, if_neg hhead, if_neg (not_or.mpr ⟨hget, hhead⟩)]
        rfl

theorem events_browse {r : Web.Request} (h : m.step = .own (.browse r)) :
    ((m.daemon.agent.site.answer r).run m.view).2 =
      (m.execution?.map fun (check, state) => Event.execution check state).toList ++
        (if m.isScrape then [.scrape] else []) := by
  have hrequest : m.request? = none := by simp only [request?, connection?, h, Option.map_none]
  rw [events_answer m h]
  cases hroute : m.route? with
  | none =>
      rw [execution?, command?_of_no_request m hrequest, query?, isScrape, hroute]
      rfl
  | some place => exact events_page m hroute hrequest

/-- A place that holds no connection counts nothing. -/
theorem events_ended {place : Nat} (h : m.step = .listen (.ended place)) :
    m.events = (m.execution?.map fun (check, state) => Event.execution check state).toList ++
      m.endings.map .connection := by
  have hconnection : m.connection? = m.daemon.listener.connections[place]? := by
    simp only [connection?, h]
  have hrequest : m.request? = m.connection?.map fun c => .connect c.peer c.stream c.padding := by
    simp only [request?, h]
  have hquery : m.query? = none := by simp only [query?, route?, h]
  have hserved : m.isServed = true := by simp only [isServed, h]
  cases hplace : m.daemon.listener.connections[place]? with
  | none =>
      have hexecution : m.execution? = none := by
        rw [execution?, command?, hrequest, hquery, hconnection, hplace]
        rfl
      have hendings : m.endings = [] := by
        rw [endings, isDenied, isAnswered, isFailed, exchange?, hserved, hconnection, hplace]
        rfl
      have hevents : m.events = [] := by simp only [events, h, Nrpe.Listener.step, hplace]
      rw [hevents, hexecution, hendings]
      rfl
  | some c =>
      rw [hplace] at hconnection
      rw [hconnection] at hrequest
      have hevents : m.events = if m.isServed then (m.daemon.exchange m.now c).counted
          else (m.daemon.exchange m.now c).events := by
        simp only [events, h, Nrpe.Listener.step, hplace, hserved, if_true]
      exact m.events_of_connection hconnection hrequest hquery hevents

/-- A step counts what happens at it and nothing else. -/
theorem events_eq :
    m.events = (m.execution?.map fun (check, state) => Event.execution check state).toList ++
      m.endings.map .connection ++ (if m.isScrape then [.scrape] else []) ++
        (m.collectError?.map .collectError).toList := by
  obtain ⟨d, now, step⟩ := m
  cases step with
  | own step =>
      cases step with
      | execute c =>
          let m : Moment := ⟨d, now, .own (.execute c)⟩
          change m.events = _ ++ [] ++ [] ++ []
          rw [List.append_nil, List.append_nil, List.append_nil,
            m.execution?_of_command (m.command?_of_request rfl rfl)]
          exact m.events_execute c
      | connect peer stream padding =>
          let m : Moment := ⟨d, now, .own (.connect peer stream padding)⟩
          have hexchange := congrArg Nrpe.Exchange.events (m.exchange_own peer stream padding)
          have hevents := m.events_of_connection rfl rfl rfl hexchange.symm
          change m.events = _ ++ _ ++ [] ++ []
          rw [List.append_nil, List.append_nil]
          exact hevents
      | browse r =>
          let m : Moment := ⟨d, now, .own (.browse r)⟩
          change m.events = _ ++ [] ++ _ ++ []
          rw [List.append_nil, List.append_nil]
          exact m.events_browse rfl
      | collect time snapshot => rfl
      | sample instant load => rfl
      | register name handler => rfl
      | setPolicy policy => rfl
      | check name args => rfl
      | collectFailed collector => rfl
      | showMetrics => rfl
  | listen event =>
      cases event with
      | taken c => rfl
      | failed fault => rfl
      | told stop => rfl
      | ended place =>
          let m : Moment := ⟨d, now, .listen (.ended place)⟩
          change m.events = _ ++ _ ++ [] ++ []
          rw [List.append_nil, List.append_nil]
          exact m.events_ended rfl

end Moment

end MonitorAgent
