import MonitorAgent.Nrpe.Client
import MonitorAgent.Probe.Standard
import MonitorAgent.Web.Service

/-!
# The agent

The agent keeps what it knows of the host, the history of the load, its checks,
its policy, its gauges and its counters.  It moves on by steps: it collects, it is changed,
or it answers a request.  A request changes nothing but the counters.
-/

namespace MonitorAgent

structure Agent where
  host : Host.State
  history : Host.LoadHistory := {}
  registry : Probe.Registry := Probe.standard
  policy : Nrpe.Policy
  gauges : Telemetry.Gauges := {}
  counters : Telemetry.Counters := {}

namespace Agent

/-- What happens to an agent. -/
inductive Step where
  | collect (now : Int64) (snapshot : Host.Snapshot)
  | sample (instant : Int) (load : Float)
  | register (name : String) (handler : Check.Handler (ReaderM Probe.View))
  | setPolicy (policy : Nrpe.Policy)
  | check (name : String) (args : List String)
  | execute (command : Nrpe.Command)
  | connect (peer : Net.Address) (stream : Nrpe.Stream) (padding : UInt16)
  | browse (request : Web.Request)
  | collectFailed (collector : String)
  | showMetrics

/-- What a step answers. -/
inductive Answer where
  | collected (host : Host.State)
  | sampled (length : Nat)
  | registered (names : List String)
  | policySet (hosts : Nat)
  | checked (result : Except Check.Abort Check.Result)
  | executed (result : Check.Result)
  | connected (exchange : Nrpe.Exchange)
  | page (page : Web.Page)
  | noted
  | metrics (text : String)

def view (a : Agent) (now : Int) : Probe.View :=
  ⟨a.host, a.history, now⟩

def site (a : Agent) : Web.Site (ReaderM Probe.View) :=
  ⟨a.registry, a.host, a.gauges, a.counters⟩

def count (a : Agent) (events : List Telemetry.Event) : Agent :=
  { a with counters := a.counters.recordAll events }

/-- A step at an instant of the clock. -/
def step (a : Agent) (now : Int) : Step → Agent × Answer
  | .collect time snapshot =>
    let host := a.host.collect time snapshot
    ({ a with host, gauges := a.gauges.update host time }, .collected host)
  | .sample instant load =>
    let history := a.history.push instant load
    ({ a with history }, .sampled history.length)
  | .register name handler =>
    let registry := a.registry.register name handler
    ({ a with registry }, .registered registry.names)
  | .setPolicy policy => ({ a with policy }, .policySet policy.allowedHosts.length)
  | .check name args => (a, .checked ((a.registry.run name args).run (a.view now)))
  | .execute command =>
    let (result, events) := (Nrpe.execute a.registry a.policy command).run (a.view now)
    (a.count events, .executed result)
  | .connect peer stream padding =>
    let exchange := (Nrpe.connect a.registry a.policy peer stream padding).run (a.view now)
    (a.count exchange.events, .connected exchange)
  | .browse request =>
    let (page, events) := (a.site.answer request).run (a.view now)
    (a.count events, .page page)
  | .collectFailed collector => (a.count [.collectError collector], .noted)
  | .showMetrics => (a, .metrics (Telemetry.exposition a.gauges a.counters))

end Agent
end MonitorAgent
