import MonitorAgent.Proofs.Accounting
import MonitorAgent.Proofs.ExpositionLines

/-!
# The ledger of a run

Whatever steps a daemon takes, its counters are the ledger of what has happened until
then, and so are the samples that it shows.  A command that gets through to the checks
is told the result that it is counted with, and a connection of the listener is
counted once when it ends.
-/

namespace MonitorAgent

open Telemetry (Ending)

/-! ## Samples -/

namespace Telemetry

/-- The sample of a count under the names of its labels. -/
def Counts.sample (names : List String) (entry : List String × Nat) : Sample :=
  ⟨names.zip entry.1, Float.ofNat entry.2⟩

variable (g : Gauges) (c : Counters)

theorem samples_executions :
    samples "snclient_check_executions_total" g c =
      c.executions.map (Counts.sample ["check", "state"]) := by
  simp [samples, families, counted, single, keyed, Counts.sample]

theorem samples_connections :
    samples "snclient_nrpe_requests_total" g c =
      c.connections.map (Counts.sample ["result"]) := by
  simp [samples, families, counted, single, keyed, Counts.sample]

theorem samples_scrapes :
    samples "snclient_scrape_count_total" g c = [⟨[], Float.ofNat c.scrapes⟩] := by
  simp [samples, families, counted, single, keyed]

end Telemetry

open Telemetry (Exposes Sample exposition exposition_exposes samples)

theorem CountedBy.mem_samples {α : Type} {counts : Telemetry.Counts} {labels : α → List String}
    {occurs : α → Moment → Bool} {moments : List Moment}
    (h : CountedBy counts labels occurs moments) {names : List String} {s : Sample} :
    s ∈ counts.map (Telemetry.Counts.sample names) ↔
      ∃ a, 0 < moments.countP (occurs a) ∧
        s = ⟨names.zip (labels a), Float.ofNat (moments.countP (occurs a))⟩ := by
  rw [List.mem_map]
  constructor
  · rintro ⟨⟨key, n⟩, hentry, rfl⟩
    obtain ⟨a, rfl, rfl, hpos⟩ := (h.mem_iff key n).mp hentry
    exact ⟨a, hpos, rfl⟩
  · rintro ⟨a, hpos, rfl⟩
    exact ⟨(labels a, _), (h.mem_iff _ _).mpr ⟨a, rfl, rfl, hpos⟩, rfl⟩

/-- What an agent shows that has come through the moments: a sample to each combination
of labels that has occurred, and none to any other. -/
structure Shown (g : Telemetry.Gauges) (c : Telemetry.Counters) (moments : List Moment) :
    Prop where
  executions : ∀ s, s ∈ samples "snclient_check_executions_total" g c ↔
    ∃ check state, 0 < moments.countP (·.execution? = some (check, state)) ∧
      s = ⟨[("check", check), ("state", state.name)],
        Float.ofNat (moments.countP (·.execution? = some (check, state)))⟩
  connections : ∀ s, s ∈ samples "snclient_nrpe_requests_total" g c ↔
    ∃ ending : Ending, 0 < moments.countP (·.ends ending) ∧
      s = ⟨[("result", ending.name)], Float.ofNat (moments.countP (·.ends ending))⟩
  scrapes : samples "snclient_scrape_count_total" g c =
    [⟨[], Float.ofNat (moments.countP (·.isScrape))⟩]

theorem Ledger.shown {c : Telemetry.Counters} {moments : List Moment} (h : Ledger c moments)
    (g : Telemetry.Gauges) : Shown g c moments := by
  constructor
  · intro s
    rw [Telemetry.samples_executions, h.executions.mem_samples, Prod.exists]
    rfl
  · intro s
    rw [Telemetry.samples_connections, h.connections.mem_samples]
    rfl
  · rw [Telemetry.samples_scrapes, h.scrapes]

namespace Moment

/-! ## Answers -/

/-- What a step answers.  A connection of the listener is answered when it ends. -/
def answer (m : Moment) : Agent.Answer :=
  match m.step with
  | .own step => (m.daemon.agent.step m.now step).2
  | .listen _ => (m.exchange?.map .connected).getD .noted

/-- An answer tells the result of the command with the name, if its reply does not get
lost and not only the head of the page is asked for. -/
inductive Tells (name : String) (r : Check.Result) : Agent.Answer → Prop where
  | executed : Tells name r (.executed r)
  | replied (padding : UInt16) (events : List Telemetry.Event) :
    Tells name r (.connected ⟨.ok (), some (.response r.state.code r.text padding), events⟩)
  | lost (error : Nrpe.Error) (events : List Telemetry.Event) :
    Tells name r (.connected ⟨.error error, none, events⟩)
  | page : Tells name r (.page (.json (Web.resultJson name r)))
  | head : Tells name r (.page { Web.Page.json (Web.resultJson name r) with body := "" })

theorem exchange_tells (m : Moment) {c : Nrpe.Connection} {command : Nrpe.Command}
    (hcommand : (Nrpe.Request.connect c.peer c.stream c.padding).command? m.policy = some command)
    (hpasses : command.Passes m.policy) :
    Tells command.name (m.result command) (.connected (m.daemon.exchange m.now c)) := by
  obtain ⟨hpeer, hquery⟩ := Nrpe.Request.command?_connect m.policy hcommand
  cases hdelivery : c.delivery.error? m.policy.timeout with
  | none =>
      rw [m.exchange_arrived hpeer hquery hdelivery, m.execute_of_passes hpasses]
      exact .replied c.padding _
  | some error =>
      rw [m.exchange_lost hpeer hquery hdelivery]
      exact .lost error _

theorem exists_browse_of_query? {m : Moment} {c : Nrpe.Command} (h : m.query? = some c) :
    ∃ r, m.step = .own (.browse r) := by
  obtain ⟨d, now, step⟩ := m
  match step, h with
  | .own (.browse r), _ => exact ⟨r, rfl⟩

theorem runQuery_run (m : Moment) {name text : List Char} (query : List Char)
    (h : Web.pathText? name = some text) :
    let c : Nrpe.Command := ⟨String.ofList text, (Web.queryPairs query).map Web.argumentOf⟩
    (m.daemon.agent.site.runQuery name query).run m.view =
      (.json (Web.resultJson c.name (m.result c)), [.execution c.name (m.result c).state]) := by
  rw [Web.Site.runQuery, h]
  rfl

theorem page_tells (m : Moment) {c : Nrpe.Command} {r : Web.Request}
    (h : m.step = .own (.browse r)) (hquery : m.query? = some c) :
    Tells c.name (m.result c) (.page ((m.daemon.agent.site.answer r).run m.view).1) := by
  have hreads : r.method = "GET" ∨ r.method = "HEAD" := by
    by_contra hnot
    simp only [query?, route?, h, if_neg hnot] at hquery
    cases hquery
  simp only [query?, route?, h, if_pos hreads] at hquery
  rw [Web.Site.answer]
  generalize Web.Uri.read r.target.toList = uri at hquery ⊢
  cases hroute : Web.Route.ofPath? uri.path with
  | none =>
      rw [hroute] at hquery
      cases hquery
  | some route =>
      rw [hroute] at hquery
      cases route with
      | query name =>
          obtain ⟨text, htext, rfl⟩ := Option.map_eq_some_iff.mp hquery
          have hrun := m.runQuery_run uri.query htext
          rcases hreads with hget | hhead
          · simp only [if_pos hget, Web.Site.page, hrun]
            exact .page
          · have hget : r.method ≠ "GET" := hhead ▸ by decide
            simp only [if_neg hget, if_pos hhead, Web.Site.page, ReaderT.run_bind, hrun]
            exact .head
      | _ => cases hquery

theorem command?_cases {m : Moment} {c : Nrpe.Command} (h : m.command? = some c) :
    (∃ r, m.request? = some r ∧ r.command? m.policy = some c ∧ c.Passes m.policy) ∨
      m.query? = some c := by
  rcases Option.or_eq_some_iff.mp h with hrequest | ⟨-, hquery⟩
  · obtain ⟨hbind, hpasses⟩ := Option.filter_eq_some_iff.mp hrequest
    obtain ⟨r, hr, hcommand⟩ := Option.bind_eq_some_iff.mp hbind
    exact .inl ⟨r, hr, hcommand, of_decide_eq_true hpasses⟩
  · exact .inr hquery

/-- A check that is broken off is told as one of unknown state. -/
theorem result_of_aborted (m : Moment) {c : Nrpe.Command} {cause : Check.Abort}
    (h : (m.daemon.agent.registry.run c.name c.args).run m.view = .error cause) :
    m.result c = m.daemon.agent.registry.abortedResult c.name cause := by
  rw [result, Check.Registry.runGuarded, ReaderT.run_bind, h]
  rfl

theorem answer_tells (m : Moment) {c : Nrpe.Command} (h : m.command? = some c) :
    Tells c.name (m.result c) m.answer := by
  rcases command?_cases h with ⟨r, hrequest, hcommand, hpasses⟩ | hquery
  · obtain ⟨d, now, step⟩ := m
    match step with
    | .own (.execute command) =>
        obtain rfl := Option.some.inj hrequest
        obtain rfl := Option.some.inj hcommand
        let m : Moment := ⟨d, now, .own (.execute command)⟩
        have hanswer : m.answer =
            .executed ((Nrpe.execute d.agent.registry m.policy command).run m.view).1 := rfl
        rw [hanswer, m.execute_of_passes hpasses]
        exact .executed
    | .own (.connect peer stream padding) =>
        obtain rfl := Option.some.inj hrequest
        let m : Moment := ⟨d, now, .own (.connect peer stream padding)⟩
        have hanswer : m.answer = .connected (d.exchange now { peer, stream, padding }) :=
          congrArg _ (m.exchange_own peer stream padding).symm
        rw [hanswer]
        exact m.exchange_tells (c := { peer, stream, padding }) hcommand hpasses
    | .listen (.ended place) =>
        obtain ⟨connection, hconnection, rfl⟩ := Option.map_eq_some_iff.mp hrequest
        let m : Moment := ⟨d, now, .listen (.ended place)⟩
        have hanswer : m.answer = .connected (d.exchange now connection) := by
          rw [answer, exchange?, hconnection]
          rfl
        rw [hanswer]
        exact m.exchange_tells hcommand hpasses
  · obtain ⟨r, hstep⟩ := exists_browse_of_query? hquery
    have hanswer : m.answer = .page ((m.daemon.agent.site.answer r).run m.view).1 := by
      rw [answer, hstep]
      rfl
    rw [hanswer]
    exact m.page_tells hstep hquery

/-- The page of the metrics shows the counters that the request for it has changed. -/
theorem answer_scrape {m : Moment} {r : Web.Request} (h : m.step = .own (.browse r))
    (hget : r.method = "GET") (hscrape : m.isScrape = true) :
    m.answer = .page ⟨200, some "text/plain; version=0.0.4",
      Telemetry.exposition m.daemon.agent.gauges (m.daemon.step m.now m.step).agent.counters⟩ := by
  have hroute : Web.Route.ofPath? (Web.Uri.read r.target.toList).path = some .metrics := by
    simp only [isScrape, route?, h, if_pos (Or.inl hget)] at hscrape
    cases hpath : Web.Route.ofPath? (Web.Uri.read r.target.toList).path with
    | none =>
        rw [hpath] at hscrape
        cases hscrape
    | some route =>
        rw [hpath] at hscrape
        exact congrArg some (of_decide_eq_true hscrape)
  have hpage : (m.daemon.agent.site.answer r).run m.view =
      (⟨200, some "text/plain; version=0.0.4", m.daemon.agent.site.exposition⟩, [.scrape]) := by
    simp only [Web.Site.answer, hroute, if_pos hget]
    rfl
  have hevents : m.events = [.scrape] := by simp only [events, h, hpage]
  have hanswer : m.answer = .page ((m.daemon.agent.site.answer r).run m.view).1 := by
    rw [answer, h]
    rfl
  rw [hanswer, hpage, counters_step, hevents]
  rfl

/-! ## Ends of connections -/

/-- A connection of the listener ends in one way, and fails just with an error. -/
theorem exists_ends_iff {m : Moment} {c : Nrpe.Connection} (hc : m.connection? = some c)
    (hserved : m.isServed = true) :
    ∃ ending, (∀ other, m.ends other = decide (other = ending)) ∧
      (ending = .failed ↔ ∃ error, (m.daemon.exchange m.now c).outcome = .error error) := by
  have hdenied : m.isDenied = !m.policy.allows c.peer := by rw [isDenied, hc]; rfl
  have hanswered : m.isAnswered = (m.daemon.exchange m.now c).reply.isSome := by
    rw [isAnswered, exchange?, hc]
    rfl
  have hfailed : m.isFailed = !(m.daemon.exchange m.now c).outcome.isOk := by
    rw [isFailed, exchange?, hc, hserved]
    rfl
  cases hpeer : m.policy.allows c.peer with
  | false =>
      rw [hpeer] at hdenied
      rw [m.exchange_denied hpeer] at hanswered hfailed ⊢
      refine ⟨.denied, fun other => ?_, by simp⟩
      cases other <;> assumption
  | true =>
      rw [hpeer] at hdenied
      cases hquery : Nrpe.receiveQuery m.policy.timeout c.stream with
      | error error =>
          rw [m.exchange_refused hpeer hquery] at hanswered hfailed ⊢
          refine ⟨.failed, fun other => ?_, by simp⟩
          cases other <;> assumption
      | ok command =>
          cases hdelivery : c.delivery.error? m.policy.timeout with
          | none =>
              rw [m.exchange_arrived hpeer hquery hdelivery] at hanswered hfailed ⊢
              refine ⟨.answered, fun other => ?_, by simp⟩
              cases other <;> assumption
          | some error =>
              rw [m.exchange_lost hpeer hquery hdelivery] at hanswered hfailed ⊢
              refine ⟨.failed, fun other => ?_, by simp⟩
              cases other <;> assumption

end Moment

/-- A connection that ends adds one to one of the three counts of connections. -/
theorem Ledger.connection_ended {d : Daemon} {now : Int} {place : Nat} {c : Nrpe.Connection}
    {before after : Telemetry.Counters} {moments : List Moment} (h : Ledger before moments)
    (hafter : Ledger after (moments ++ [⟨d, now, .listen (.ended place)⟩]))
    (hc : d.listener.connections[place]? = some c) :
    ∃ ending : Ending,
      (∀ other : Ending, after.connections.of [other.name] =
        before.connections.of [other.name] + if other = ending then 1 else 0) ∧
      (ending = .failed ↔ ∃ error, (d.exchange now c).outcome = .error error) := by
  obtain ⟨ending, hends, hfailed⟩ :=
    Moment.exists_ends_iff (m := ⟨d, now, .listen (.ended place)⟩) hc rfl
  refine ⟨ending, fun other => ?_, hfailed⟩
  rw [hafter.connections.of_eq, h.connections.of_eq, List.countP_append, List.countP_singleton,
    hends]
  simp

namespace Daemon

/-- Whatever steps have been taken from counters at nothing, the counters and what is shown of them
are the numbers of what has happened, in the lines of the text as well.  The next step tells the
result that it counts, be it that of a check that is broken off, and a scrape shows the counts that
include it.  A check that is run directly counts nothing, and a connection of the listener counts
for one ending. -/
theorem run_ledger (a : Agent) (steps : List (Int × Step)) :
    let d := (start a).run steps
    let moments := (start a).moments steps
    Ledger d.agent.counters moments ∧
    (∀ g, Shown g d.agent.counters moments ∧
      Exposes (exposition g d.agent.counters) (samples · g d.agent.counters)) ∧
    (∀ now step c, (⟨d, now, step⟩ : Moment).command? = some c →
      let m : Moment := ⟨d, now, step⟩
      Moment.Tells c.name (m.result c) m.answer ∧
      ∀ cause, (d.agent.registry.run c.name c.args).run (d.agent.view now) = .error cause →
        (m.result c).state = .unknown) ∧
    (∀ now, (d.agent.step now .showMetrics).2 =
      .metrics (exposition d.agent.gauges d.agent.counters)) ∧
    (∀ now r, let m : Moment := ⟨d, now, .own (.browse r)⟩
      let counters := (d.step now m.step).agent.counters
      r.method = "GET" → m.isScrape = true →
      m.answer = .page ⟨200, some "text/plain; version=0.0.4", exposition d.agent.gauges counters⟩ ∧
      Shown d.agent.gauges counters (moments ++ [m]) ∧
      Exposes (exposition d.agent.gauges counters) (samples · d.agent.gauges counters)) ∧
    (∀ now name args, d.step now (.own (.check name args)) = d) ∧
    ∀ now place c, d.listener.connections[place]? = some c →
      ∃ ending : Ending,
        (∀ other : Ending,
          (d.step now (.listen (.ended place))).agent.counters.connections.of [other.name] =
            d.agent.counters.connections.of [other.name] + if other = ending then 1 else 0) ∧
        (ending = .failed ↔ ∃ error, (d.exchange now c).outcome = .error error) := by
  intro d moments
  have hledger : Ledger d.agent.counters moments := ledger_run a steps
  have hnext (now : Int) (step : Step) :
      Ledger (d.step now step).agent.counters (moments ++ [⟨d, now, step⟩]) := by
    have hafter := ledger_run a (steps ++ [(now, step)])
    rwa [run_append, moments_append] at hafter
  refine ⟨hledger, fun g => ⟨hledger.shown g, exposition_exposes g _⟩, ?_, fun now => rfl, ?_,
    fun now name args => rfl, ?_⟩
  · intro now step c hc m
    refine ⟨m.answer_tells hc, fun cause hcause => ?_⟩
    rw [m.result_of_aborted hcause]
    rfl
  · intro now r m counters hget hscrape
    exact ⟨Moment.answer_scrape rfl hget hscrape, (hnext now m.step).shown _,
      exposition_exposes _ counters⟩
  · intro now place c hc
    exact hledger.connection_ended (hnext now (.listen (.ended place))) hc

/-- A check that is asked for in two ways, a scrape, and a peer that sends nothing. -/
theorem run_ledger_silent_peer :
    let a : Agent := { host := .new 0, policy := ⟨[], true, false, .ofSeconds 30⟩ }
    let steps : List (Int × Step) :=
      [(0, .own (.execute ⟨"check_dummy", ["1"]⟩)), (1, .own (.browse ⟨"GET", "/metrics"⟩)),
       (2, .own (.check "check_dummy" ["1"])), (3, .own (.browse ⟨"GET", "/query/check_dummy?1"⟩)),
       (4, .listen (.taken ⟨.v4 #v[127, 0, 0, 1], ⟨[], .closed⟩, .arrived, 0⟩))]
    let d := (start a).run steps
    d.agent.counters.executions.of ["check_dummy", "WARNING"] = 2 ∧
    d.agent.counters.scrapes = 1 ∧
    (d.step 5 (.listen (.ended 0))).agent.counters.connections.of ["error"] =
      d.agent.counters.connections.of ["error"] + 1 := by
  intro a steps d
  obtain ⟨hledger, -, -, -, -, -, hended⟩ := run_ledger a steps
  have hplace : d.listener.connections[0]? =
      some ⟨.v4 #v[127, 0, 0, 1], ⟨[], .closed⟩, .arrived, 0⟩ := rfl
  obtain ⟨ending, hcounts, hfailed⟩ := hended 5 0 _ hplace
  have hfails : ending = .failed := hfailed.mpr ⟨.shortRead, rfl⟩
  refine ⟨?_, ?_, ?_⟩
  · refine (hledger.executions.of_eq ("check_dummy", .warning)).trans ?_
    decide +kernel
  · rw [hledger.scrapes]
    decide +kernel
  · have hone := hcounts .failed
    rw [hfails, if_pos rfl] at hone
    exact hone

end Daemon

end MonitorAgent
