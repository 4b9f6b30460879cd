import MonitorAgent.Proofs.Families
import MonitorAgent.Session

/-!
# Isolation of requests

Two agents that differ in what they have counted stay such when the same steps are
taken, and a request makes no other difference to an agent.  So requests can be left
out of a session: what is answered to all others stays the same, but for the counts
in the text of the metrics.
-/

namespace MonitorAgent

namespace Telemetry

/-- Two texts of the metrics that show the same gauges, and differ in samples of counters only. -/
def SameGauges (v w : String) : Prop :=
  ∃ g c d, v = exposition g c ∧ w = exposition g d ∧
    List.Forall₂ (Family.DifferIn .counter) (families g c) (families g d)

theorem sameGauges_exposition (g : Gauges) (c d : Counters) :
    SameGauges (exposition g c) (exposition g d) :=
  ⟨g, c, d, rfl, rfl, families_differIn_counter g c d⟩

end Telemetry

open Telemetry (SameGauges sameGauges_exposition)

/-! ## Pages -/

namespace Web

def Request.asksMetrics (r : Request) : Bool :=
  r.method = "GET" ∧ Route.ofPath? (Uri.read r.target.toList).path = some .metrics

section

variable {m : Type → Type} [Monad m] (site : Site m) {r : Request}

theorem Site.page_of_ne_metrics (counters : Telemetry.Counters) (query : List Char) {route : Route}
    (h : route ≠ .metrics) : { site with counters }.page query route = site.page query route := by
  cases route with
  | metrics => exact absurd rfl h
  | _ => rfl

theorem Site.answer_of_not_asksMetrics [LawfulMonad m] (counters : Telemetry.Counters)
    (h : r.asksMetrics = false) : { site with counters }.answer r = site.answer r := by
  rw [Request.asksMetrics, decide_eq_false_iff_not, not_and] at h
  rw [Site.answer, Site.answer]
  cases hroute : Route.ofPath? (Uri.read r.target.toList).path with
  | none => rfl
  | some route =>
      by_cases hmetrics : route = .metrics
      · subst hmetrics
        have hget : r.method ≠ "GET" := fun hget => h hget hroute
        simp only [if_neg hget, Site.page, pure_bind]
      · simp only [site.page_of_ne_metrics counters _ hmetrics]

theorem Site.answer_of_asksMetrics (h : r.asksMetrics = true) :
    site.answer r =
      pure (⟨200, some "text/plain; version=0.0.4", site.exposition⟩, [.scrape]) := by
  obtain ⟨hget, hroute⟩ := of_decide_eq_true h
  simp only [Site.answer, hroute, if_pos hget, Site.page]

end

end Web

namespace Agent

/-! ## Agents that differ in their counters -/

/-- Nothing but the counters of the second agent is different. -/
def SameButCounts (a b : Agent) : Prop :=
  ∃ counters, b = { a with counters }

/-- The answers of two agents to a step: they are the same, if these do not show the metrics. -/
structure Alike (step : Step) (x y : Answer) : Prop where
  same : step ≠ .showMetrics → (∀ r, step = .browse r → r.asksMetrics = false) → x = y
  metrics : step = .showMetrics → ∃ v w, SameGauges v w ∧ x = .metrics v ∧ y = .metrics w
  page : ∀ r, step = .browse r → r.asksMetrics = true → ∃ v w, SameGauges v w ∧
    x = .page ⟨200, some "text/plain; version=0.0.4", v⟩ ∧
    y = .page ⟨200, some "text/plain; version=0.0.4", w⟩

theorem alike_of_eq {step : Step} {x y : Answer} (hmetrics : step ≠ .showMetrics)
    (hpage : ∀ r, step = .browse r → r.asksMetrics = false) (h : x = y) : Alike step x y := by
  refine ⟨fun _ _ => h, fun heq => absurd heq hmetrics, fun r heq hr => ?_⟩
  rw [hpage r heq] at hr
  cases hr

variable {a b : Agent}

theorem sameButCounts_count (a : Agent) (events : List Telemetry.Event) :
    a.SameButCounts (a.count events) :=
  ⟨_, rfl⟩

theorem SameButCounts.of_count {events : List Telemetry.Event} (h : a.SameButCounts b) :
    (a.count events).SameButCounts b := by
  obtain ⟨counters, rfl⟩ := h
  exact ⟨counters, rfl⟩

theorem sameButCounts_of_isRequest (a : Agent) (now : Int) {step : Step}
    (h : step.isRequest = true) : a.SameButCounts (a.step now step).1 := by
  obtain ⟨events, hevents⟩ := exists_count_of_isRequest a now h
  rw [hevents]
  exact sameButCounts_count a events

theorem browse_alike (h : a.SameButCounts b) (now : Int) (r : Web.Request) :
    (a.step now (.browse r)).1.SameButCounts (b.step now (.browse r)).1 ∧
    Alike (.browse r) (a.step now (.browse r)).2 (b.step now (.browse r)).2 := by
  obtain ⟨counters, rfl⟩ := h
  rw [step_browse, step_browse]
  refine ⟨⟨_, rfl⟩, ?_⟩
  have hsite : { a with counters }.site = { a.site with counters } := rfl
  have hview : { a with counters }.view now = a.view now := rfl
  cases hr : r.asksMetrics with
  | false =>
      refine alike_of_eq nofun (fun r' heq => ?_) ?_
      · cases heq
        exact hr
      · rw [hsite, hview, a.site.answer_of_not_asksMetrics counters hr]
  | true =>
      refine ⟨fun _ hpage => ?_, nofun, fun _ _ _ => ?_⟩
      · rw [hpage r rfl] at hr
        cases hr
      · rw [hsite, Web.Site.answer_of_asksMetrics _ hr, Web.Site.answer_of_asksMetrics _ hr]
        exact ⟨_, _, sameGauges_exposition a.gauges _ _, rfl, rfl⟩

theorem step_alike (h : a.SameButCounts b) (now : Int) (step : Step) :
    (a.step now step).1.SameButCounts (b.step now step).1 ∧
    Alike step (a.step now step).2 (b.step now step).2 := by
  cases step with
  | browse r => exact browse_alike h now r
  | showMetrics =>
      obtain ⟨counters, rfl⟩ := h
      refine ⟨⟨counters, rfl⟩, fun hne => absurd rfl hne, fun _ => ?_, nofun⟩
      exact ⟨_, _, sameGauges_exposition a.gauges a.counters counters, rfl, rfl⟩
  | _ =>
      obtain ⟨counters, rfl⟩ := h
      exact ⟨⟨_, rfl⟩, alike_of_eq nofun nofun rfl⟩

/-! ## Sessions with requests left out -/

/-- What stands at the places that are not left out. -/
def remaining {α : Type} (leftOut : Nat → Bool) : List α → List α
  | [] => []
  | x :: xs =>
    let more := remaining (fun place => leftOut (place + 1)) xs
    if leftOut 0 then more else x :: more

def LeavesOutRequests (leftOut : Nat → Bool) (steps : List (Int × Step)) : Prop :=
  ∀ place entry, steps[place]? = some entry → leftOut place = true → entry.2.isRequest = true

theorem run_alike (h : a.SameButCounts b) {leftOut : Nat → Bool} {steps : List (Int × Step)}
    (hsteps : LeavesOutRequests leftOut steps) :
    (a.run steps).SameButCounts (b.run (remaining leftOut steps)) ∧
    List.Forall₂ (fun (entry, x) y => Alike entry.2 x y)
      (remaining leftOut (steps.zip (a.answers steps))) (b.answers (remaining leftOut steps)) := by
  -- A request that is left out moves the first agent on alone, which then has counted more.
  induction steps generalizing a b leftOut with
  | nil => exact ⟨h, .nil⟩
  | cons entry steps ih =>
      obtain ⟨now, step⟩ := entry
      have hlater : LeavesOutRequests (fun place => leftOut (place + 1)) steps :=
        fun place entry hentry => hsteps (place + 1) entry hentry
      rw [answers_cons, List.zip_cons_cons, remaining, remaining, run_cons]
      cases hfirst : leftOut 0 with
      | true =>
          obtain ⟨events, hevents⟩ :=
            exists_count_of_isRequest a now (hsteps 0 (now, step) rfl hfirst)
          rw [hevents]
          exact ih h.of_count hlater
      | false =>
          obtain ⟨hsame, halike⟩ := step_alike h now step
          obtain ⟨hrun, hanswers⟩ := ih hsame hlater
          exact ⟨hrun, .cons halike hanswers⟩

/-- Whatever requests are left out of a session, the other steps are answered as before, but for
the samples of counters where the metrics are shown, and the agent comes out the same but for its
counters.  That is what every request leaves of an agent, and every event of the listener. -/
theorem answers_remaining (a : Agent) (steps : List (Int × Step)) (leftOut : Nat → Bool)
    (h : LeavesOutRequests leftOut steps) :
    List.Forall₂ (fun (entry, x) y => Alike entry.2 x y)
      (remaining leftOut (steps.zip (a.answers steps))) (a.answers (remaining leftOut steps)) ∧
    (a.run steps).SameButCounts (a.run (remaining leftOut steps)) ∧
    (∀ (b : Agent) now step, step.isRequest = true → b.SameButCounts (b.step now step).1) ∧
    ∀ (d : Daemon) now event, d.agent.SameButCounts (d.step now (.listen event)).agent := by
  obtain ⟨hrun, hanswers⟩ := run_alike ⟨a.counters, rfl⟩ h
  refine ⟨hanswers, hrun, fun b now step => sameButCounts_of_isRequest b now, fun d now event => ?_⟩
  obtain ⟨events, hevents⟩ := d.exists_count_listen now event
  rw [hevents]
  exact sameButCounts_count d.agent events

/-- A command, a page and a peer that may not ask are left out; a check and the metrics remain. -/
theorem answers_remaining_metrics :
    let a : Agent := { host := .new 0, policy := ⟨[.v4 #v[10, 0, 0, 1]], true, false, .ofSeconds 30⟩ }
    let check : Int × Step := (2, .check "check_dummy" ["1"])
    let steps : List (Int × Step) :=
      [(0, .execute ⟨"check_dummy", ["2"]⟩), (1, .browse ⟨"GET", "/metrics"⟩), check,
       (3, .connect (.v4 #v[127, 0, 0, 1]) ⟨[], .silent⟩ 0), (4, .showMetrics)]
    ∃ v w, SameGauges v w ∧
      (a.answers steps)[2]? = (a.answers [check, (4, .showMetrics)])[0]? ∧
      (a.answers steps)[4]? = some (.metrics v) ∧
      (a.answers [check, (4, .showMetrics)])[1]? = some (.metrics w) := by
  intro a check steps
  have hrequests : LeavesOutRequests (fun place => place ∈ [0, 1, 3]) steps := by
    intro place entry hentry hplace
    rcases (by simpa using hplace : place = 0 ∨ place = 1 ∨ place = 3) with rfl | rfl | rfl <;>
      cases hentry <;> rfl
  obtain ⟨hanswers, -, -⟩ := answers_remaining a steps _ hrequests
  have hpairs : List.Forall₂ (fun (entry, x) y => Alike entry.2 x y)
    [(check, _), ((4, .showMetrics), _)] [_, _] := hanswers
  obtain ⟨hcheck, hshown, -⟩ := by simpa only [List.forall₂_cons] using hpairs
  obtain ⟨v, w, hsame, hv, hw⟩ := hshown.metrics rfl
  exact ⟨v, w, hsame, congrArg some (hcheck.same nofun nofun), congrArg some hv, congrArg some hw⟩

end Agent

end MonitorAgent
