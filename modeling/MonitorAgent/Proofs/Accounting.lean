import MonitorAgent.Proofs.Moments
import MonitorAgent.Proofs.Series

/-!
# Accounts of the agent

From counters at nothing, whatever steps are taken in whatever order, each counter is
the number of the moments that it is for, and there is a series just for what did
occur.
-/

namespace MonitorAgent

open Telemetry (Event Ending)

namespace Daemon

theorem moments_append (d : Daemon) (a b : List (Int × Step)) :
    d.moments (a ++ b) = d.moments a ++ (d.run a).moments b := by
  induction a generalizing d with
  | nil => rfl
  | cons entry a ih =>
      obtain ⟨now, step⟩ := entry
      exact congrArg (_ :: ·) (ih (d.step now step))

theorem counters_run (d : Daemon) (steps : List (Int × Step)) :
    (d.run steps).agent.counters =
      d.agent.counters.recordAll ((d.moments steps).flatMap Moment.events) := by
  induction steps generalizing d with
  | nil => rfl
  | cons entry steps ih =>
      obtain ⟨now, step⟩ := entry
      have hstep := Moment.counters_step ⟨d, now, step⟩
      rw [run_cons, ih, moments, List.flatMap_cons, Telemetry.Counters.recordAll_append, ← hstep]

/-- A daemon that has counted nothing yet. -/
def start (a : Agent) : Daemon where
  agent := { a with counters := {} }

theorem accounts_run (a : Agent) (steps : List (Int × Step)) :
    ((start a).run steps).agent.counters.Accounts
      (((start a).moments steps).flatMap Moment.events) := by
  rw [counters_run]
  exact Telemetry.Counters.accounts_nil.recordAll (((start a).moments steps).flatMap Moment.events)

end Daemon

namespace Moment

/-- The connection ends in this way: a reply is sent, the peer is not allowed, or the
listener gets an error. -/
def ends (m : Moment) : Ending → Bool
  | .answered => m.isAnswered
  | .denied => m.isDenied
  | .failed => m.isFailed

theorem count_flatMap {α : Type} [BEq α] {found : Moment → List α} {a : α} {p : Moment → Bool}
    (h : ∀ m, (found m).count a = if p m then 1 else 0) (moments : List Moment) :
    (moments.flatMap found).count a = moments.countP p := by
  induction moments with
  | nil => rfl
  | cons m moments ih =>
      rw [List.flatMap_cons, List.count_append, h, ih, List.countP_cons, Nat.add_comm]

theorem filterMap_toList {α β : Type} (o : Option α) (f : α → Option β) :
    o.toList.filterMap f = (o.bind f).toList := by
  cases o with
  | none => rfl
  | some a => cases h : f a <;> simp [h]

theorem filterMap_events {α : Type} (m : Moment) (family : Event → Option α) :
    m.events.filterMap family =
      (m.execution?.bind fun (check, state) => family (.execution check state)).toList ++
        (m.endings.filterMap fun e => family (.connection e)) ++
        (if m.isScrape then (family .scrape).toList else []) ++
        (m.collectError?.bind fun collector => family (.collectError collector)).toList := by
  have hscrape : (if m.isScrape then [Event.scrape] else []).filterMap family =
      if m.isScrape then (family .scrape).toList else [] := by
    cases m.isScrape with
    | true => exact filterMap_toList (some .scrape) family
    | false => rfl
  rw [events_eq, List.filterMap_append, List.filterMap_append, List.filterMap_append,
    List.filterMap_map, filterMap_toList, filterMap_toList, Option.bind_map, Option.bind_map,
    hscrape]
  rfl

theorem filterMap_execution (m : Moment) :
    m.events.filterMap Event.execution? =
      (m.execution?.map fun (check, state) => [check, state.name]).toList := by
  have hnone : m.endings.filterMap (fun e => Event.execution? (.connection e)) = [] := by
    rw [List.filterMap_eq_nil_iff]
    exact fun _ _ => rfl
  rw [filterMap_events, hnone]
  cases m.execution? <;> cases m.isScrape <;> cases m.collectError? <;> rfl

theorem filterMap_connection (m : Moment) :
    m.events.filterMap Event.connection? = m.endings.map fun e => [e.name] := by
  have hsome : m.endings.filterMap (fun e => Event.connection? (.connection e)) =
      m.endings.map fun e => [e.name] :=
    congrFun (List.filterMap_eq_map (f := fun e : Ending => [e.name])) m.endings
  rw [filterMap_events, hsome]
  cases m.execution? <;> cases m.isScrape <;> cases m.collectError? <;> simp [Event.connection?]

theorem count_endings (m : Moment) (e : Ending) :
    (m.endings.map fun e => [e.name]).count [e.name] = if m.ends e then 1 else 0 := by
  cases hdenied : m.isDenied <;> cases hanswered : m.isAnswered <;>
    cases hfailed : m.isFailed <;> cases e <;>
      simp [endings, ends, hdenied, hanswered, hfailed, Ending.name]

theorem count_execution (m : Moment) (check : String) (state : Check.State) :
    (m.events.filterMap Event.execution?).count [check, state.name] =
      if m.execution? = some (check, state) then 1 else 0 := by
  rw [filterMap_execution]
  cases m.execution? with
  | none => rfl
  | some run =>
      obtain ⟨name, actual⟩ := run
      rw [Option.map_some, Option.toList_some, List.count_singleton]
      simp [Check.State.name_inj]

theorem filterMap_collectError (m : Moment) :
    m.events.filterMap Event.collectError? = (m.collectError?.map fun c => [c]).toList := by
  have hnone : m.endings.filterMap (fun e => Event.collectError? (.connection e)) = [] := by
    rw [List.filterMap_eq_nil_iff]
    exact fun _ _ => rfl
  rw [filterMap_events, hnone]
  cases m.execution? <;> cases m.isScrape <;> cases m.collectError? <;> rfl

theorem count_collectError (m : Moment) (collector : String) :
    (m.events.filterMap Event.collectError?).count [collector] =
      if m.collectError? = some collector then 1 else 0 := by
  rw [filterMap_collectError]
  cases m.collectError? with
  | none => rfl
  | some other =>
      rw [Option.map_some, Option.toList_some, List.count_singleton]
      simp

theorem count_scrape (m : Moment) : m.events.count .scrape = if m.isScrape then 1 else 0 := by
  have hendings : (m.endings.map Event.connection).count .scrape = 0 :=
    List.count_eq_zero_of_not_mem (by simp)
  rw [events_eq, List.count_append, List.count_append, List.count_append, hendings]
  cases m.execution? <;> cases m.isScrape <;> cases m.collectError? <;> rfl

end Moment

/-- One series to each thing that occurs, with the number of the moments that it occurs
at. -/
structure CountedBy {α : Type} (counts : Telemetry.Counts) (labels : α → List String)
    (occurs : α → Moment → Bool) (moments : List Moment) : Prop where
  of_eq : ∀ a, counts.of (labels a) = moments.countP (occurs a)
  mem_iff : ∀ key n, (key, n) ∈ counts ↔
    ∃ a, key = labels a ∧ n = moments.countP (occurs a) ∧ 0 < n
  nodup : (counts.map Prod.fst).Nodup

theorem countedBy {α : Type} {counts : Telemetry.Counts} {labels : α → List String}
    {occurs : α → Moment → Bool} {moments : List Moment} {family : Event → Option (List String)}
    (h : counts.Tallies ((moments.flatMap Moment.events).filterMap family))
    (hlabels : ∀ event key, family event = some key → ∃ a, key = labels a)
    (hcount : ∀ (m : Moment) a,
      (m.events.filterMap family).count (labels a) = if occurs a m then 1 else 0) :
    CountedBy counts labels occurs moments := by
  have hof (a : α) : ((moments.flatMap Moment.events).filterMap family).count (labels a) =
      moments.countP (occurs a) := by
    rw [List.filterMap_flatMap]
    exact Moment.count_flatMap (fun m => hcount m a) moments
  refine ⟨fun a => by rw [h.of_eq, hof], fun key n => ?_, h.nodup⟩
  rw [h.mem_iff]
  constructor
  · rintro ⟨rfl, hpos⟩
    obtain ⟨event, -, hevent⟩ := List.mem_filterMap.mp (List.count_pos_iff.mp hpos)
    obtain ⟨a, rfl⟩ := hlabels event key hevent
    exact ⟨a, rfl, hof a, hpos⟩
  · rintro ⟨a, rfl, rfl, hpos⟩
    exact ⟨(hof a).symm, hpos⟩

/-- The counters of an agent that has come through the moments. -/
structure Ledger (c : Telemetry.Counters) (moments : List Moment) : Prop where
  executions : CountedBy c.executions (fun (check, state) => [check, state.name])
    (fun run m => m.execution? = some run) moments
  connections : CountedBy c.connections (fun ending => [ending.name])
    (fun ending m => m.ends ending) moments
  collectErrors : CountedBy c.collectErrors (fun collector => [collector])
    (fun collector m => m.collectError? = some collector) moments
  scrapes : c.scrapes = moments.countP (·.isScrape)

theorem Daemon.ledger_run (a : Agent) (steps : List (Int × Daemon.Step)) :
    Ledger ((Daemon.start a).run steps).agent.counters ((Daemon.start a).moments steps) := by
  have h := Daemon.accounts_run a steps
  constructor
  · refine countedBy h.executions (fun event key hkey => ?_) fun m (check, state) => ?_
    · cases event with
      | execution check state => exact ⟨(check, state), (Option.some.inj hkey).symm⟩
      | _ => cases hkey
    · simpa using m.count_execution check state
  · refine countedBy h.connections (fun event key hkey => ?_) fun m ending => ?_
    · cases event with
      | connection ending => exact ⟨ending, (Option.some.inj hkey).symm⟩
      | _ => cases hkey
    · rw [m.filterMap_connection]
      exact m.count_endings ending
  · refine countedBy h.collectErrors (fun event key hkey => ?_) fun m collector => ?_
    · cases event with
      | collectError collector => exact ⟨collector, (Option.some.inj hkey).symm⟩
      | _ => cases hkey
    · simpa using m.count_collectError collector
  · rw [h.scrapes]
    exact Moment.count_flatMap (fun m => m.count_scrape) ((Daemon.start a).moments steps)

end MonitorAgent
