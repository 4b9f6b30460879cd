import MonitorAgent.Main
import MonitorAgent.Proofs.Moments
import MonitorAgent.Session

/-!
# One result, three front ends

A command is run by a request of the web, by a query of another agent and on the
command line.  The first shows the parts of its result one by one, the other two put
them into one text and a number; they tell the same of every result, be it that of a
check that fails, is missing or is broken off.
-/

namespace MonitorAgent

/-! ## Texts of results -/

namespace Check

theorem Metric.text_ne_empty (m : Metric) : m.text ≠ "" := by
  intro h
  have hfront : _ ++ ";" = "" := (String.append_eq_empty_iff.mp h).1
  exact absurd (String.append_eq_empty_iff.mp hfront).2 (by decide)

theorem Result.performance_eq_empty_iff (r : Result) : r.performance = "" ↔ r.metrics = [] := by
  rw [Result.performance]
  cases r.metrics with
  | nil => exact ⟨fun _ => rfl, fun _ => rfl⟩
  | cons m metrics =>
      rw [List.map_cons, String.join_cons, String.append_eq_empty_iff]
      exact ⟨fun h => absurd h.1 m.text_ne_empty, nofun⟩

theorem Result.text_eq (r : Result) :
    r.text = if r.performance = "" then r.output else r.output ++ "|" ++ r.performance := by
  rw [Result.text]
  simp only [r.performance_eq_empty_iff, List.isEmpty_iff]

end Check

/-! ## Commands -/

namespace Nrpe

/-- The result of a command is that of its check, or that of one that is broken off. -/
def Command.Yields (registry : Probe.Registry) (view : Probe.View) (c : Command)
    (r : Check.Result) : Prop :=
  match (registry.run c.name c.args).run view with
  | .ok result => r = result
  | .error cause =>
    r = { state := .unknown
          output := "UNKNOWN - check " ++ c.name ++ " aborted: " ++ registry.tells cause }

theorem Command.yields_iff {registry : Probe.Registry} {view : Probe.View} {c : Command}
    {r : Check.Result} :
    c.Yields registry view r ↔ r = (registry.runGuarded c.name c.args).run view := by
  have haborted (cause : Check.Abort) : registry.abortedResult c.name cause =
      { state := .unknown
        output := "UNKNOWN - check " ++ c.name ++ " aborted: " ++ registry.tells cause } := by
    simp only [Check.Registry.abortedResult, Check.Result.unknown, ← String.append_assoc]
    rfl
  rw [Command.Yields, Check.Registry.runGuarded, ReaderT.run_bind]
  cases (registry.run c.name c.args).run view with
  | ok result => exact Iff.rfl
  | error cause => exact Iff.of_eq (congrArg (r = ·) (haborted cause).symm)

/-- A response with the status and the text, which ends before its first zero and is cut to what
has room in front of the last byte of the region. -/
structure Packet.Answers (p : Packet) (status : UInt16) (text : String) : Prop where
  verified : p.verify .response = .ok ()
  status_eq : p.status = status
  payload_eq : p.payload = ((Text.Utf8.encode text.toList).take 1023).takeWhile (· != 0)

theorem Packet.answers_response (status : UInt16) (text : String) (padding : UInt16) :
    (Packet.response status text padding).Answers status text where
  verified := verify_build _ _ _ _
  status_eq := status_build _ _ _ _
  payload_eq := payload_build _ _ _ _

end Nrpe

/-! ## Pages -/

namespace Web

/-- A request that asks for a check, with what is to be passed to it. -/
structure Request.Asks (q : Request) (command : String) (pairs : List (String × String)) :
    Prop where
  reads : q.method = "GET" ∨ q.method = "HEAD"
  route : ∃ name, Route.ofPath? (Uri.read q.target.toList).path = some (.query name) ∧
    pathText? name = some command.toList
  query : queryPairs (Uri.read q.target.toList).query = pairs

theorem Site.answer_of_asks (site : Site (ReaderM Probe.View)) (view : Probe.View) {q : Request}
    {command : String} {pairs : List (String × String)} (h : q.Asks command pairs) :
    let r := (site.registry.runGuarded command (pairs.map argumentOf)).run view
    ((site.answer q).run view).1 =
      ⟨200, some "application/json",
        if q.method = "GET" then (resultJson command r).render else ""⟩ := by
  intro r
  obtain ⟨name, hroute, htext⟩ := h.route
  have hrun : (site.runQuery name (Uri.read q.target.toList).query).run view =
      (.json (resultJson command r), [.execution command r.state]) := by
    rw [Site.runQuery, htext, h.query]
    simp only [String.ofList_toList]
    rfl
  rw [Site.answer]
  simp only [hroute, Site.page]
  by_cases hget : q.method = "GET"
  · rw [if_pos hget, if_pos hget, hrun]
    rfl
  -- The check is run all the same, but its page is not sent.
  · have hhead : q.method = "HEAD" := h.reads.resolve_left hget
    rw [if_neg hget, if_neg hget, if_pos hhead, ReaderT.run_bind, hrun]
    rfl

theorem argumentOf_eq (pair : String × String) :
    argumentOf pair = if pair.2 = "" then pair.1 else pair.1 ++ "=" ++ pair.2 := by
  rw [argumentOf]
  simp only [String.isEmpty_iff]

end Web

/-! ## Front ends -/

namespace Agent

open Nrpe (Command Policy)

/-- A server with a policy that lets the command pass answers with the text of its result. -/
theorem answers_connect (a : Agent) (now : Int) {c : Command} {peer : Net.Address}
    {stream : Nrpe.Stream} (padding : UInt16) (hpasses : c.Passes a.policy)
    (hpeer : a.policy.allows peer = true)
    (hquery : Nrpe.receiveQuery a.policy.timeout stream = .ok c) :
    let r := (a.registry.runGuarded c.name c.args).run (a.view now)
    ∃ p events, (a.step now (.connect peer stream padding)).2 =
        .connected ⟨.ok (), some p, events⟩ ∧ p.Answers r.state.code r.text := by
  intro r
  let m : Moment := ⟨⟨a, {}⟩, now, .own (.connect peer stream padding)⟩
  have hconnect := m.connect_run (c := { peer, stream, padding }) hpeer hquery
  rw [m.execute_of_passes hpasses] at hconnect
  exact ⟨_, _, congrArg Answer.connected hconnect, Nrpe.Packet.answers_response _ _ padding⟩

/-- The same result is told by all front ends.  The page has its parts, whatever the policy is; a
server whose policy lets the arguments pass has the status and the text that the command line
ends with and shows, once the check there comes to the same result. -/
theorem front_ends_agree (a : Agent) (now : Int) {q : Web.Request} {command : String}
    {pairs : List (String × String)} (hasks : q.Asks command pairs)
    (hcommand : command ≠ "_NRPE_CHECK") :
    let args := pairs.map fun (key, value) => if value = "" then key else key ++ "=" ++ value
    ∃ r, Command.Yields a.registry (a.view now) ⟨command, args⟩ r ∧
      let perf := String.join (r.metrics.map Check.Metric.text)
      let text := if perf = "" then r.output else r.output ++ "|" ++ perf
      (∀ policy, ({ a with policy }.step now (.browse q)).2 =
        .page ⟨200, some "application/json",
          if q.method = "GET" then
            (Web.Json.object
              [("command", .text command), ("result", .whole r.state.code.toNat),
               ("state", .text r.state.name), ("message", .text r.output),
               ("perf", .text perf)]).render
          else ""⟩) ∧
      (∀ policy : Policy, (args = [] ∨ policy.allowArguments = true) →
        (policy.allowNastyCharacters = true ∨
          ∀ arg ∈ args, ∀ x ∈ arg.toList, x ∉ Policy.nastyCharacters) →
        ({ a with policy }.step now (.execute ⟨command, args⟩)).2 = .executed r ∧
        ∀ peer stream padding, policy.allows peer = true →
          Nrpe.receiveQuery policy.timeout stream = .ok ⟨command, args⟩ →
          ∃ p events, ({ a with policy }.step now (.connect peer stream padding)).2 =
              .connected ⟨.ok (), some p, events⟩ ∧ p.Answers r.state.code text) ∧
      ∀ registry view, Command.Yields registry view ⟨command, args⟩ r →
        Main.test registry view ⟨command, args⟩ = ⟨r.state.code.toNat, text ++ "\n"⟩ := by
  intro args
  have hargs : pairs.map Web.argumentOf = args := List.map_congr_left fun p _ => Web.argumentOf_eq p
  let r := (a.registry.runGuarded command args).run (a.view now)
  refine ⟨r, Command.yields_iff.mpr rfl, ?_⟩
  intro perf text
  have htext : r.text = text := r.text_eq
  refine ⟨fun policy => ?_, fun policy harguments hnasty => ⟨?_, ?_⟩,
    fun registry view hview => ?_⟩
  · have hpage := Web.Site.answer_of_asks { a with policy }.site (a.view now) hasks
    rw [hargs] at hpage
    rw [step_browse]
    exact congrArg Answer.page hpage
  · let m : Moment := ⟨⟨{ a with policy }, {}⟩, now, .own (.execute ⟨command, args⟩)⟩
    rw [step_execute]
    exact congrArg (fun executed => Answer.executed executed.1)
      (m.execute_of_passes (c := ⟨command, args⟩) ⟨hcommand, harguments, hnasty⟩)
  · intro peer stream padding hpeer hquery
    rw [← htext]
    exact answers_connect { a with policy } now padding ⟨hcommand, harguments, hnasty⟩ hpeer hquery
  · rw [Main.test, ← Command.yields_iff.mp hview, Nrpe.Exit.ofResult, htext]

/-- A state and a text for the check that answers with them; the server here lets no arguments
pass, but the web does. -/
theorem front_ends_agree_dummy :
    let a : Agent := { host := .new 0, policy := ⟨[], false, false, .ofSeconds 30⟩ }
    let q : Web.Request := ⟨"GET", "/query/check_dummy?2&disk=full"⟩
    (a.step 0 (.browse q)).2 = .page ⟨200, some "application/json",
      "\x7b\"command\":\"check_dummy\",\"result\":2,\"state\":\"CRITICAL\"," ++
        "\"message\":\"disk=full\",\"perf\":\"\"\x7d"⟩ ∧
    Main.test Probe.standard Main.blankView ⟨"check_dummy", ["2", "disk=full"]⟩ =
      ⟨2, "disk=full\n"⟩ := by
  intro a q
  have hasks : q.Asks "check_dummy" [("2", ""), ("disk", "full")] := by
    refine ⟨.inl rfl, ⟨"check_dummy".toList, ?_, ?_⟩, ?_⟩ <;> decide +kernel
  obtain ⟨r, hyields, hpage, -, htest⟩ := front_ends_agree a 0 hasks (by decide)
  have hr : r = { state := .critical, output := "disk=full" } :=
    (Command.yields_iff.mp hyields).trans rfl
  subst hr
  refine ⟨(hpage a.policy).trans ?_,
    (htest Probe.standard Main.blankView (Command.yields_iff.mpr rfl)).trans ?_⟩
  · refine congrArg Answer.page ?_
    decide +kernel
  · decide +kernel

end Agent

end MonitorAgent
