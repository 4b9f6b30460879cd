import MonitorAgent.Proofs.Connections
import MonitorAgent.Proofs.Refusals

/-!
# Calls of handlers

A registry is run with handlers that note each of their calls.  Apart from the notes
it does what it does without them, and the notes say which handlers a request has
called, with which arguments.  This holds of one request and, by induction, of any
number of them in a row.
-/

namespace MonitorAgent
namespace Check

/-- A handler and the arguments that it is called with. -/
structure Call (m : Type → Type) where
  handler : Handler m
  args : List String

/-- Computations that keep a log of calls. -/
abbrev Logged (m : Type → Type) :=
  StateT (List (Call m)) m

variable {m : Type → Type} [Monad m]

/-- The computation does what `plain` does, and on top of that it logs these calls. -/
def Makes {α : Type} (run : Logged m α) (plain : m α) (calls : List (Call m)) : Prop :=
  ∀ log, run.run log = (fun a => (a, log ++ calls)) <$> plain

section Makes

variable [LawfulMonad m] {α β : Type} {run : Logged m α} {plain : m α} {calls : List (Call m)}

theorem Makes.pure (a : α) : Makes (Pure.pure a : Logged m α) (Pure.pure a) [] := by
  intro log
  rw [StateT.run_pure, map_pure, List.append_nil]

theorem Makes.bind {f : α → Logged m β} {g : α → m β} {more : List (Call m)}
    (h : Makes run plain calls) (hf : ∀ a, Makes (f a) (g a) more) :
    Makes (run >>= f) (plain >>= g) (calls ++ more) := by
  intro log
  rw [StateT.run_bind, h log, bind_map_left, map_bind]
  congr 1
  funext a
  rw [hf a, List.append_assoc]

/-- What follows makes no calls. -/
theorem Makes.bind_silent {f : α → Logged m β} {g : α → m β} (h : Makes run plain calls)
    (hf : ∀ a, Makes (f a) (g a) []) : Makes (run >>= f) (plain >>= g) calls := by
  have hbind := h.bind hf
  rwa [List.append_nil] at hbind

theorem Makes.map (f : α → β) (h : Makes run plain calls) :
    Makes (f <$> run) (f <$> plain) calls := by
  intro log
  rw [StateT.run_map, h log, ← comp_map, ← comp_map]
  rfl

end Makes

/-- The handler with a note of each of its calls. -/
def logged (handler : Handler m) : Handler (Logged m) := fun args => do
  modify (· ++ [⟨handler, args⟩])
  handler args

theorem logged_makes [LawfulMonad m] (handler : Handler m) (args : List String) :
    Makes (logged handler args) (handler args) [⟨handler, args⟩] := by
  intro log
  simp [logged]

namespace Registry

def logged (registry : Registry m) : Registry (Logged m) where
  entries := registry.entries.map fun (name, handler) => (name, Check.logged handler)
  tells := registry.tells

/-- What a name has called. -/
def calls (registry : Registry m) (name : String) (args : List String) : List (Call m) :=
  ((registry.find? name).map fun handler => ⟨handler, args⟩).toList

theorem find?_logged (registry : Registry m) (name : String) :
    registry.logged.find? name = (registry.find? name).map Check.logged := by
  obtain ⟨entries, tells⟩ := registry
  simp only [find?, logged]
  induction entries with
  | nil => rfl
  | cons entry entries ih =>
      obtain ⟨other, handler⟩ := entry
      simp only [List.map_cons, List.lookup_cons]
      cases name == other with
      | true => rfl
      | false => exact ih

variable [LawfulMonad m] (registry : Registry m) (name : String) (args : List String)

theorem run_makes :
    Makes (registry.logged.run name args) (registry.run name args) (registry.calls name args) := by
  rw [run, run, calls, find?_logged]
  cases registry.find? name with
  | none => exact Makes.pure _
  | some handler => exact (logged_makes handler args).bind_silent fun outcome => Makes.pure _

theorem runGuarded_makes :
    Makes (registry.logged.runGuarded name args) (registry.runGuarded name args)
      (registry.calls name args) := by
  refine (run_makes registry name args).bind_silent fun result => ?_
  cases result with
  | ok result => exact Makes.pure result
  | error cause => exact Makes.pure (registry.abortedResult name cause)

end Registry
end Check

namespace Nrpe

open Check (Makes)

namespace Command

variable {m : Type → Type} (registry : Check.Registry m) (policy : Policy)

/-- What a command has called. -/
def calls (c : Command) : List (Check.Call m) :=
  if c.name = versionCommand then []
  else
    match policy.refusal? c.args with
    | some _ => []
    | none => registry.calls c.name c.args

/-- A call that the policy lets a command make. -/
structure Permits (c : Command) (call : Check.Call m) : Prop where
  registered : registry.find? c.name = some call.handler
  same_args : call.args = c.args
  not_version : c.name ≠ "_NRPE_CHECK"
  arguments_allowed : call.args = [] ∨ policy.allowArguments = true
  harmless : policy.allowNastyCharacters = true ∨
    ∀ arg ∈ call.args, ∀ x ∈ arg.toList, x ∉ Policy.nastyCharacters

theorem length_calls_le_one (c : Command) : (c.calls registry policy).length ≤ 1 := by
  rw [calls]
  split
  · exact Nat.zero_le 1
  split
  · exact Nat.zero_le 1
  · exact Option.length_toList_le

/-- The calls are the permitted ones, no more and no fewer. -/
theorem mem_calls_iff {c : Command} {call : Check.Call m} :
    call ∈ c.calls registry policy ↔ c.Permits registry policy call := by
  constructor
  · intro h
    rw [calls] at h
    split at h
    · cases h
    next hname =>
      split at h
      · cases h
      next hrefusal =>
        obtain ⟨handler, hfind, rfl⟩ := Option.map_eq_some_iff.1 (Option.mem_toList.1 h)
        obtain ⟨harguments, hharmless⟩ := Policy.refusal?_eq_none_iff.1 hrefusal
        exact ⟨hfind, rfl, hname, harguments, hharmless⟩
  · rintro ⟨hfind, hargs, hname, harguments, hharmless⟩
    rw [hargs] at harguments hharmless
    have hrefusal : policy.refusal? c.args = none :=
      Policy.refusal?_eq_none_iff.2 ⟨harguments, hharmless⟩
    have hcalls : c.calls registry policy = [⟨call.handler, c.args⟩] := by
      simp only [calls, versionCommand, if_neg hname, hrefusal, Check.Registry.calls, hfind]
      rfl
    rw [hcalls, ← hargs]
    exact List.mem_singleton_self call

end Command

/-- A request for a command, directly or with what a peer sends. -/
inductive Request where
  | execute (command : Command)
  | connect (peer : Net.Address) (stream : Stream) (padding : UInt16)

inductive Answer where
  | executed (result : Check.Result)
  | connected (exchange : Exchange)

namespace Request

/-- The command of a request, unless it comes from a peer that gets none through. -/
def command? (policy : Policy) : Request → Option Command
  | execute command => some command
  | connect peer stream _ =>
    if policy.allows peer then (receiveQuery policy.timeout stream).toOption else none

def calls {m : Type → Type} (registry : Check.Registry m) (policy : Policy) (r : Request) :
    List (Check.Call m) :=
  match r.command? policy with
  | none => []
  | some command => command.calls registry policy

theorem length_calls_le_one {m : Type → Type} (registry : Check.Registry m) (policy : Policy)
    (r : Request) : (r.calls registry policy).length ≤ 1 := by
  rw [calls]
  cases r.command? policy with
  | none => exact Nat.zero_le 1
  | some c => exact c.length_calls_le_one registry policy

theorem mem_calls_iff {m : Type → Type} {registry : Check.Registry m} {policy : Policy}
    {r : Request} {call : Check.Call m} :
    call ∈ r.calls registry policy ↔
      ∃ c, r.command? policy = some c ∧ c.Permits registry policy call := by
  rw [calls]
  cases r.command? policy with
  | none => simp
  | some command => simp [Command.mem_calls_iff]

/-- How a request is told the result of its command. -/
def tell (result : Check.Result) : Request → Answer
  | execute _ => .executed result
  | connect _ _ padding => .connected (.answered padding (result, []))

variable {m : Type → Type} [Monad m]

/-- One request is answered and counted. -/
def answer (registry : Check.Registry m) (policy : Policy) (counters : Telemetry.Counters) :
    Request → m (Answer × Telemetry.Counters)
  | execute command => do
    let (result, events) ← Nrpe.execute registry policy command
    pure (.executed result, counters.recordAll events)
  | connect peer stream padding => do
    let exchange ← Nrpe.connect registry policy peer stream padding
    pure (.connected exchange, counters.recordAll exchange.events)

/-- Requests are answered one after the other. -/
def answerAll (registry : Check.Registry m) (policy : Policy) (counters : Telemetry.Counters) :
    List Request → m (List Answer × Telemetry.Counters)
  | [] => pure ([], counters)
  | r :: rs => do
    let (first, counters) ← r.answer registry policy counters
    let (later, counters) ← answerAll registry policy counters rs
    pure (first :: later, counters)

end Request

variable {m : Type → Type} [Monad m] [LawfulMonad m] (registry : Check.Registry m)
  (policy : Policy)

theorem execute_makes (c : Command) :
    Makes (execute registry.logged policy c) (execute registry policy c)
      (c.calls registry policy) := by
  rw [execute, execute, Command.calls]
  split
  · exact Makes.pure _
  cases policy.refusal? c.args with
  | some refusal => exact Makes.pure _
  | none => exact (registry.runGuarded_makes c.name c.args).bind_silent fun result => Makes.pure _

theorem connect_makes (peer : Net.Address) (stream : Stream) (padding : UInt16) :
    Makes (connect registry.logged policy peer stream padding)
      (connect registry policy peer stream padding)
      (Request.calls registry policy (.connect peer stream padding)) := by
  rw [Request.calls, Request.command?]
  cases hpeer : policy.allows peer with
  | false =>
      rw [connect_denied registry.logged padding stream hpeer,
        connect_denied registry padding stream hpeer]
      exact Makes.pure _
  | true =>
      cases hquery : receiveQuery policy.timeout stream with
      | error error =>
          rw [connect_refused registry.logged padding hpeer hquery,
            connect_refused registry padding hpeer hquery]
          exact Makes.pure _
      | ok command =>
          rw [connect_answered registry.logged padding hpeer hquery,
            connect_answered registry padding hpeer hquery]
          exact (execute_makes registry policy command).map _

namespace Request

theorem answer_makes (counters : Telemetry.Counters) (r : Request) :
    Makes (r.answer registry.logged policy counters) (r.answer registry policy counters)
      (r.calls registry policy) := by
  cases r with
  | execute command =>
      exact (execute_makes registry policy command).bind_silent fun done => Makes.pure _
  | connect peer stream padding =>
      exact (connect_makes registry policy peer stream padding).bind_silent
        fun exchange => Makes.pure _

theorem answerAll_makes (counters : Telemetry.Counters) (rs : List Request) :
    Makes (answerAll registry.logged policy counters rs) (answerAll registry policy counters rs)
      (rs.flatMap (calls registry policy)) := by
  induction rs generalizing counters with
  | nil => exact Makes.pure _
  | cons r rs ih =>
      rw [List.flatMap_cons]
      refine (answer_makes registry policy counters r).bind fun (first, counters) => ?_
      exact (ih counters).bind_silent fun (later, counters) => Makes.pure _

/-- The request is told the message, and no run of a check is counted. -/
def Refused (r : Request) (message : String) : Prop :=
  ∀ counters : Telemetry.Counters, ∃ counters', counters'.executions = counters.executions ∧
    r.answer registry policy counters = pure (r.tell (.unknown message), counters')

theorem command?_connect {peer : Net.Address} {stream : Stream} {padding : UInt16} {c : Command}
    (h : (connect peer stream padding).command? policy = some c) :
    policy.allows peer = true ∧ receiveQuery policy.timeout stream = .ok c := by
  rw [command?] at h
  cases hpeer : policy.allows peer with
  | false =>
      rw [hpeer] at h
      cases h
  | true =>
      cases hquery : receiveQuery policy.timeout stream with
      | error error =>
          rw [hpeer, hquery] at h
          cases h
      | ok command =>
          rw [hpeer, hquery] at h
          exact ⟨rfl, congrArg Except.ok (Option.some.inj h)⟩

theorem refused_of_refusal? {r : Request} {c : Command} {refusal : Policy.Refusal}
    (hcommand : r.command? policy = some c) (hname : c.name ≠ versionCommand)
    (hrefusal : policy.refusal? c.args = some refusal) :
    r.Refused registry policy refusal.message := by
  have hexecute : Nrpe.execute registry policy c = pure (.unknown refusal.message, []) := by
    simp only [Nrpe.execute, if_neg hname, hrefusal]
  intro counters
  cases r with
  | execute command =>
      obtain rfl : command = c := Option.some.inj hcommand
      refine ⟨counters, rfl, ?_⟩
      simp only [answer, hexecute, pure_bind]
      rfl
  | connect peer stream padding =>
      obtain ⟨hpeer, hquery⟩ := command?_connect policy hcommand
      refine ⟨counters.recordAll [.connection .answered], rfl, ?_⟩
      rw [answer, connect_answered registry padding hpeer hquery, hexecute, map_pure, pure_bind]
      rfl

/-- However many requests come, the calls are those of each of them in turn: one at most, of the
handler under the name of its command, just when the policy permits it.  Arguments against either
rule are refused with the message of the rule. -/
theorem answerAll_calls_permitted (counters : Telemetry.Counters) (rs : List Request) :
    Makes (answerAll registry.logged policy counters rs) (answerAll registry policy counters rs)
      (rs.flatMap (calls registry policy)) ∧
    ∀ r : Request,
      (r.calls registry policy).length ≤ 1 ∧
      (∀ call, call ∈ r.calls registry policy ↔
        ∃ c, r.command? policy = some c ∧ c.Permits registry policy call) ∧
      ∀ c, r.command? policy = some c → c.name ≠ "_NRPE_CHECK" →
        (c.args ≠ [] → policy.allowArguments = false →
          r.Refused registry policy "Arguments not allowed") ∧
        (c.args = [] ∨ policy.allowArguments = true → policy.allowNastyCharacters = false →
          (∃ arg ∈ c.args, ∃ x ∈ arg.toList, x ∈ Policy.nastyCharacters) →
          r.Refused registry policy "Nasty characters in arguments") := by
  refine ⟨answerAll_makes registry policy counters rs,
    fun r => ⟨r.length_calls_le_one registry policy, fun call => mem_calls_iff, ?_⟩⟩
  intro c hcommand hname
  refine ⟨fun hargs hpolicy => ?_, fun hargs hpolicy hnasty => ?_⟩
  · exact refused_of_refusal? registry policy hcommand hname
      (Policy.refusal?_of_arguments hargs hpolicy)
  · exact refused_of_refusal? registry policy hcommand hname
      (Policy.refusal?_of_nasty hargs hpolicy hnasty)

/-- Of two commands for the dummy check the one with a bar in its argument is refused. -/
theorem answerAll_calls_permitted_dummy :
    let policy : Policy := ⟨[], true, false, .ofSeconds 30⟩
    let plain : Request := .execute ⟨"check_dummy", ["1"]⟩
    let nasty : Request := .execute ⟨"check_dummy", ["1", "a|b"]⟩
    Makes (answerAll Probe.standard.logged policy {} [plain, nasty])
      (answerAll Probe.standard policy {} [plain, nasty]) [⟨Probe.dummy, ["1"]⟩] ∧
    nasty.Refused Probe.standard policy "Nasty characters in arguments" := by
  intro policy plain nasty
  have hcalls : [plain, nasty].flatMap (calls Probe.standard policy) = [⟨Probe.dummy, ["1"]⟩] := by
    rfl
  obtain ⟨hmakes, hrequests⟩ :=
    answerAll_calls_permitted Probe.standard policy {} [plain, nasty]
  obtain ⟨-, -, hrefused⟩ := hrequests nasty
  refine ⟨hcalls ▸ hmakes, ?_⟩
  exact (hrefused ⟨"check_dummy", ["1", "a|b"]⟩ rfl (by decide)).2 (Or.inr rfl) rfl
    ⟨"a|b", by decide, '|', by decide, by decide⟩

end Request
end Nrpe
end MonitorAgent
