import MonitorAgent.Check.Options

/-!
# Reading the arguments of a check

Reading ends well just when each argument under a key of the settings can be read, and
then it leaves the arguments under other keys to the check, in their order.  What the
settings were before does not matter for this.  Of several arguments for one setting the
last one counts, whichever of the spellings of its key they use.  Reading stops at the first
argument that cannot be read, with the settings that the arguments in front of it leave, so
that it does not matter whether a list is read at once or in two parts.
-/

namespace MonitorAgent
namespace Check

/-- The keys under which arguments are not left to a check. -/
def Settings.keys : List String :=
  ["", "warn", "warning", "crit", "critical", "detail-syntax", "top-syntax", "ok-syntax",
   "empty-syntax", "empty-state"]

namespace Argument

theorem read_of_cut {raw : String} {key value : List Char} (hraw : raw.toList = key ++ '=' :: value)
    (hkey : '=' ∉ key) :
    read raw = ⟨String.ofList (Text.trim key), String.ofList (Text.trim value)⟩ := by
  simp only [read, hraw, Text.cut_append hkey, Option.getD_some]

theorem read_of_notMem {raw : String} (h : '=' ∉ raw.toList) :
    read raw = ⟨String.ofList (Text.trim raw.toList), ""⟩ := by
  simp only [read, Text.cut_eq_none_iff.mpr h, Option.getD_none, Text.trim_nil, String.ofList_nil]

/-- What stands under a key of thresholds is a threshold, and what stands under that of the state
is one. -/
def IsReadable (a : Argument) : Prop :=
  (a.key ∈ ["warn", "warning", "crit", "critical"] → ∃ t, Threshold.read a.value = .ok t) ∧
    (a.key = "empty-state" → ∃ state, State.read? a.value = some state)

/-- The failure of an argument whose value is no threshold or no state, where its key asks for
one. -/
def Fails (a : Argument) (failure : Failure) : Prop :=
  (a.key ∈ ["warn", "warning", "crit", "critical"] ∧
      ∃ e, Threshold.read a.value = .error e ∧ failure = .threshold e) ∨
    (a.key = "empty-state" ∧ State.read? a.value = none ∧ failure = .unknownState a.value)

theorem Fails.not_isReadable {a : Argument} {failure : Failure} (h : a.Fails failure) :
    ¬a.IsReadable := by
  rintro ⟨hthreshold, hstate⟩
  rcases h with ⟨hkey, e, hread, -⟩ | ⟨hkey, hread, -⟩
  · obtain ⟨t, ht⟩ := hthreshold hkey
    cases hread.symm.trans ht
  · obtain ⟨state, hs⟩ := hstate hkey
    cases hread.symm.trans hs

/-- The arguments that are left to a check. -/
def leftOver (args : List String) : List Argument :=
  (args.map read).filter (·.key ∉ Settings.keys)

theorem leftOver_cons (raw : String) (more : List String) :
    leftOver (raw :: more) =
      (if (read raw).key ∈ Settings.keys then none else some (read raw)).toList ++
        leftOver more := by
  by_cases hkey : (read raw).key ∈ Settings.keys <;> simp [leftOver, hkey]

end Argument

theorem valuesOf_eq_map {key : String} {args : List Argument} (h : ∀ a ∈ args, a.key = key) :
    valuesOf key args = args.map (·.value) := by
  rw [valuesOf, List.filter_eq_self.mpr fun a ha => beq_iff_eq.mpr (h a ha)]

/-! ## The last value -/

section

variable {a b : List Argument} {keys : List String} {α : Type} {parse : String → Option α}
  {x y z : α}

/-- The value of the last argument under one of the keys. -/
def lastValue? (keys : List String) (args : List Argument) : Option String :=
  (args.filter (·.key ∈ keys)).getLast?.map (·.value)

theorem lastValue?_append (keys : List String) (a b : List Argument) :
    lastValue? keys (a ++ b) = (lastValue? keys b).or (lastValue? keys a) := by
  rw [lastValue?, List.filter_append, List.getLast?_append, Option.map_or]
  rfl

/-- Afterwards there is what the last value under the keys stands for, or what there was before. -/
def Settled (keys : List String) (parse : String → Option α) (before : α) (args : List Argument)
    (after : α) : Prop :=
  match lastValue? keys args with
  | none => after = before
  | some value => parse value = some after

theorem settled_singleton {arg : Argument} :
    Settled keys parse x [arg] y ↔ if arg.key ∈ keys then parse arg.value = some y else y = x := by
  by_cases h : arg.key ∈ keys <;> simp [Settled, lastValue?, h]

theorem Settled.append (ha : Settled keys parse x a y) (hb : Settled keys parse y b z) :
    Settled keys parse x (a ++ b) z := by
  rw [Settled, lastValue?_append]
  rw [Settled] at hb
  cases hlast : lastValue? keys b with
  | some value => rwa [hlast] at hb
  | none =>
      rw [hlast] at hb
      subst hb
      exact ha

end

namespace Settings

def threshold? (value : String) : Option Threshold :=
  (Threshold.read value).toOption

/-- The settings that arguments leave, each of them by the last argument for it. -/
structure Follows (s : Settings) (args : List Argument) (t : Settings) : Prop where
  warning : Settled ["warn", "warning"] threshold? s.warning args t.warning
  critical : Settled ["crit", "critical"] threshold? s.critical args t.critical
  detail : Settled ["detail-syntax"] some s.detail args t.detail
  top : Settled ["top-syntax"] some s.top args t.top
  ok : Settled ["ok-syntax"] some s.ok args t.ok
  empty : Settled ["empty-syntax"] some s.empty args t.empty
  emptyState : Settled ["empty-state"] State.read? s.emptyState args t.emptyState

variable {s t u : Settings}

theorem follows_nil (s : Settings) : s.Follows [] s :=
  ⟨rfl, rfl, rfl, rfl, rfl, rfl, rfl⟩

theorem Follows.append {a b : List Argument} (ha : s.Follows a t) (hb : t.Follows b u) :
    s.Follows (a ++ b) u where
  warning := ha.warning.append hb.warning
  critical := ha.critical.append hb.critical
  detail := ha.detail.append hb.detail
  top := ha.top.append hb.top
  ok := ha.ok.append hb.ok
  empty := ha.empty.append hb.empty
  emptyState := ha.emptyState.append hb.emptyState

/-! ## One argument -/

theorem readThreshold_cases (text : String) :
    (∃ t, Threshold.read text = .ok t ∧ readThreshold text = .ok t) ∨
      ∃ e, Threshold.read text = .error e ∧ readThreshold text = .error (.threshold e) := by
  rw [readThreshold]
  cases Threshold.read text with
  | ok t => exact .inl ⟨t, rfl, rfl⟩
  | error e => exact .inr ⟨e, rfl, rfl⟩

/-- All that one argument can do. -/
theorem accept_cases (s : Settings) (a : Argument) :
    (a.IsReadable ∧ ∃ t, s.accept a = .ok (t, if a.key ∈ keys then none else some a) ∧
      s.Follows [a] t) ∨
    ∃ failure, s.accept a = .error failure ∧ a.Fails failure := by
  rw [accept]
  split
  -- The keys whose values have to be read: those of thresholds, then that of the state.
  case h_2 | h_3 | h_4 | h_5 =>
    rename_i hkey
    have hown : a.key ∈ keys := by simp [hkey, keys]
    have hthreshold : a.key ∈ ["warn", "warning", "crit", "critical"] := by simp [hkey]
    rcases readThreshold_cases a.value with ⟨t, hread, heq⟩ | ⟨e, hread, heq⟩
    · rw [heq, if_pos hown]
      refine .inl ⟨by simp [Argument.IsReadable, hkey, hread], _, rfl, ?_⟩
      constructor <;> simp [settled_singleton, hkey, threshold?, hread, Except.toOption]
    · rw [heq]
      exact .inr ⟨.threshold e, rfl, .inl ⟨hthreshold, e, hread, rfl⟩⟩
  case h_10 =>
    rename_i hkey
    have hown : a.key ∈ keys := by simp [hkey, keys]
    rw [State.read]
    cases hread : State.read? a.value with
    | some state =>
        rw [if_pos hown]
        refine .inl ⟨by simp [Argument.IsReadable, hkey, hread], _, rfl, ?_⟩
        constructor <;> simp [settled_singleton, hkey, hread]
    | none => exact .inr ⟨.unknownState a.value, rfl, .inr ⟨hkey, hread, rfl⟩⟩
  -- A key of none of the settings.
  case h_11 =>
    have hother : a.key ∉ keys := by simp_all [keys]
    rw [if_neg hother]
    refine .inl ⟨by simp_all [Argument.IsReadable], s, rfl, ?_⟩
    constructor <;> simp_all [settled_singleton]
  all_goals
    rename_i hkey
    have hown : a.key ∈ keys := by simp [hkey, keys]
    rw [if_pos hown]
    refine .inl ⟨by simp [Argument.IsReadable, hkey], _, rfl, ?_⟩
    constructor <;> simp [settled_singleton, hkey]

end Settings

/-! ## All arguments -/

section Except

variable {ε α β : Type} {f : α → β} {result : Except ε α}

theorem map_eq_ok_iff {b : β} : result.map f = .ok b ↔ ∃ a, result = .ok a ∧ f a = b := by
  cases result with
  | ok a => exact ⟨fun h => ⟨a, rfl, Except.ok.inj h⟩, fun ⟨_, ha, h⟩ => Except.ok.inj ha ▸ h ▸ rfl⟩
  | error e => exact ⟨nofun, nofun⟩

theorem map_eq_error_iff {e : ε} : result.map f = .error e ↔ result = .error e := by
  cases result with
  | ok a => exact ⟨nofun, nofun⟩
  | error e' => exact ⟨fun h => Except.error.inj h ▸ rfl, fun h => Except.error.inj h ▸ rfl⟩

end Except

namespace Settings

variable {s t : Settings} {args : List String} {rest : List Argument} {failure : Failure}

theorem read_cons_of_ok {raw : String} {left : Option Argument}
    (h : s.accept (Argument.read raw) = .ok (t, left)) (more : List String) :
    s.read (raw :: more) = ((t.read more).1, (t.read more).2.map (left.toList ++ ·)) := by
  rw [read, h]

theorem read_cons_of_error {raw : String} (h : s.accept (Argument.read raw) = .error failure)
    (more : List String) : s.read (raw :: more) = (s, .error failure) := by
  rw [read, h]

/-- Reading ends well just when all arguments can be read, and then the others are left. -/
theorem read_eq_ok_iff (s : Settings) (args : List String) (rest : List Argument) :
    (s.read args).2 = .ok rest ↔
      (∀ raw ∈ args, (Argument.read raw).IsReadable) ∧ rest = Argument.leftOver args := by
  induction args generalizing s rest with
  | nil => simp [Argument.leftOver, eq_comm]
  | cons raw more ih =>
      rw [List.forall_mem_cons]
      rcases s.accept_cases (Argument.read raw) with ⟨hraw, t, heq, -⟩ | ⟨failure, heq, hraw⟩
      · rw [read_cons_of_ok heq, Argument.leftOver_cons, map_eq_ok_iff]
        simp only [ih t, hraw, true_and, and_assoc, exists_and_left, exists_eq_left, eq_comm]
      · rw [read_cons_of_error heq]
        simp [hraw.not_isReadable]

theorem follows_of_read (h : (s.read args).2 = .ok rest) :
    s.Follows (args.map Argument.read) (s.read args).1 := by
  induction args generalizing s rest with
  | nil => exact follows_nil s
  | cons raw more ih =>
      rcases s.accept_cases (Argument.read raw) with ⟨-, t, heq, hraw⟩ | ⟨failure, heq, -⟩
      · rw [read_cons_of_ok heq] at h ⊢
        obtain ⟨later, hread, -⟩ := map_eq_ok_iff.mp h
        exact hraw.append (ih hread)
      · rw [read_cons_of_error heq] at h
        cases h

/-- Reading breaks off at one of the arguments, with what those in front of it have left. -/
theorem exists_fails_of_read (h : (s.read args).2 = .error failure) :
    ∃ before raw behind, args = before ++ raw :: behind ∧
      (∀ other ∈ before, (Argument.read other).IsReadable) ∧ (Argument.read raw).Fails failure ∧
      (s.read args).1 = (s.read before).1 := by
  induction args generalizing s with
  | nil => cases h
  | cons raw more ih =>
      rcases s.accept_cases (Argument.read raw) with ⟨hraw, t, heq, -⟩ | ⟨cause, heq, hraw⟩
      · rw [read_cons_of_ok heq] at h ⊢
        obtain ⟨before, failing, behind, rfl, hbefore, hfails, hleft⟩ := ih (map_eq_error_iff.mp h)
        refine ⟨raw :: before, failing, behind, rfl, ?_, hfails, ?_⟩
        · exact List.forall_mem_cons.mpr ⟨hraw, hbefore⟩
        · rw [read_cons_of_ok heq]
          exact hleft
      · rw [read_cons_of_error heq] at h ⊢
        cases h
        exact ⟨[], raw, more, rfl, nofun, hraw, rfl⟩

theorem read_append_of_ok (h : (s.read args).2 = .ok rest) (more : List String) :
    s.read (args ++ more) =
      (((s.read args).1.read more).1, ((s.read args).1.read more).2.map (rest ++ ·)) := by
  induction args generalizing s rest with
  | nil =>
      cases h
      rw [List.nil_append, read_nil]
      rcases s.read more with ⟨t, failure | later⟩
      · rfl
      · rfl
  | cons raw args ih =>
      rcases s.accept_cases (Argument.read raw) with ⟨-, t, heq, -⟩ | ⟨failure, heq, -⟩
      · rw [read_cons_of_ok heq] at h ⊢
        obtain ⟨later, hread, rfl⟩ := map_eq_ok_iff.mp h
        rw [List.cons_append, read_cons_of_ok heq, ih hread]
        rcases (t.read args).1.read more with ⟨u, failure | behind⟩
        · simp only [Except.map]
        · simp only [Except.map, List.append_assoc]
      · rw [read_cons_of_error heq] at h
        cases h

theorem read_append_of_error (h : (s.read args).2 = .error failure) (more : List String) :
    s.read (args ++ more) = s.read args := by
  induction args generalizing s with
  | nil => cases h
  | cons raw args ih =>
      rcases s.accept_cases (Argument.read raw) with ⟨-, t, heq, -⟩ | ⟨cause, heq, -⟩
      · rw [read_cons_of_ok heq] at h ⊢
        rw [List.cons_append, read_cons_of_ok heq, ih (map_eq_error_iff.mp h)]
      · rw [List.cons_append, read_cons_of_error heq, read_cons_of_error heq]

/-- What comes of reading arguments: key and value stand around the first equals sign, the last
argument for a setting counts, and the first one that cannot be read ends it. -/
theorem read_outcomes (s : Settings) (args : List String) :
    (∀ (raw : String) (key value : List Char), raw.toList = key ++ '=' :: value → '=' ∉ key →
      Argument.read raw = ⟨String.ofList (Text.trim key), String.ofList (Text.trim value)⟩) ∧
    (∀ raw : String, '=' ∉ raw.toList →
      Argument.read raw = ⟨String.ofList (Text.trim raw.toList), ""⟩) ∧
    ((∃ rest, (s.read args).2 = .ok rest) ↔ ∀ raw ∈ args, (Argument.read raw).IsReadable) ∧
    (∀ rest, (s.read args).2 = .ok rest →
      rest = (args.map Argument.read).filter (·.key ∉ keys) ∧
      s.Follows (args.map Argument.read) (s.read args).1 ∧
      ∀ more, s.read (args ++ more) =
        (((s.read args).1.read more).1, ((s.read args).1.read more).2.map (rest ++ ·))) ∧
    (∀ failure, (s.read args).2 = .error failure →
      (∃ before raw behind, args = before ++ raw :: behind ∧
        (∀ other ∈ before, (Argument.read other).IsReadable) ∧
        (Argument.read raw).Fails failure ∧ (s.read args).1 = (s.read before).1) ∧
      ∀ more, s.read (args ++ more) = s.read args) := by
  refine ⟨fun raw key value => Argument.read_of_cut, fun raw => Argument.read_of_notMem, ?_, ?_, ?_⟩
  · simp only [read_eq_ok_iff, exists_and_left, exists_eq, and_true]
  · intro rest hread
    exact ⟨((read_eq_ok_iff s args rest).mp hread).2, follows_of_read hread,
      read_append_of_ok hread⟩
  · intro failure hread
    exact ⟨exists_fails_of_read hread, read_append_of_error hread⟩

/-- The second threshold replaces the first, and then a word that is no state ends the reading. -/
theorem read_outcomes_halted :
    let s : Settings := {}
    let args := ["warn=load > 5", "drive=c:", " warning = load > 9", "=x", "query=a=b"]
    let more := ["crit=load > 12", "empty-state=maybe", "drive=d:"]
    let rest : List Argument := [⟨"drive", "c:"⟩, ⟨"query", "a=b"⟩]
    (s.read args).2 = .ok rest ∧
    lastValue? ["warn", "warning"] (args.map Argument.read) = some "load > 9" ∧
    threshold? "load > 9" = some (s.read args).1.warning ∧
    (s.read (args ++ more)).2 = .error (.unknownState "maybe") ∧
    ∃ before raw behind, args ++ more = before ++ raw :: behind ∧
      (Argument.read raw).Fails (.unknownState "maybe") ∧
      (s.read (args ++ more)).1 = (s.read before).1 := by
  intro s args more rest
  have hread : (s.read args).2 = .ok rest := rfl
  have hlast : lastValue? ["warn", "warning"] (args.map Argument.read) = some "load > 9" := by
    decide +kernel
  have hfails : (s.read (args ++ more)).2 = .error (.unknownState "maybe") := rfl
  obtain ⟨-, hfollows, -⟩ := (read_outcomes s args).2.2.2.1 rest hread
  have hwarning := hfollows.warning
  rw [Settled, hlast] at hwarning
  obtain ⟨⟨before, raw, behind, heq, -, hraw, hleft⟩, -⟩ :=
    (read_outcomes s (args ++ more)).2.2.2.2 _ hfails
  exact ⟨hread, hlast, hwarning, hfails, before, raw, behind, heq, hraw, hleft⟩

end Settings
end Check
end MonitorAgent
