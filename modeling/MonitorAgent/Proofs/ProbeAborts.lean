import MonitorAgent.Probe.Standard
import MonitorAgent.Proofs.ArgumentReading

/-!
# Broken off probes

A standard check has a result whatever its arguments and the host are, but for two
cases: sizes of memory that do not fit in a word together, and a boot time behind the
last year with four digits.
-/

namespace MonitorAgent
namespace Probe

open Check

/-! ## Computations that may fail -/

section Except

variable {ε α β : Type}

theorem ok_bind {a : α} {f : α → Except ε β} : (.ok a : Except ε α) >>= f = f a := rfl

theorem bind_eq_ok_iff {x : Except ε α} {f : α → Except ε β} {b : β} :
    x >>= f = .ok b ↔ ∃ a, x = .ok a ∧ f a = .ok b := by
  cases x with
  | error e => exact ⟨nofun, nofun⟩
  | ok a => exact ⟨fun h => ⟨a, rfl, h⟩, fun ⟨_, ha, h⟩ => Except.ok.inj ha ▸ h⟩

theorem exists_of_mapM_eq_error {f : α → Except ε β} {l : List α} {e : ε}
    (h : l.mapM f = .error e) : ∃ a ∈ l, f a = .error e := by
  induction l with
  | nil => cases h
  | cons a l ih =>
      rw [List.mapM_cons] at h
      cases ha : f a with
      | error e' =>
          rw [ha] at h
          cases h
          exact ⟨a, List.mem_cons_self, ha⟩
      | ok b =>
          rw [ha] at h
          cases hl : l.mapM f with
          | error e' =>
              rw [hl] at h
              cases h
              obtain ⟨a', hmem, ha'⟩ := ih hl
              exact ⟨a', List.mem_cons_of_mem a hmem, ha'⟩
          | ok bs =>
              rw [hl] at h
              cases h

theorem mapM_eq_ok_of_forall {f : α → Except ε β} {g : α → β} {l : List α}
    (h : ∀ a ∈ l, f a = .ok (g a)) : l.mapM f = .ok (l.map g) := by
  induction l with
  | nil => rfl
  | cons a l ih =>
      rw [List.forall_mem_cons] at h
      rw [List.mapM_cons, h.1, ih h.2]
      rfl

theorem forall_of_mapM_eq_ok {f : α → Except ε β} {l : List α} {bs : List β}
    (h : l.mapM f = .ok bs) : ∀ a ∈ l, ∃ b, f a = .ok b := by
  induction l generalizing bs with
  | nil => exact nofun
  | cons a l ih =>
      rw [List.mapM_cons, bind_eq_ok_iff] at h
      obtain ⟨b, ha, h⟩ := h
      obtain ⟨bs, hl, -⟩ := bind_eq_ok_iff.mp h
      exact List.forall_mem_cons.mpr ⟨⟨b, ha⟩, ih hl⟩

theorem exists_of_mem_of_mapM_eq_ok {f : α → Except ε β} {l : List α} {bs : List β} {b : β}
    (h : l.mapM f = .ok bs) (hb : b ∈ bs) : ∃ a ∈ l, f a = .ok b := by
  induction l generalizing bs with
  | nil =>
      cases h
      cases hb
  | cons a l ih =>
      rw [List.mapM_cons, bind_eq_ok_iff] at h
      obtain ⟨first, ha, h⟩ := h
      obtain ⟨more, hl, h⟩ := bind_eq_ok_iff.mp h
      obtain rfl := Except.ok.inj h
      rcases List.mem_cons.mp hb with rfl | hb
      · exact ⟨a, List.mem_cons_self, ha⟩
      · obtain ⟨a', hmem, ha'⟩ := ih hl hb
        exact ⟨a', List.mem_cons_of_mem a hmem, ha'⟩

/-- What fails first is told, whatever comes behind it. -/
theorem mapM_eq_error_of_append {f : α → Except ε β} {before : List α} {a : α} {e : ε}
    (hbefore : ∀ b ∈ before, ∃ x, f b = .ok x) (ha : f a = .error e) (behind : List α) :
    (before ++ a :: behind).mapM f = .error e := by
  induction before with
  | nil =>
      rw [List.nil_append, List.mapM_cons, ha]
      rfl
  | cons first before ih =>
      rw [List.forall_mem_cons] at hbefore
      obtain ⟨⟨x, hfirst⟩, hbefore⟩ := hbefore
      rw [List.cons_append, List.mapM_cons, hfirst, ih hbefore]
      rfl

theorem exists_first_error {f : α → Except ε β} {l : List α} (h : ∃ a ∈ l, ∃ e, f a = .error e) :
    ∃ before a behind e, l = before ++ a :: behind ∧ (∀ b ∈ before, ∃ x, f b = .ok x) ∧
      f a = .error e := by
  induction l with
  | nil =>
      obtain ⟨a, ha, -⟩ := h
      cases ha
  | cons first l ih =>
      cases hfirst : f first with
      | error e => exact ⟨[], first, l, e, rfl, nofun, hfirst⟩
      | ok x =>
          obtain ⟨a, ha, e, hfails⟩ := h
          rcases List.mem_cons.mp ha with rfl | ha
          · rw [hfirst] at hfails
            cases hfails
          · obtain ⟨before, b, behind, e, rfl, hbefore, hb⟩ := ih ⟨a, ha, e, hfails⟩
            exact ⟨first :: before, b, behind, e, rfl,
              List.forall_mem_cons.mpr ⟨⟨x, hfirst⟩, hbefore⟩, hb⟩

end Except

/-! ## Outcomes -/

theorem settle_eq_error_iff {outcome : Outcome} {cause : Abort} :
    outcome.settle = .error cause ↔ outcome = .aborted cause := by
  cases outcome <;> simp [Outcome.settle]

theorem ofExcept_ne_aborted (x : Except Failure Result) (cause : Abort) :
    Outcome.ofExcept x ≠ .aborted cause := by
  cases x <;> simp [Outcome.ofExcept]

theorem requireCollected_eq_ok_iff {host : Host.State} :
    requireCollected host = .ok () ↔ host.collectedAt ≠ 0 := by
  rw [requireCollected, Host.State.isCollected]
  by_cases h : host.collectedAt = 0 <;> simp [h]

/-! ## Requests -/

section

variable {α β : Type} {s : Settings} {args : List String} {host : Host.State}

/-- A check reads its arguments first, then what is left of them, and asks whether there is anything
collected only then. -/
theorem requested_eq_ok_iff {choose : List Argument → Except Failure α} {report : α → β} {b : β} :
    (do
      let rest ← (s.read args).2
      let chosen ← choose rest
      requireCollected host
      return report chosen : Except Failure β) = .ok b ↔
    (∀ raw ∈ args, (Argument.read raw).IsReadable) ∧ host.collectedAt ≠ 0 ∧
      ∃ chosen, choose (Argument.leftOver args) = .ok chosen ∧ report chosen = b := by
  constructor
  · intro h
    obtain ⟨rest, hrest, h⟩ := bind_eq_ok_iff.mp h
    obtain ⟨chosen, hchosen, h⟩ := bind_eq_ok_iff.mp h
    obtain ⟨⟨⟩, hcollected, hreport⟩ := bind_eq_ok_iff.mp h
    obtain ⟨hreadable, rfl⟩ := (s.read_eq_ok_iff args rest).mp hrest
    exact ⟨hreadable, requireCollected_eq_ok_iff.mp hcollected, chosen, hchosen,
      Except.ok.inj hreport⟩
  · rintro ⟨hreadable, hcollected, chosen, hchosen, rfl⟩
    have hrest := (s.read_eq_ok_iff args _).mpr ⟨hreadable, rfl⟩
    simp only [hrest, hchosen, requireCollected_eq_ok_iff.mpr hcollected, ok_bind]
    rfl

/-- Such a check may take just the arguments under some keys. -/
theorem selected_eq_ok_iff {keys : List String} {select : List Argument → α} {report : α → β}
    {b : β} :
    (do
      let rest ← (s.read args).2
      let chosen ← (do
        refuseOthers keys rest
        return select rest : Except Failure α)
      requireCollected host
      return report chosen : Except Failure β) = .ok b ↔
    ((∀ raw ∈ args, (Argument.read raw).IsReadable) ∧ ∀ a ∈ Argument.leftOver args, a.key ∈ keys) ∧
      host.collectedAt ≠ 0 ∧ report (select (Argument.leftOver args)) = b := by
  constructor
  · intro h
    obtain ⟨hreadable, hcollected, chosen, hchosen, hreport⟩ := requested_eq_ok_iff.mp h
    obtain ⟨⟨⟩, hknown, hselect⟩ := bind_eq_ok_iff.mp hchosen
    obtain rfl := Except.ok.inj hselect
    exact ⟨⟨hreadable, refuseOthers_eq_ok_iff.mp hknown⟩, hcollected, hreport⟩
  · rintro ⟨⟨hreadable, hknown⟩, hcollected, hreport⟩
    refine requested_eq_ok_iff.mpr ⟨hreadable, hcollected, _, ?_, hreport⟩
    rw [refuseOthers_eq_ok_iff.mpr hknown]
    rfl

end

/-! ## Load -/

namespace Load

variable {v : View} {s : Settings} {window : String}

theorem request_eq (args : List String) : request args =
    (settings.read args).2 >>= fun rest => windows rest >>= fun given =>
      .ok ((settings.read args).1, given) := rfl

theorem measured?_of_duration (hcount : v.history.length < UInt32.size) {duration : Duration}
    (hread : Duration.read window = .ok duration) : measured? v s window =
      .ok ((v.history.average? v.now duration).map (entry s window)) := by
  have hcountable : v.history.isCountable v.now duration = true :=
    decide_eq_true (Nat.lt_of_le_of_lt (List.length_filter_le _ _) hcount)
  rw [measured?, readWindow, hread]
  exact if_pos hcountable

theorem measured?_of_fault {fault : Duration.Fault} (hread : Duration.read window = .error fault) :
    measured? v s window =
      .error (.failed (.argument ("time=" ++ window ++ ": " ++ fault.message))) := by
  rw [measured?, readWindow, hread]
  rfl

theorem measured?_ne_aborted (hcount : v.history.length < UInt32.size) (s : Settings)
    (window : String) (cause : Abort) : measured? v s window ≠ .error (.aborted cause) := by
  cases hread : Duration.read window with
  | error fault =>
      rw [measured?_of_fault hread]
      exact nofun
  | ok duration =>
      rw [measured?_of_duration hcount hread]
      exact nofun

theorem check_ne_aborted (hcount : v.history.length < UInt32.size) (args : List String)
    (cause : Abort) : check v args ≠ .aborted cause := by
  rw [check]
  cases request args with
  | error failure => exact nofun
  | ok request =>
      obtain ⟨s, windows⟩ := request
      intro h
      cases hentries : windows.mapM (measured? v s) with
      | error outcome =>
          simp only [hentries] at h
          obtain ⟨window, -, hwindow⟩ := exists_of_mapM_eq_error hentries
          exact measured?_ne_aborted hcount s window cause (h ▸ hwindow)
      | ok entries =>
          simp only [hentries] at h
          cases h

end Load

/-! ## Memory -/

namespace Memory

/-- The sums of memory and swap space do not both fit in a word. -/
def IsTooLarge (host : Host.Snapshot) : Prop :=
  UInt64.size ≤ host.memoryUsed.toNat + host.swapUsed.toNat ∨
    UInt64.size ≤ host.memoryTotal.toNat + host.swapTotal.toNat

theorem usage_committed_of_isTooLarge {host : Host.Snapshot} (h : IsTooLarge host) :
    usage host .committed = .error .sizeOverflow := by
  rw [usage, sum?, sum?]
  rcases h with hused | htotal
  · rw [if_neg (Nat.not_lt.mpr hused)]
    rfl
  · rw [if_neg (Nat.not_lt.mpr htotal)]
    split <;> rfl

theorem usage_committed_of_not_isTooLarge {host : Host.Snapshot} (h : ¬IsTooLarge host) :
    ∃ sizes, usage host .committed = .ok sizes := by
  rw [IsTooLarge, not_or, Nat.not_le, Nat.not_le] at h
  rw [usage, sum?, sum?, if_pos h.1, if_pos h.2]
  exact ⟨_, rfl⟩

theorem present?_eq_error_iff {host : Host.Snapshot} {s : Settings} {kind : Kind} {cause : Abort} :
    present? host s kind = .error cause ↔
      kind = .committed ∧ IsTooLarge host ∧ cause = .sizeOverflow := by
  rw [present?]
  cases kind with
  | physical => exact ⟨nofun, nofun⟩
  | committed =>
      by_cases hlarge : IsTooLarge host
      · rw [usage_committed_of_isTooLarge hlarge]
        exact ⟨fun h => ⟨rfl, hlarge, (Except.error.inj h).symm⟩, fun ⟨_, _, h⟩ => h ▸ rfl⟩
      · obtain ⟨sizes, hsizes⟩ := usage_committed_of_not_isTooLarge hlarge
        rw [hsizes]
        exact ⟨nofun, fun h => absurd h.2.1 hlarge⟩

theorem mapM_present?_eq_error_iff {host : Host.Snapshot} {s : Settings} {kinds : List Kind}
    {cause : Abort} :
    kinds.mapM (present? host s) = .error cause ↔
      .committed ∈ kinds ∧ IsTooLarge host ∧ cause = .sizeOverflow := by
  constructor
  · intro h
    obtain ⟨kind, hmem, hkind⟩ := exists_of_mapM_eq_error h
    obtain ⟨rfl, hlarge, rfl⟩ := present?_eq_error_iff.mp hkind
    exact ⟨hmem, hlarge, rfl⟩
  · rintro ⟨hmem, hlarge, rfl⟩
    cases h : kinds.mapM (present? host s) with
    | ok entries =>
        obtain ⟨entry, hentry⟩ := forall_of_mapM_eq_ok h _ hmem
        have hcommitted := (present?_eq_error_iff (s := s)).mpr ⟨rfl, hlarge, rfl⟩
        cases hcommitted.symm.trans hentry
    | error cause =>
        obtain ⟨kind, -, hkind⟩ := exists_of_mapM_eq_error h
        obtain ⟨-, -, rfl⟩ := present?_eq_error_iff.mp hkind
        rfl

/-- The argument names a kind. -/
def IsKind (a : Argument) : Prop :=
  a.key = "type" ∧ (a.value = "physical" ∨ a.value = "committed")

/-- All kinds are asked for, or the committed memory by its name. -/
def AsksForCommitted (args : List Argument) : Prop :=
  args = [] ∨ ∃ a ∈ args, a.value = "committed"

/-- The kind that such an argument names. -/
def kindOf (a : Argument) : Kind :=
  if a.value = "committed" then .committed else .physical

theorem read_of_isKind {a : Argument} (h : IsKind a) : Kind.read a = .ok (kindOf a) := by
  obtain ⟨key, value⟩ := a
  obtain ⟨rfl, rfl | rfl⟩ := h <;> rfl

theorem isKind_of_read {a : Argument} {kind : Kind} (h : Kind.read a = .ok kind) : IsKind a := by
  rw [Kind.read] at h
  split at h
  next hkey =>
    split at h
    next hvalue => exact ⟨hkey, .inl hvalue⟩
    next hvalue => exact ⟨hkey, .inr hvalue⟩
    next => cases h
  next => cases h

theorem kinds_of_isKind {args : List Argument} (h : ∀ a ∈ args, IsKind a) :
    ∃ ks, kinds args = .ok ks ∧ (.committed ∈ ks ↔ AsksForCommitted args) := by
  rw [kinds, mapM_eq_ok_of_forall fun a ha => read_of_isKind (h a ha)]
  refine ⟨_, rfl, ?_⟩
  cases args with
  | nil => simp [AsksForCommitted]
  | cons a args => simp [AsksForCommitted, kindOf, eq_comm]

theorem isKind_of_kinds {args : List Argument} {ks : List Kind} (h : kinds args = .ok ks) :
    ∀ a ∈ args, IsKind a := by
  rw [kinds, bind_eq_ok_iff] at h
  obtain ⟨given, hgiven, -⟩ := h
  intro a ha
  obtain ⟨kind, hkind⟩ := forall_of_mapM_eq_ok hgiven a ha
  exact isKind_of_read hkind

/-- The arguments can be read, and what is left of them names kinds. -/
structure Accepts (args : List String) : Prop where
  readable : ∀ raw ∈ args, (Argument.read raw).IsReadable
  kinds : ∀ a ∈ Argument.leftOver args, IsKind a

theorem request_of_accepts {v : View} {args : List String} (h : Accepts args)
    (hcollected : v.host.collectedAt ≠ 0) :
    ∃ s ks, request v args = .ok (s, ks) ∧
      (.committed ∈ ks ↔ AsksForCommitted (Argument.leftOver args)) := by
  obtain ⟨ks, hkinds, hcommitted⟩ := kinds_of_isKind h.kinds
  exact ⟨(settings.read args).1, ks,
    requested_eq_ok_iff.mpr ⟨h.readable, hcollected, ks, hkinds, rfl⟩, hcommitted⟩

theorem accepts_of_request {v : View} {args : List String} {s : Settings} {ks : List Kind}
    (h : request v args = .ok (s, ks)) : Accepts args ∧ v.host.collectedAt ≠ 0 := by
  obtain ⟨hreadable, hcollected, given, hgiven, -⟩ := requested_eq_ok_iff.mp h
  exact ⟨⟨hreadable, isKind_of_kinds hgiven⟩, hcollected⟩

/-- The arguments are accepted, the host is collected, and the sums of which they ask for the share
are too large. -/
structure Overflows (v : View) (args : List String) : Prop where
  accepts : Accepts args
  collected : v.host.collectedAt ≠ 0
  committed : AsksForCommitted (Argument.leftOver args)
  tooLarge : IsTooLarge v.host.snapshot

theorem check_eq_aborted_iff {v : View} {args : List String} {cause : Abort} :
    check v args = .aborted cause ↔ cause = .sizeOverflow ∧ Overflows v args := by
  rw [check]
  constructor
  · intro h
    cases hrequest : request v args with
    | error failure =>
        rw [hrequest] at h
        cases h
    | ok found =>
        obtain ⟨s, ks⟩ := found
        obtain ⟨haccepts, hcollected⟩ := accepts_of_request hrequest
        obtain ⟨s', ks', hrequest', hcommitted⟩ := request_of_accepts haccepts hcollected
        obtain ⟨rfl, rfl⟩ := Prod.mk.inj (Except.ok.inj (hrequest.symm.trans hrequest'))
        simp only [hrequest] at h
        cases hentries : ks.mapM (present? v.host.snapshot s) with
        | ok entries =>
            simp only [hentries] at h
            cases h
        | error cause' =>
            simp only [hentries] at h
            obtain rfl := Outcome.aborted.inj h
            obtain ⟨hmem, hlarge, rfl⟩ := mapM_present?_eq_error_iff.mp hentries
            exact ⟨rfl, haccepts, hcollected, hcommitted.mp hmem, hlarge⟩
  · rintro ⟨rfl, haccepts, hcollected, hasks, hlarge⟩
    obtain ⟨s, ks, hrequest, hcommitted⟩ := request_of_accepts haccepts hcollected
    have hentries : ks.mapM (present? v.host.snapshot s) = .error .sizeOverflow :=
      mapM_present?_eq_error_iff.mpr ⟨hcommitted.mpr hasks, hlarge, rfl⟩
    simp only [hrequest, hentries]

end Memory

/-! ## Uptime -/

namespace Uptime

/-- The arguments can be read, and none of them is left. -/
structure Accepts (args : List String) : Prop where
  readable : ∀ raw ∈ args, (Argument.read raw).IsReadable
  leftOver : Argument.leftOver args = []

theorem request_eq_ok_iff {v : View} {args : List String} {s : Settings} :
    request v args = .ok s ↔
      s = (settings.read args).1 ∧ Accepts args ∧ v.host.collectedAt ≠ 0 := by
  have hnone : (∀ a ∈ Argument.leftOver args, a.key ∈ []) ↔ Argument.leftOver args = [] := by
    simp only [List.not_mem_nil, List.eq_nil_iff_forall_not_mem]
  constructor
  · intro h
    obtain ⟨hreadable, hcollected, ⟨⟩, hrefuse, rfl⟩ := requested_eq_ok_iff.mp h
    exact ⟨rfl, ⟨hreadable, hnone.mp (refuseOthers_eq_ok_iff.mp hrefuse)⟩, hcollected⟩
  · rintro ⟨rfl, haccepts, hcollected⟩
    have hrefuse := refuseOthers_eq_ok_iff.mpr (hnone.mpr haccepts.leftOver)
    exact requested_eq_ok_iff.mpr ⟨haccepts.readable, hcollected, (), hrefuse, rfl⟩

/-- The arguments are accepted, the host is collected, and it was booted after the year 9999. -/
structure Overflows (v : View) (args : List String) : Prop where
  accepts : Accepts args
  collected : v.host.collectedAt ≠ 0
  tooLate : 253402300800 ≤ v.host.snapshot.bootTime.toNat

theorem stamp?_eq_none_iff {seconds : Nat} :
    Calendar.stamp? seconds = none ↔ 253402300800 ≤ seconds := by
  rw [Calendar.stamp?, Calendar.endOfTime]
  split <;> simp <;> omega

theorem check_eq_aborted_iff {v : View} {args : List String} {cause : Abort} :
    check v args = .aborted cause ↔ cause = .dateOverflow ∧ Overflows v args := by
  rw [check]
  constructor
  · intro h
    cases hrequest : request v args with
    | error failure =>
        rw [hrequest] at h
        cases h
    | ok s =>
        obtain ⟨-, haccepts, hcollected⟩ := request_eq_ok_iff.mp hrequest
        simp only [hrequest] at h
        cases hstamp : Calendar.stamp? v.host.snapshot.bootTime.toNat with
        | some boot =>
            simp only [hstamp] at h
            cases h
        | none =>
            simp only [hstamp] at h
            obtain rfl := Outcome.aborted.inj h
            exact ⟨rfl, haccepts, hcollected, stamp?_eq_none_iff.mp hstamp⟩
  · rintro ⟨rfl, haccepts, hcollected, hlate⟩
    have hrequest : request v args = .ok (settings.read args).1 :=
      request_eq_ok_iff.mpr ⟨rfl, haccepts, hcollected⟩
    simp only [hrequest, stamp?_eq_none_iff.mpr hlate]

end Uptime

/-! ## All standard checks -/

theorem mem_standard {name : String} {probe : Probe} (h : standard.find? name = some probe) :
    (name, probe) ∈ standard.entries := by
  obtain ⟨before, after, hentries, -⟩ := List.lookup_eq_some_iff.mp h
  rw [hentries]
  exact List.mem_append_right before List.mem_cons_self

/-- The two cases in which a standard check is broken off. -/
def AbortsWith (v : View) (name : String) (args : List String) : Abort → Prop
  | .sizeOverflow => name = "check_memory" ∧ Memory.Overflows v args
  | .dateOverflow => name = "check_uptime" ∧ Uptime.Overflows v args
  | .countOverflow => False

theorem not_abortsWith {v : View} {name : String} (hmemory : name ≠ "check_memory")
    (huptime : name ≠ "check_uptime") (args : List String) (cause : Abort) :
    ¬AbortsWith v name args cause := by
  cases cause with
  | sizeOverflow => exact fun h => hmemory h.1
  | dateOverflow => exact fun h => huptime h.1
  | countOverflow => exact id

theorem standard_aborted_iff {v : View} (hcount : v.history.length < UInt32.size) {name : String}
    {probe : Probe} (h : standard.find? name = some probe) (args : List String) (cause : Abort) :
    (probe args).run v = .aborted cause ↔ AbortsWith v name args cause := by
  have hplain {x : Except Failure Check.Result} {name : String} (hmemory : name ≠ "check_memory")
      (huptime : name ≠ "check_uptime") :
      Outcome.ofExcept x = .aborted cause ↔ AbortsWith v name args cause :=
    iff_of_false (ofExcept_ne_aborted x cause) (not_abortsWith hmemory huptime args cause)
  have hmem := mem_standard h
  simp only [standard, List.mem_cons, Prod.mk.injEq, List.not_mem_nil, or_false] at hmem
  rcases hmem with ⟨rfl, rfl⟩ | ⟨rfl, rfl⟩ | ⟨rfl, rfl⟩ | ⟨rfl, rfl⟩ | ⟨rfl, rfl⟩ | ⟨rfl, rfl⟩ |
    ⟨rfl, rfl⟩
  · exact iff_of_false (Load.check_ne_aborted hcount args cause)
      (not_abortsWith (by decide) (by decide) args cause)
  · exact hplain (by decide) (by decide)
  · exact hplain (by decide) (by decide)
  · refine Memory.check_eq_aborted_iff.trans ?_
    cases cause <;> simp [AbortsWith]
  · exact hplain (by decide) (by decide)
  · exact hplain (by decide) (by decide)
  · refine Uptime.check_eq_aborted_iff.trans ?_
    cases cause <;> simp [AbortsWith]

theorem run_standard_eq_error_iff {v : View} (hcount : v.history.length < UInt32.size)
    (name : String) (args : List String) (cause : Abort) :
    (standard.run name args).run v = .error cause ↔ AbortsWith v name args cause := by
  have hrun : (standard.run name args).run v =
      match standard.find? name with
      | none => .ok (Check.Registry.noSuchCheck name)
      | some probe => ((probe args).run v).settle := by
    rw [Check.Registry.run]
    cases standard.find? name <;> rfl
  rw [hrun]
  cases hprobe : standard.find? name with
  | some probe => exact settle_eq_error_iff.trans (standard_aborted_iff hcount hprobe args cause)
  | none =>
      refine iff_of_false nofun (not_abortsWith ?_ ?_ args cause)
      · rintro rfl
        cases hprobe
      · rintro rfl
        cases hprobe

/-- With fewer samples than a word of 32 bits counts, a standard check has a result but for two
cases: the memory check of sizes that are too large together, and the uptime check of a boot time
after the year 9999, each with arguments that it accepts and of a collected host. -/
theorem run_standard_aborts (v : View) (hcount : v.history.length < UInt32.size) (name : String)
    (args : List String) :
    let result := (standard.run name args).run v
    let sizes := name = "check_memory" ∧ Memory.Overflows v args
    let date := name = "check_uptime" ∧ Uptime.Overflows v args
    ((∃ r, result = .ok r) ↔ ¬sizes ∧ ¬date) ∧
    (result = .error .sizeOverflow ↔ sizes) ∧ (result = .error .dateOverflow ↔ date) := by
  intro result sizes date
  have hresult := run_standard_eq_error_iff hcount name args
  refine ⟨⟨?_, ?_⟩, hresult .sizeOverflow, hresult .dateOverflow⟩
  · rintro ⟨r, hr⟩
    refine ⟨fun h => ?_, fun h => ?_⟩
    · cases hr.symm.trans ((hresult .sizeOverflow).mpr h)
    · cases hr.symm.trans ((hresult .dateOverflow).mpr h)
  · rintro ⟨hsizes, hdate⟩
    cases hr : result with
    | ok r => exact ⟨r, rfl⟩
    | error cause =>
        have h := (hresult cause).mp hr
        cases cause with
        | sizeOverflow => exact absurd h hsizes
        | dateOverflow => exact absurd h hdate
        | countOverflow => exact h.elim

/-- The used memory fills a word, and one byte of swap space is used: the physical memory is still
checked. -/
theorem run_standard_aborts_full :
    let v : View :=
      ⟨{ startedAt := 0, collectedAt := 1
         snapshot := { memoryUsed := 18446744073709551615, swapUsed := 1 } }, {}, 0⟩
    v.history.length < UInt32.size ∧
    (standard.run "check_memory" ["type=committed"]).run v = .error .sizeOverflow ∧
    ∃ r, (standard.run "check_memory" ["type=physical"]).run v = .ok r := by
  intro v
  have hcount : v.history.length < UInt32.size := by decide
  have hcommitted : Argument.leftOver ["type=committed"] = [⟨"type", "committed"⟩] := by decide
  have hphysical : Argument.leftOver ["type=physical"] = [⟨"type", "physical"⟩] := by decide
  have hread : Argument.read "type=committed" = ⟨"type", "committed"⟩ := by decide
  obtain ⟨-, hsizes, -⟩ := run_standard_aborts v hcount "check_memory" ["type=committed"]
  obtain ⟨hresult, -, -⟩ := run_standard_aborts v hcount "check_memory" ["type=physical"]
  refine ⟨hcount, hsizes.mpr ⟨rfl, ⟨?_, ?_⟩, by decide, ?_, .inl (by decide)⟩,
    hresult.mpr ⟨?_, by simp⟩⟩
  · simp [hread, Argument.IsReadable]
  · simp [hcommitted, Memory.IsKind]
  · simp [hcommitted, Memory.AsksForCommitted]
  · rintro ⟨-, h⟩
    simpa [hphysical, Memory.AsksForCommitted] using h.committed

end Probe
end MonitorAgent
