import MonitorAgent.Check.Tally
import Mathlib.Data.List.Perm.Basic

/-!
# The report of a tally

A tally of items has the line of each item in the list of the item's state, in the
order in which the items came.  Its state is the worst of theirs, whatever their
order is, and its report is a template filled with these lists and what else is said
of the whole.
-/

namespace MonitorAgent
namespace Fields

/-- The fields say this of some names, and of all others what `others` says. -/
structure Overrides (fields own others : Fields) : Prop where
  mem_own : ∀ p ∈ own, fields.lookup p.1 = some p.2
  notMem_own : ∀ name, name ∉ own.map Prod.fst → fields.lookup name = others.lookup name

theorem Overrides.lookup_eq {f g own others : Fields} (hf : Overrides f own others)
    (hg : Overrides g own others) (name : String) : f.lookup name = g.lookup name := by
  by_cases hname : name ∈ own.map Prod.fst
  · obtain ⟨p, hp, rfl⟩ := List.mem_map.mp hname
    rw [hf.mem_own p hp, hg.mem_own p hp]
  · rw [hf.notMem_own name hname, hg.notMem_own name hname]

theorem lookup_eq_none {own : Fields} {name : String} (h : name ∉ own.map Prod.fst) :
    own.lookup name = none := by
  rw [List.lookup_eq_none_iff]
  intro p hp
  rw [bne_iff_ne]
  rintro rfl
  exact h (List.mem_map_of_mem hp)

theorem lookup_of_mem {own : Fields} (hnodup : (own.map Prod.fst).Nodup) {p : String × String}
    (hp : p ∈ own) : own.lookup p.1 = some p.2 := by
  induction own with
  | nil => cases hp
  | cons first own ih =>
      rw [List.map_cons, List.nodup_cons] at hnodup
      rcases List.mem_cons.mp hp with rfl | hmem
      · exact List.lookup_cons_self
      · have hne : p.1 ≠ first.1 := by
          intro heq
          exact hnodup.1 (heq ▸ List.mem_map_of_mem hmem)
        rw [List.lookup_cons, beq_false_of_ne hne]
        exact ih hnodup.2 hmem

theorem overrides_override {own : Fields} (hnodup : (own.map Prod.fst).Nodup) (others : Fields) :
    Overrides (own.override others) own others := by
  constructor
  · intro p hp
    rw [override, List.lookup_append, lookup_of_mem hnodup hp]
    rfl
  · intro name hname
    rw [override, List.lookup_append, lookup_eq_none hname]
    rfl

end Fields

namespace Check
namespace Template

theorem fill_marker {fields : Fields} {mark bracket : Char} {s name rest : List Char}
    (h : marker? mark bracket s = some (name, rest)) :
    fill fields (mark :: bracket :: s) = filled fields name ++ fill fields rest := by
  rw [fill]
  split <;> simp_all

theorem fill_plain {fields : Fields} {mark bracket : Char} {s : List Char}
    (h : marker? mark bracket s = none) :
    fill fields (mark :: bracket :: s) = mark :: fill fields (bracket :: s) := by
  rw [fill]
  split <;> simp_all

theorem fill_congr {f g : Fields} (h : ∀ name, f.lookup name = g.lookup name) (s : List Char) :
    fill f s = fill g s := by
  have hfilled (name : List Char) : filled f name = filled g name := by
    rw [filled, filled, Fields.text, Fields.text, h]
  fun_induction fill f s with
  | case1 mark bracket s name rest hmarker ih => rw [fill_marker hmarker, hfilled, ih]
  | case2 mark bracket s hmarker ih => rw [fill_plain hmarker, ih]
  | case3 c => simp [fill]
  | case4 => simp

theorem render_congr {f g : Fields} (h : ∀ name, f.lookup name = g.lookup name)
    (template : String) : render template f = render template g := by
  rw [render, render, fill_congr h]

end Template

namespace State

/-! ## The worst state -/

/-- The state is that of the worst of some items, and a good one if there are none. -/
structure IsWorst (states : List State) (worst : State) : Prop where
  bound : ∀ state ∈ states, state.code ≤ worst.code
  attained : worst = .ok ∨ worst ∈ states

theorem code_le_worse_left (a b : State) : a.code ≤ (a.worse b).code := by
  cases a <;> cases b <;> decide

theorem code_le_worse_right (a b : State) : b.code ≤ (a.worse b).code := by
  cases a <;> cases b <;> decide

theorem worse_eq_or (a b : State) : a.worse b = a ∨ a.worse b = b := by
  cases a <;> cases b <;> decide

theorem isWorst_nil : IsWorst [] .ok where
  bound := nofun
  attained := .inl rfl

theorem IsWorst.append_singleton {states : List State} {worst : State} (h : IsWorst states worst)
    (state : State) : IsWorst (states ++ [state]) (worst.worse state) := by
  constructor
  · intro other hother
    rcases List.mem_append.mp hother with hother | hother
    · exact UInt16.le_trans (h.bound other hother) (code_le_worse_left worst state)
    · rw [List.mem_singleton.mp hother]
      exact code_le_worse_right worst state
  · rcases worse_eq_or worst state with heq | heq
    · rw [heq]
      exact h.attained.imp_right (List.mem_append_left _)
    · rw [heq]
      exact .inr (List.mem_append_right _ (List.mem_singleton_self state))

theorem IsWorst.unique {states : List State} {a b : State} (ha : IsWorst states a)
    (hb : IsWorst states b) : a = b := by
  have hle {a b : State} (ha : IsWorst states a) (hb : IsWorst states b) : a.code ≤ b.code := by
    rcases ha.attained with rfl | hmem
    · exact UInt16.zero_le
    · exact hb.bound a hmem
  exact code_injective (UInt16.le_antisymm (hle ha hb) (hle hb ha))

theorem IsWorst.perm {a b : List State} {worst : State} (h : IsWorst a worst) (hperm : a.Perm b) :
    IsWorst b worst where
  bound := fun state hmem => h.bound state (hperm.mem_iff.mpr hmem)
  attained := h.attained.imp_right hperm.mem_iff.mp

end State

namespace Tally

/-! ## What an item adds -/

variable (s : Settings)

/-- The lines of a state.  No item is of unknown state. -/
def linesOf (t : Tally) : State → List String
  | .ok => t.ok
  | .warning => t.warning
  | .critical => t.critical
  | .unknown => []

theorem linesOf_add (t : Tally) (item : Fields) (state : State) :
    (t.add s item).linesOf state =
      t.linesOf state ++
        if s.classify item = state then [Template.render s.detail item] else [] := by
  have hknown : s.classify item ≠ .unknown := by
    unfold Settings.classify
    split
    · decide
    split <;> decide
  rw [add]
  cases hclass : s.classify item <;> cases state <;> simp_all [linesOf]

theorem count_add (t : Tally) (item : Fields) : (t.add s item).count = t.count + 1 := by
  rw [add]
  split <;> simp [count] <;> omega

theorem state_add (t : Tally) (item : Fields) :
    (t.add s item).state = t.state.worse (s.classify item) := by
  obtain ⟨ok, warning, critical⟩ := t
  rw [add, Settings.classify]
  by_cases hcritical : s.critical.isMet item = true
  · cases critical <;> cases warning <;> simp [hcritical, state, State.worse, State.code]
  · by_cases hwarning : s.warning.isMet item = true <;> cases critical <;> cases warning <;>
      simp [hcritical, hwarning, state, State.worse, State.code]

theorem lines_add_perm (t : Tally) (item : Fields) :
    (t.add s item).lines.Perm (Template.render s.detail item :: t.lines) := by
  rw [add]
  split
  · simp only [lines, List.append_assoc, List.singleton_append]
    exact List.perm_middle
  · simp only [lines, ← List.append_assoc]
    exact (List.perm_append_singleton _ _).append_right t.ok
  · simp only [lines, ← List.append_assoc]
    exact List.perm_append_singleton _ _

/-! ## What all items add -/

theorem linesOf_foldl (t : Tally) (items : List Fields) (state : State) :
    (items.foldl (fun t item => t.add s item) t).linesOf state =
      t.linesOf state ++
        (items.filter (s.classify · = state)).map (Template.render s.detail) := by
  induction items generalizing t with
  | nil => simp
  | cons item items ih =>
      rw [List.foldl_cons, ih, linesOf_add, List.append_assoc, List.filter_cons]
      by_cases hstate : s.classify item = state <;> simp [hstate]

theorem count_foldl (t : Tally) (items : List Fields) :
    (items.foldl (fun t item => t.add s item) t).count = t.count + items.length := by
  induction items generalizing t with
  | nil => rfl
  | cons item items ih => rw [List.foldl_cons, ih, count_add, List.length_cons]; omega

theorem lines_foldl_perm (t : Tally) (items : List Fields) :
    (items.foldl (fun t item => t.add s item) t).lines.Perm
      (items.map (Template.render s.detail) ++ t.lines) := by
  induction items generalizing t with
  | nil => exact .refl _
  | cons item items ih =>
      have hadd := (lines_add_perm s t item).append_left (items.map (Template.render s.detail))
      exact (ih (t.add s item)).trans (hadd.trans List.perm_middle)

theorem isWorst_foldl (t : Tally) (items : List Fields) (states : List State)
    (h : State.IsWorst states t.state) :
    State.IsWorst (states ++ items.map s.classify)
      (items.foldl (fun t item => t.add s item) t).state := by
  induction items generalizing t states with
  | nil => simpa using h
  | cons item items ih =>
      have hadd : State.IsWorst (states ++ [s.classify item]) (t.add s item).state := by
        rw [state_add]
        exact h.append_singleton (s.classify item)
      simpa using ih (t.add s item) (states ++ [s.classify item]) hadd

/-! ## The report -/

/-- The lines of the items of a state, in the order of the items. -/
def detailLines (items : List Fields) (state : State) : List String :=
  (items.filter (s.classify · = state)).map (Template.render s.detail)

theorem linesOf_ofItems (items : List Fields) (state : State) :
    (ofItems s items).linesOf state = detailLines s items state := by
  have hlines := linesOf_foldl s {} items state
  cases state <;> exact hlines

theorem count_ofItems (items : List Fields) : (ofItems s items).count = items.length := by
  rw [ofItems, count_foldl]
  exact Nat.zero_add _

theorem count_ofItems_ne_zero {items : List Fields} (hne : items ≠ []) :
    (ofItems s items).count ≠ 0 := by
  rw [count_ofItems]
  exact mt List.eq_nil_of_length_eq_zero hne

theorem isWorst_ofItems (items : List Fields) :
    State.IsWorst (items.map s.classify) (ofItems s items).state :=
  isWorst_foldl s {} items [] State.isWorst_nil

theorem detailLines_perm (items : List Fields) :
    (detailLines s items .critical ++ detailLines s items .warning ++
      detailLines s items .ok).Perm (items.map (Template.render s.detail)) := by
  have hlines : (ofItems s items).lines.Perm (items.map (Template.render s.detail) ++ []) :=
    lines_foldl_perm s {} items
  rw [List.append_nil] at hlines
  rw [← linesOf_ofItems, ← linesOf_ofItems, ← linesOf_ofItems]
  exact hlines

theorem state_ofItems_perm {a b : List Fields} (h : a.Perm b) :
    (ofItems s a).state = (ofItems s b).state :=
  (isWorst_ofItems s a).unique ((isWorst_ofItems s b).perm (h.map s.classify).symm)

theorem summary_ofItems (items : List Fields) :
    let ok := detailLines s items .ok
    let warning := detailLines s items .warning
    let critical := detailLines s items .critical
    (ofItems s items).summary =
      [("status", (ofItems s items).state.name), ("count", toString items.length),
       ("ok_list", ", ".intercalate ok), ("warn_list", ", ".intercalate warning),
       ("crit_list", ", ".intercalate critical),
       ("problem_list", ", ".intercalate (critical ++ warning)),
       ("list", ", ".intercalate (critical ++ warning ++ ok))] := by
  intro ok warning critical
  rw [summary, count_ofItems]
  have hok : (ofItems s items).ok = ok := linesOf_ofItems s items .ok
  have hwarning : (ofItems s items).warning = warning := linesOf_ofItems s items .warning
  have hcritical : (ofItems s items).critical = critical := linesOf_ofItems s items .critical
  simp only [problems, lines, listed, hok, hwarning, hcritical]

theorem nodup_summary (t : Tally) : (t.summary.map Prod.fst).Nodup := by
  have hnames : t.summary.map Prod.fst =
      ["status", "count", "ok_list", "warn_list", "crit_list", "problem_list", "list"] := rfl
  rw [hnames]
  decide

theorem nodup_emptySummary : ((emptySummary s).map Prod.fst).Nodup := by
  have hnames : (emptySummary s).map Prod.fst = ["status", "count"] := rfl
  rw [hnames]
  decide

theorem finish_eq_of_overrides {t : Tally} {extra fields : Fields} (hcount : t.count ≠ 0)
    (hfields : Fields.Overrides fields t.summary extra) :
    t.finish s extra =
      (t.state, Template.render (if t.state = .ok then s.ok else s.top) fields) := by
  have hsummary : Fields.Overrides (t.summary.override extra) t.summary extra :=
    Fields.overrides_override (nodup_summary t) extra
  rw [finish, if_neg hcount, Template.render_congr (hfields.lookup_eq hsummary)]

theorem finish_eq_of_overrides_empty {t : Tally} {extra fields : Fields} (hcount : t.count = 0)
    (hfields : Fields.Overrides fields (emptySummary s) extra) :
    t.finish s extra = (s.emptyState, Template.render s.empty fields) := by
  have hsummary : Fields.Overrides ((emptySummary s).override extra) (emptySummary s) extra :=
    Fields.overrides_override (nodup_emptySummary s) extra
  rw [finish, if_pos hcount, Template.render_congr (hfields.lookup_eq hsummary)]

/-- All items are counted, and the state is that of the worst of them, in whatever order they are
added.  Each item has its line in one list of three, in the order of the items, and the template is
filled with these lists. -/
theorem finish_ofItems (items : List Fields) (extra : Fields) :
    let t := ofItems s items
    let ok := detailLines s items .ok
    let warning := detailLines s items .warning
    let critical := detailLines s items .critical
    t.count = items.length ∧
    State.IsWorst (items.map s.classify) t.state ∧
    (∀ item, (s.classify item = .critical ↔ s.critical.isMet item = true) ∧
      (s.classify item = .warning ↔ s.critical.isMet item = false ∧ s.warning.isMet item = true) ∧
      (s.classify item = .ok ↔ s.critical.isMet item = false ∧ s.warning.isMet item = false)) ∧
    (∀ others : List Fields, others.Perm items →
      (ofItems s others).count = t.count ∧ (ofItems s others).state = t.state) ∧
    (critical ++ warning ++ ok).Perm (items.map (Template.render s.detail)) ∧
    (items = [] → ∀ fields,
      Fields.Overrides fields [("status", s.emptyState.name), ("count", "0")] extra →
      t.finish s extra = (s.emptyState, Template.render s.empty fields)) ∧
    (items ≠ [] → ∀ fields,
      Fields.Overrides fields
        [("status", t.state.name), ("count", toString items.length),
         ("ok_list", ", ".intercalate ok), ("warn_list", ", ".intercalate warning),
         ("crit_list", ", ".intercalate critical),
         ("problem_list", ", ".intercalate (critical ++ warning)),
         ("list", ", ".intercalate (critical ++ warning ++ ok))] extra →
      t.finish s extra =
        (t.state, Template.render (if t.state = .ok then s.ok else s.top) fields)) := by
  intro t ok warning critical
  refine ⟨count_ofItems s items, isWorst_ofItems s items, fun item => ?_, fun others hperm => ?_,
    detailLines_perm s items, fun hnil fields hfields => ?_, fun hne fields hfields => ?_⟩
  · rw [Settings.classify]
    cases s.critical.isMet item <;> cases s.warning.isMet item <;> decide
  · rw [count_ofItems, hperm.length_eq, count_ofItems]
    exact ⟨rfl, state_ofItems_perm s hperm⟩
  · apply finish_eq_of_overrides_empty s _ hfields
    rw [count_ofItems, hnil, List.length_nil]
  · apply finish_eq_of_overrides s
    · rw [count_ofItems]
      exact mt List.eq_nil_of_length_eq_zero hne
    · rw [summary_ofItems]
      exact hfields

/-- Three items of three states; of the further fields only the state is overridden. -/
theorem finish_ofItems_three :
    let s : Settings :=
      { warning := ⟨"is", .equal, "slow", ""⟩, critical := ⟨"is", .equal, "down", ""⟩
        detail := "%(name)", top := "%(status) %(count) [%(list)] %(host)" }
    let items : List Fields :=
      [[("name", "a"), ("is", "up")], [("name", "b"), ("is", "slow")],
       [("name", "c"), ("is", "down")]]
    let extra : Fields := [("host", "web"), ("status", "hidden")]
    let own : Fields :=
      [("status", "CRITICAL"), ("count", "3"), ("ok_list", "a"), ("warn_list", "b"),
       ("crit_list", "c"), ("problem_list", "c, b"), ("list", "c, b, a")]
    items ≠ [] ∧ Fields.Overrides (own.override extra) own extra ∧
    (ofItems s items).finish s extra = (.critical, "CRITICAL 3 [c, b, a] web") := by
  intro s items extra own
  have hne : items ≠ [] := by simp [items]
  have hown : (ofItems s items).summary = own := by decide +kernel
  have hfields : Fields.Overrides (own.override extra) own extra :=
    Fields.overrides_override (hown ▸ nodup_summary _) extra
  have htext : Template.render s.top (own.override extra) = "CRITICAL 3 [c, b, a] web" := by
    decide +kernel
  have hstate : (ofItems s items).state = .critical := by decide +kernel
  obtain ⟨-, -, -, -, -, -, hfinish⟩ := finish_ofItems s items extra
  rw [← summary_ofItems, hown] at hfinish
  rw [hfinish hne _ hfields, hstate, ← htext]
  exact ⟨hne, hfields, rfl⟩

end Tally
end Check
end MonitorAgent
