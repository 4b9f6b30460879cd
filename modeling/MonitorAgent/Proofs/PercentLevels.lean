import MonitorAgent.Proofs.ProbeAborts
import MonitorAgent.Proofs.ThresholdDisplay
import Mathlib.Data.List.Forall2

/-!
# Levels of the load in percent

A percent sign behind the text of a threshold stays behind its value: the reader finds the
same name and the same operator, as the sign begins no word and ends none.  A number becomes a
number in percent, and the name gets the mark of such.  The load probe tells the same number
under both names, so it makes no difference to its result which of the two is asked for.
-/

namespace MonitorAgent

variable {s : List Char} {name : String}

/-! ## The end of a text -/

namespace Text

variable {p : Char → Bool} {c : Char}

theorem takeWhile_concat (h : p c = false) (s : List Char) :
    (s ++ [c]).takeWhile p = s.takeWhile p := by
  induction s with
  | nil => simp [h]
  | cons x s ih => cases hx : p x <;> simp [hx, ih]

theorem dropWhile_concat (h : p c = false) (s : List Char) :
    (s ++ [c]).dropWhile p = s.dropWhile p ++ [c] := by
  induction s with
  | nil => simp [h]
  | cons x s ih => cases hx : p x <;> simp [hx, ih]

theorem trim_trim (s : List Char) : trim (trim s) = trim s := by
  have hprefix : trim s <+: trimStart s := by
    rw [← List.reverse_suffix, trim, trimEnd, List.reverse_reverse]
    exact List.dropWhile_suffix isSpace
  apply trim_eq_self
  · intro c hc
    obtain ⟨behind, hbehind⟩ := hprefix
    apply stops_dropWhile isSpace s
    rw [← trimStart, ← hbehind, List.head?_append, Option.mem_def.mp hc]
    rfl
  · rw [trim, trimEnd, List.reverse_reverse]
    exact stops_dropWhile isSpace _

end Text

/-! ## A percent sign behind a text -/

namespace Threshold

open Grammar (IsNumber IsQuantity)

/-- What is found at the start, with a percent sign behind the rest. -/
def withPercentSign (found : List Char × List Char) : List Char × List Char :=
  (found.1, found.2 ++ ['%'])

theorem spells_percent {letter : Char} (h : letter.isAlpha = true) : spells letter '%' = false := by
  rw [spells_eq letter (by decide)]
  apply beq_false_of_ne
  rintro rfl
  cases h

theorem spelled?_percent {word : List Char} (hword : word.all Char.isAlpha = true) (s : List Char) :
    spelled? word (s ++ ['%']) = (spelled? word s).map withPercentSign := by
  induction word generalizing s with
  | nil => rfl
  | cons letter word ih =>
      obtain ⟨hletter, hword⟩ := (Bool.and_eq_true _ _).mp hword
      cases s with
      | nil =>
          simp only [List.nil_append, spelled?, spells_percent hletter, Bool.false_eq_true,
            if_false, Option.map_none]
      | cons c s =>
          rw [List.cons_append, spelled?, spelled?, ih hword]
          split
          · rw [Option.map_map, Option.map_map]
            rfl
          · rfl

theorem wordEnds_percent (s : List Char) : Text.wordEnds (s ++ ['%']) = Text.wordEnds s := by
  cases s with
  | nil => decide
  | cons c s => rfl

theorem word?_percent (word : List Char) (hword : word.all Char.isAlpha = true) (s : List Char) :
    word? word (s ++ ['%']) = (word? word s).map withPercentSign := by
  rw [word?, word?, spelled?_percent hword]
  cases spelled? word s with
  | none => rfl
  | some found =>
      simp only [Option.map_some, Option.filter_some, withPercentSign, wordEnds_percent]
      split
      · rfl
      · rfl

theorem notLike?_percent (s : List Char) :
    notLike? (s ++ ['%']) = (notLike? s).map withPercentSign := by
  rw [notLike?, notLike?, spelled?_percent (by decide)]
  cases spelled? ['n', 'o', 't'] s with
  | none => rfl
  | some found =>
      have hspace : Text.isSpace '%' = false := by decide
      have hlike := word?_percent ['l', 'i', 'k', 'e'] (by decide)
      simp only [Option.map_some, withPercentSign, Text.takeWhile_concat hspace,
        Text.dropWhile_concat hspace, hlike]
      split
      · rfl
      · rw [Option.map_map, Option.map_map]
        rfl

theorem wordOperator?_percent (s : List Char) :
    wordOperator? (s ++ ['%']) = (wordOperator? s).map withPercentSign := by
  have hnot := word?_percent "not".toList (by decide)
  have his := word?_percent "is".toList (by decide)
  have hlike := word?_percent "like".toList (by decide)
  simp only [wordOperator?_eq, singleWord?, notLike?_percent, hnot, his, hlike, Option.map_or]

theorem begins_percent (start : List Char) (hstart : '%' ∉ start)
    (h : ∀ after, s = start ++ after → False) (after : List Char) :
    s ++ ['%'] = start ++ after → False := by
  intro heq
  rcases List.prefix_concat_iff.mp ⟨after, heq.symm⟩ with rfl | ⟨rest, hrest⟩
  · exact hstart (List.mem_append_right s List.mem_cons_self)
  · exact h rest hrest.symm

theorem symbolOperator?_percent (s : List Char) :
    symbolOperator? (s ++ ['%']) = (symbolOperator? s).map withPercentSign := by
  fun_cases symbolOperator? s with
  | case1 | case2 | case3 | case4 => rfl
  | case5 after h => exact symbolOperator?_single (.inl rfl) (begins_percent ['='] (by decide) h)
  | case6 after h =>
      exact symbolOperator?_single (.inr (.inl rfl)) (begins_percent ['='] (by decide) h)
  | case7 after h =>
      exact symbolOperator?_single (.inr (.inr rfl)) (begins_percent ['='] (by decide) h)
  | case8 _ h₁ h₂ h₃ h₄ h₅ h₆ h₇ =>
      rw [symbolOperator?]
      · rfl
      -- None of the symbols stands in front, and none of them has the sign in it.
      · exact begins_percent ['<', '='] (by decide) h₁
      · exact begins_percent ['>', '='] (by decide) h₂
      · exact begins_percent ['!', '='] (by decide) h₃
      · exact begins_percent ['=', '='] (by decide) h₄
      · exact begins_percent ['<'] (by decide) h₅
      · exact begins_percent ['>'] (by decide) h₆
      · exact begins_percent ['='] (by decide) h₇

theorem operator?_percent (s : List Char) :
    operator? (s ++ ['%']) = (operator? s).map withPercentSign := by
  have hspace : Text.isSpace '%' = false := by decide
  simp only [operator?, Text.takeWhile_concat hspace, Text.dropWhile_concat hspace,
    symbolOperator?_percent, wordOperator?_percent]
  cases symbolOperator? (s.dropWhile Text.isSpace) with
  | some found => rfl
  | none =>
      cases (s.takeWhile Text.isSpace).getLast? with
      | none => rfl
      | some blank =>
          simp only [Option.map_none, Option.map_map]
          rfl

def Clause.inPercent (c : Clause) : Clause :=
  { c with value := c.value ++ ['%'] }

theorem clause_percent (s : List Char) :
    Clause.read? (s ++ ['%']) = (Clause.read? s).map Clause.inPercent := by
  have hname : isNameChar '%' = false := by decide
  have hspace : Text.isSpace '%' = false := by decide
  simp only [Clause.read?, Text.takeWhile_concat hname, Text.dropWhile_concat hname,
    operator?_percent]
  split
  · rfl
  · cases operator? (s.dropWhile isNameChar) with
    | none => rfl
    | some found =>
        have hline (value : List Char) : (value ++ ['%']).contains '\n' = value.contains '\n' := by
          simp
        simp only [Option.map_some, withPercentSign, Text.dropWhile_concat hspace, hline]
        split
        · rfl
        · rfl

theorem readValue_number (op : Operator) (h : IsNumber s) :
    readValue op s = .ok (String.ofList s, "") ∧
      readValue op (s ++ ['%']) = .ok (String.ofList s, "%") := by
  have hblank : Grammar.IsBlank [] := by rintro c ⟨⟩
  rw [← String.toList_ofList (l := s)] at h
  constructor
  · apply readValue_quantity
    refine ⟨[], ?_, h, hblank, .none⟩
    rw [String.toList_ofList]
    exact (List.append_nil s).symm
  · apply readValue_quantity
    refine ⟨[], ?_, h, hblank, .percent⟩
    rw [String.toList_ofList]
    rfl

/-- A threshold on a number in place of one on the same number in percent, or no other threshold. -/
inductive InPercent (name : String) (t : Threshold) : Threshold → Prop where
  | same : InPercent name t t
  | percent (hname : t.name = name) (hunit : t.unit = "") :
    InPercent name t { t with name := withPercentMark name, unit := "%" }

/-- The text asks for a relation to a number, by an operator or what stands in the place of one. -/
def IsLevel (name : String) (s : List Char) : Prop :=
  ∃ c, Clause.read? s = some c ∧ c.name = name.toList ∧ IsNumber c.value

/-- Both are thresholds, the second one maybe in percent, or both are refused for one reason. -/
def ReadTogether (name raw raw' : String) : Prop :=
  (∃ t u, read raw = .ok t ∧ read raw' = .ok u ∧ t.InPercent name u) ∨
    ∃ e, read raw = .error e ∧ read raw' = .error e

theorem readTogether_percent {raw raw' : String} (h : IsLevel name raw.toList)
    (hraw' : raw' = raw ++ "%") (htrim : Text.trim raw.toList = raw.toList)
    (htrim' : Text.trim raw'.toList = raw'.toList) : ReadTogether name raw raw' := by
  obtain ⟨c, hclause, hname, hnumber⟩ := h
  have hclause' : Clause.read? raw'.toList = some c.inPercent := by
    have htext : raw'.toList = raw.toList ++ ['%'] := by
      rw [hraw', String.toList_append]
      rfl
    rw [htext, clause_percent, hclause]
    rfl
  rw [← htrim] at hclause
  rw [← htrim'] at hclause'
  rw [ReadTogether, read_of_clause hclause, read_of_clause hclause', Clause.toThreshold,
    Clause.toThreshold, Clause.inPercent]
  have hne : ¬c.value.isEmpty = true := by
    rw [List.isEmpty_iff]
    exact ne_nil_of_isNumber hnumber
  have hne' : ¬(c.value ++ ['%']).isEmpty = true := by simp
  cases Operator.read? c.operator with
  | none => exact .inr ⟨_, rfl, rfl⟩
  | some op =>
      obtain ⟨hplain, hpercent⟩ := readValue_number op hnumber
      simp only [if_neg hne, if_neg hne', hplain, hpercent, hname, String.ofList_toList]
      exact .inl ⟨_, _, rfl, rfl, .percent rfl rfl⟩

/-! ## Thresholds in percent -/

section

variable {t u : Threshold}

theorem InPercent.number?_eq (h : t.InPercent name u) : t.number? = u.number? := by
  cases h with
  | same => rfl
  | percent hname hunit =>
      have hmark : multiplier? "%" = none := by decide +kernel
      rw [number?, number?, hunit, multiplier?_none, hmark]

theorem InPercent.holds_eq (h : t.InPercent name u) (text : String) :
    t.holds text = u.holds text := by
  have hnumber := h.number?_eq
  cases h with
  | same => rfl
  | percent => simp only [holds, equals, inOrder, hnumber]

theorem withPercentMark_ne (name : String) : withPercentMark name ≠ "" := by
  intro h
  have hchars := congrArg String.toList h
  rw [withPercentMark, String.toList_append, String.toList_ofList] at hchars
  cases (List.append_eq_nil_iff.mp hchars).2

theorem InPercent.isMet_eq (h : t.InPercent name u) (hname : name ≠ "") {fields : Fields}
    (hfields : fields.lookup (withPercentMark name) = fields.lookup name) :
    t.isMet fields = u.isMet fields := by
  have hholds := h.holds_eq
  cases h with
  | same => rfl
  | percent htname _ =>
      have hempty : name.isEmpty = false := by rwa [← Bool.not_eq_true, String.isEmpty_iff]
      have hmark : (withPercentMark name).isEmpty = false := by
        rw [← Bool.not_eq_true, String.isEmpty_iff]
        exact withPercentMark_ne name
      simp only [isMet, isDisabled, htname, hempty, hmark, hfields, hholds]

theorem InPercent.level?_eq (h : t.InPercent name u) {keys : List String} (hname : name ∈ keys)
    (hmark : withPercentMark name ∈ keys) :
    Check.Metric.level? keys t = Check.Metric.level? keys u := by
  have hnumber := h.number?_eq
  cases h with
  | same => rfl
  | percent htname _ =>
      rw [Check.Metric.level?, Check.Metric.level?, htname, if_pos hname, if_pos hmark, hnumber]

end

end Threshold

namespace Check

/-! ## Settings in percent -/

/-- The argument asks for a level, and the other one for the same level in percent. -/
structure Argument.InPercent (name : String) (a b : Argument) : Prop where
  key : b.key = a.key
  value : b.value = a.value ++ "%"
  asks : a.key ∈ ["warn", "warning", "crit", "critical"]
  level : Threshold.IsLevel name a.value.toList

theorem Argument.trim_value_read (raw : String) :
    Text.trim (read raw).value.toList = (read raw).value.toList := by
  rw [read, String.toList_ofList, Text.trim_trim]

/-- Settings that differ in their thresholds only, and there by what is in percent. -/
structure Settings.InPercent (name : String) (s u : Settings) : Prop where
  warning : s.warning.InPercent name u.warning
  critical : s.critical.InPercent name u.critical
  detail : u.detail = s.detail
  top : u.top = s.top
  ok : u.ok = s.ok
  empty : u.empty = s.empty
  emptyState : u.emptyState = s.emptyState

/-- Both readings end well and leave the same beside such settings, or both fail in the same way. -/
inductive Settings.Agree {α : Type} (name : String) :
    Except Failure (Settings × α) → Except Failure (Settings × α) → Prop where
  | ok {s u : Settings} (h : s.InPercent name u) (left : α) :
    Agree name (.ok (s, left)) (.ok (u, left))
  | error (failure : Failure) : Agree name (.error failure) (.error failure)

namespace Settings

variable {s u : Settings} {a b : Argument}

theorem InPercent.refl (s : Settings) : s.InPercent name s :=
  ⟨.same, .same, rfl, rfl, rfl, rfl, rfl⟩

theorem agree_map {α β : Type} {x : Except Failure β} {f g : β → Settings} {left : α}
    (h : ∀ y, (f y).InPercent name (g y)) :
    Agree name (x.map fun y => (f y, left)) (x.map fun y => (g y, left)) := by
  cases x with
  | ok y => exact .ok (h y) left
  | error failure => exact .error failure

theorem InPercent.accept_same (h : s.InPercent name u) (a : Argument) :
    Agree name (s.accept a) (u.accept a) := by
  rw [accept, accept]
  split
  case h_2 | h_3 => exact agree_map fun t => { h with warning := .same }
  case h_4 | h_5 => exact agree_map fun t => { h with critical := .same }
  case h_6 =>
    apply Agree.ok
    exact { h with detail := rfl }
  case h_7 =>
    apply Agree.ok
    exact { h with top := rfl }
  case h_8 =>
    apply Agree.ok
    exact { h with ok := rfl }
  case h_9 =>
    apply Agree.ok
    exact { h with empty := rfl }
  case h_10 => exact agree_map fun state => { h with emptyState := rfl }
  case h_1 | h_11 => exact .ok h _

theorem accept_warning (s : Settings) (h : a.key ∈ ["warn", "warning"]) :
    s.accept a = (readThreshold a.value).map fun t => ({ s with warning := t }, none) := by
  simp only [List.mem_cons, List.not_mem_nil, or_false] at h
  rcases h with h | h <;> simp only [accept, h]

theorem accept_critical (s : Settings) (h : a.key ∈ ["crit", "critical"]) :
    s.accept a = (readThreshold a.value).map fun t => ({ s with critical := t }, none) := by
  simp only [List.mem_cons, List.not_mem_nil, or_false] at h
  rcases h with h | h <;> simp only [accept, h]

theorem agree_threshold {raw raw' : String} {f g : Threshold → Settings}
    (hread : Threshold.ReadTogether name raw raw')
    (h : ∀ t t', t.InPercent name t' → (f t).InPercent name (g t')) :
    Agree name ((readThreshold raw).map fun t => (f t, (none : Option Argument)))
      ((readThreshold raw').map fun t => (g t, none)) := by
  rw [readThreshold, readThreshold]
  rcases hread with ⟨t, t', ht, ht', hpercent⟩ | ⟨e, he, he'⟩
  · rw [ht, ht']
    exact .ok (h t t' hpercent) none
  · rw [he, he']
    exact .error (.threshold e)

theorem InPercent.accept_percent (h : s.InPercent name u) {raw raw' : String}
    (ha : (Argument.read raw).InPercent name (Argument.read raw')) :
    Agree name (s.accept (Argument.read raw)) (u.accept (Argument.read raw')) := by
  have hread := Threshold.readTogether_percent ha.level ha.value (Argument.trim_value_read raw)
    (Argument.trim_value_read raw')
  have hasks : (Argument.read raw).key ∈ ["warn", "warning"] ∨
      (Argument.read raw).key ∈ ["crit", "critical"] := List.mem_append.mp ha.asks
  rcases hasks with hkey | hkey
  · rw [accept_warning s hkey, accept_warning u (ha.key ▸ hkey)]
    exact agree_threshold hread fun t t' ht => { h with warning := ht }
  · rw [accept_critical s hkey, accept_critical u (ha.key ▸ hkey)]
    exact agree_threshold hread fun t t' ht => { h with critical := ht }

/-- The lists differ in what some of their arguments ask for in percent. -/
def InPercentAll (name : String) : List String → List String → Prop :=
  List.Forall₂ fun raw raw' => Argument.read raw' = Argument.read raw ∨
    (Argument.read raw).InPercent name (Argument.read raw')

theorem InPercent.read {args args' : List String} (h : s.InPercent name u)
    (hargs : InPercentAll name args args') :
    (s.read args).1.InPercent name (u.read args').1 ∧ (s.read args).2 = (u.read args').2 := by
  induction hargs generalizing s u with
  | nil => exact ⟨h, rfl⟩
  | @cons raw raw' more more' hraw _ ih =>
      have hstep : Agree name (s.accept (Argument.read raw)) (u.accept (Argument.read raw')) := by
        rcases hraw with hsame | hpercent
        · rw [hsame]
          apply h.accept_same
        · exact h.accept_percent hpercent
      -- Both go on with the next argument from settings as near as these, or both end here.
      rw [Settings.read, Settings.read]
      generalize s.accept (Argument.read raw) = x at hstep ⊢
      generalize u.accept (Argument.read raw') = y at hstep ⊢
      cases hstep with
      | ok hnext left =>
          obtain ⟨hsettings, hrest⟩ := ih hnext
          exact ⟨hsettings, by simp only [hrest]⟩
      | error failure => exact ⟨h, rfl⟩

/-! ## Reports -/

theorem InPercent.result_eq (h : s.InPercent name u) (t : Tally) (metrics : List Metric) :
    t.result s metrics = t.result u metrics := by
  simp only [Tally.result, Tally.finish, Tally.emptySummary, h.top, h.ok, h.empty, h.emptyState]

theorem InPercent.report_eq (h : s.InPercent name u) {entries : List Entry}
    (hentries : ∀ e ∈ entries, s.classify e.fields = u.classify e.fields) :
    Entry.report s entries = Entry.report u entries := by
  have htally : Tally.ofItems s (entries.map (·.fields)) =
      Tally.ofItems u (entries.map (·.fields)) := by
    apply List.foldl_ext
    intro t item hitem
    obtain ⟨e, he, rfl⟩ := List.mem_map.mp hitem
    rw [Tally.add, Tally.add, h.detail, hentries e he]
  rw [Entry.report, Entry.report, htally, h.result_eq]

theorem InPercent.classify_eq (h : s.InPercent name u) (hname : name ≠ "") {fields : Fields}
    (hfields : fields.lookup (Threshold.withPercentMark name) = fields.lookup name) :
    s.classify fields = u.classify fields := by
  rw [classify, classify, h.warning.isMet_eq hname hfields, h.critical.isMet_eq hname hfields]

theorem InPercent.withLevels_eq (h : s.InPercent name u) {keys : List String}
    (hname : name ∈ keys) (hmark : Threshold.withPercentMark name ∈ keys) (m : Metric) :
    m.withLevels s keys = m.withLevels u keys := by
  rw [Metric.withLevels, Metric.withLevels, h.warning.level?_eq hname hmark,
    h.critical.level?_eq hname hmark]

end Settings

end Check

/-! ## The load probe -/

namespace Probe
namespace Load

open Check

variable {s u : Settings} {args args' : List String}

theorem entry_eq (h : s.InPercent "load" u) (window : String) (load : Float) :
    entry s window load = entry u window load := by
  rw [entry, entry, h.withLevels_eq (by decide) (by decide)]

theorem classify_entry (h : s.InPercent "load" u) (window : String) (load : Float) :
    s.classify (entry s window load).fields = u.classify (entry s window load).fields :=
  -- The load is told by the same text under its name and under that in percent.
  h.classify_eq (by decide) rfl

theorem measured?_eq (h : s.InPercent "load" u) (v : View) : measured? v s = measured? v u := by
  funext window
  have hentry : entry s window = entry u window := funext (entry_eq h window)
  rw [measured?, measured?, hentry]

theorem request_percent (hargs : Settings.InPercentAll "load" args args') :
    Settings.Agree "load" (request args) (request args') := by
  obtain ⟨hsettings, hrest⟩ := (Settings.InPercent.refl settings).read hargs
  rw [request_eq, request_eq, hrest]
  cases (settings.read args').2 with
  | error failure => exact .error failure
  | ok rest =>
      simp only [ok_bind]
      cases windows rest with
      | error failure => exact .error failure
      | ok given => exact .ok hsettings given

theorem entry_of_measured? {v : View} {window : String} {e : Entry}
    (h : measured? v s window = .ok (some e)) : ∃ load, e = entry s window load := by
  obtain ⟨duration, -, h⟩ := bind_eq_ok_iff.mp h
  split at h
  · obtain ⟨load, -, rfl⟩ := Option.map_eq_some_iff.mp (Except.ok.inj h)
    exact ⟨load, rfl⟩
  · cases h

theorem check_percent (v : View) (hargs : Settings.InPercentAll "load" args args') :
    check v args = check v args' := by
  rw [check, check]
  have hrequest := request_percent hargs
  generalize request args = x at hrequest ⊢
  generalize request args' = y at hrequest ⊢
  cases hrequest with
  | error failure => rfl
  | @ok s u h windows =>
      simp only [← measured?_eq h v]
      cases hentries : windows.mapM (measured? v s) with
      | error outcome => rfl
      | ok found =>
          simp only [Outcome.done.injEq]
          apply h.report_eq
          intro e he
          obtain ⟨_, hmem, rfl⟩ := List.mem_filterMap.mp he
          obtain ⟨window, -, hwindow⟩ := exists_of_mem_of_mapM_eq_ok hentries hmem
          obtain ⟨load, rfl⟩ := entry_of_measured? hwindow
          exact classify_entry h window load

/-- A host with one sample of its load. -/
def oneSample (load : Float) : View :=
  ⟨{ startedAt := 0, collectedAt := 1, snapshot := {} }, ⟨[⟨0, load⟩]⟩, 0⟩

/-- A level of the load and the same level in percent have one outcome, whatever the operator is
and wherever among the arguments they stand. -/
theorem run_percent (v : View) (hargs : Settings.InPercentAll "load" args args') :
    (standard.run "check_cpu" args).run v = (standard.run "check_cpu" args').run v :=
  congrArg (fun outcome : Outcome => outcome.settle) (check_percent v hargs)

/-- A symbol with nothing around it and two words, of which the second one makes a threshold on the
text. -/
theorem run_percent_written :
    let args := ["warn=load>80", " critical = load NOT  like -.5 ", "time=1m"]
    let args' := ["warn=load>80%", " critical = load NOT  like -.5% ", "time=1m"]
    let run := (standard.run "check_cpu" args).run (oneSample 85)
    (settings.read args).1.critical = ⟨"load", .notLike, "-.5", ""⟩ ∧
    (settings.read args').1.critical = ⟨"load_pct", .notLike, "-.5", "%"⟩ ∧
    run.toOption.map (·.state) = some .critical ∧
    run = (standard.run "check_cpu" args').run (oneSample 85) := by
  intro args args' run
  have hargs : Settings.InPercentAll "load" args args' := by
    refine .cons (.inr ⟨rfl, rfl, by decide, ?_⟩) (.cons (.inr ⟨rfl, rfl, by decide, ?_⟩)
      (.cons (.inl rfl) .nil))
    · refine ⟨⟨"load".toList, ">".toList, "80".toList⟩, rfl, rfl, ?_⟩
      exact .unsigned (.whole ⟨by decide, List.all_eq_true.mp (by decide)⟩)
    · refine ⟨⟨"load".toList, " NOT  like".toList, "-.5".toList⟩, rfl, rfl, ?_⟩
      exact .negative (.fraction ⟨by decide, List.all_eq_true.mp (by decide)⟩)
  exact ⟨rfl, rfl, by decide +kernel, run_percent (oneSample 85) hargs⟩

end Load
end Probe
end MonitorAgent
