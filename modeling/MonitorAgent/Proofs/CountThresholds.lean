import MonitorAgent.Proofs.ProbeAborts
import MonitorAgent.Proofs.Rounding
import MonitorAgent.Proofs.TallyReport

/-!
# Thresholds on the count of processes

The metric of a wanted name tells how many processes have it, next to the level of a
threshold on the count.  The state comes from the items, and of these only the one that
stands for a name without processes has a count, which is zero.  So such a threshold asks
for a name without processes, whatever the counts of the other names are.
-/

namespace MonitorAgent

variable {digits : List Char}

/-! ## Whole numbers -/

namespace Decimal

theorem readUnsigned?_digits (hne : digits ≠ []) (h : ∀ c ∈ digits, c.isDigit = true) :
    readUnsigned? digits = some (natOfDigits digits, 0) := by
  have hspan := spanDigits_eq h Text.stops_nil
  have hsome : digits.isEmpty = false := List.isEmpty_eq_false_iff.mpr hne
  rw [List.append_nil] at hspan
  simp [readUnsigned?, hspan, hsome, readExponent?]

theorem readMagnitude?_digits (hne : digits ≠ []) (h : ∀ c ∈ digits, c.isDigit = true) :
    readMagnitude? digits = some (Float.ofNat (natOfDigits digits)) := by
  rw [readMagnitude?, readUnsigned?_digits hne h]
  rfl

theorem isUnsigned_digits (hne : digits ≠ []) (h : ∀ c ∈ digits, c.isDigit = true) :
    Threshold.Grammar.IsUnsigned digits := by
  refine .whole ⟨hne, fun c hc => ?_⟩
  have hdigit := Text.isDigit_iff.mp (h c hc)
  exact (Text.isDecimalDigit_of_lt (by omega)).mpr hdigit

theorem read?_digits (hne : digits ≠ []) (h : ∀ c ∈ digits, c.isDigit = true) :
    read? digits = some (signed false (natOfDigits digits)) := by
  simp only [read?, readSign_of_isUnsigned (isUnsigned_digits hne h), readMagnitude?_digits hne h]
  rfl

theorem read?_minus (hne : digits ≠ []) (h : ∀ c ∈ digits, c.isDigit = true) :
    read? ('-' :: digits) = some (signed true (natOfDigits digits)) := by
  simp only [read?, readSign, readMagnitude?_digits hne h]
  rfl

end Decimal

/-! ## Thresholds on a whole number -/

namespace Threshold

variable {t : Threshold} {level : Float}

/-- The threshold asks for a relation of a field to a whole number without a unit. -/
structure AsksFor (t : Threshold) (name : String) (level : Float) : Prop where
  name : t.name = name
  operator : t.operator ∈ [.lower, .lowerEqual, .greater, .greaterEqual, .equal, .unequal]
  unit : t.unit = ""
  value : ∃ digits, digits ≠ [] ∧ (∀ c ∈ digits, c.isDigit = true) ∧
    (t.value.toList = digits ∧ level = Decimal.signed false (Decimal.natOfDigits digits) ∨
      t.value.toList = '-' :: digits ∧ level = Decimal.signed true (Decimal.natOfDigits digits))

theorem asksFor_digits {op : Operator} {value : String} (name : String)
    (hop : op ∈ [.lower, .lowerEqual, .greater, .greaterEqual, .equal, .unequal])
    (hne : value.toList ≠ []) (hdigits : value.toList.all Char.isDigit = true) :
    AsksFor ⟨name, op, value, ""⟩ name (Float.ofNat (Decimal.natOfDigits value.toList)) where
  name := rfl
  operator := hop
  unit := rfl
  value := ⟨_, hne, List.all_eq_true.mp hdigits, .inl ⟨rfl, rfl⟩⟩

/-- The relation of the operator between two numbers. -/
def compares (op : Operator) (x y : Float) : Bool :=
  match op with
  | .equal => x == y
  | .unequal => !(x == y)
  | _ => ordered op x y

theorem AsksFor.number? {name : String} (h : t.AsksFor name level) : t.number? = some level := by
  obtain ⟨digits, hne, hdigits, hvalue⟩ := h.value
  rw [number?_of_unit_none t h.unit]
  rcases hvalue with ⟨hvalue, rfl⟩ | ⟨hvalue, rfl⟩
  · rw [hvalue]
    exact Decimal.read?_digits hne hdigits
  · rw [hvalue]
    exact Decimal.read?_minus hne hdigits

theorem AsksFor.isNumber {name : String} (h : t.AsksFor name level) :
    Grammar.IsNumber t.value.toList := by
  obtain ⟨digits, hne, hdigits, ⟨hvalue, -⟩ | ⟨hvalue, -⟩⟩ := h.value
  · rw [hvalue]
    exact .unsigned (Decimal.isUnsigned_digits hne hdigits)
  · rw [hvalue]
    exact .negative (Decimal.isUnsigned_digits hne hdigits)

theorem AsksFor.isMet {name : String} (h : t.AsksFor name level) (hname : name ≠ "")
    {fields : Fields} {text : String} {x : Float} (htext : fields.lookup name = some text)
    (hx : fieldNumber? text = some x) : t.isMet fields = compares t.operator x level := by
  have hon : t.isDisabled = false := isDisabled_of_isNumber (h.name ▸ hname) h.isNumber
  rw [Threshold.isMet, hon, h.name, htext]
  have hop := h.operator
  simp only [List.mem_cons, List.not_mem_nil, or_false] at hop
  rcases hop with hop | hop | hop | hop | hop | hop <;>
    simp [holds, hop, inOrder, equals, hx, h.number?, compares]

end Threshold

/-! ## The state of a tally -/

namespace Check.Tally

theorem state_eq_critical_iff {t : Tally} : t.state = .critical ↔ t.critical ≠ [] := by
  rw [state]
  cases t.critical with
  | nil => cases t.warning <;> simp
  | cons line lines => simp

theorem critical_ofItems_iff {s : Settings} {items : List Fields} :
    (ofItems s items).state = .critical ↔ ∃ item ∈ items, s.critical.isMet item = true := by
  have hclass (item : Fields) : s.classify item = .critical ↔ s.critical.isMet item = true := by
    rw [Settings.classify]
    cases s.critical.isMet item <;> cases s.warning.isMet item <;> decide
  have hlines : (ofItems s items).critical = detailLines s items .critical :=
    linesOf_ofItems s items .critical
  rw [state_eq_critical_iff, hlines, detailLines, Ne, List.map_eq_nil_iff, List.filter_eq_nil_iff]
  simp only [decide_eq_true_eq, hclass, not_forall, Classical.not_not, exists_prop]

theorem result_state {s : Settings} {items : List Fields} (hne : items ≠ [])
    (metrics : List Metric) :
    ((ofItems s items).result s metrics).state = (ofItems s items).state := by
  rw [result, finish, if_neg (count_ofItems_ne_zero s hne)]

end Check.Tally

/-! ## Processes -/

namespace Probe.Processes

open Check
open Threshold (AsksFor compares fieldNumber?)

variable {processes : List Host.Process} {names : List String} {s : Settings} {level : Float}

theorem lookup_runningFields (p : Host.Process) : (runningFields p).lookup "count" = none := by
  rw [List.lookup_eq_none_iff]
  intro field hfield
  simp only [runningFields, List.mem_cons, List.not_mem_nil, or_false] at hfield
  rcases hfield with rfl | rfl | rfl | rfl | rfl | rfl | rfl <;> rfl

theorem fieldNumber?_zero : fieldNumber? "0" = some (Float.ofNat 0) := rfl

theorem itemsOf_ne_nil (processes : List Host.Process) (name : String) :
    itemsOf processes name ≠ [] := by
  rw [itemsOf]
  split
  · exact List.cons_ne_nil _ _
  next hne => exact mt List.map_eq_nil_iff.mp hne

theorem items_ne_nil (hne : names ≠ []) (processes : List Host.Process) :
    names.flatMap (itemsOf processes) ≠ [] := by
  obtain ⟨name, more, rfl⟩ := List.exists_cons_of_ne_nil hne
  rw [List.flatMap_cons]
  exact List.append_ne_nil_of_left_ne_nil (itemsOf_ne_nil processes name) _

theorem isMet_itemsOf_iff (h : s.critical.AsksFor "count" level) (name : String) :
    (∃ item ∈ itemsOf processes name, s.critical.isMet item = true) ↔
      matching processes name = [] ∧ compares s.critical.operator (Float.ofNat 0) level = true := by
  have hstopped : s.critical.isMet (stoppedFields name) =
      compares s.critical.operator (Float.ofNat 0) level :=
    h.isMet (by decide) rfl fieldNumber?_zero
  rw [itemsOf]
  split
  next hnone => simp [hnone, hstopped]
  next running hne =>
    -- A process that runs has no count, and a field that is missing meets no threshold.
    refine iff_of_false ?_ fun hnone => hne hnone.1
    rintro ⟨item, hitem, hmet⟩
    obtain ⟨p, -, rfl⟩ := List.mem_map.mp hitem
    have hlookup : (runningFields p).lookup s.critical.name = none := by
      rw [h.name]
      exact lookup_runningFields p
    rw [Threshold.isMet_of_lookup_eq_none hlookup] at hmet
    cases hmet

theorem report_names (hne : names ≠ []) :
    report s processes names = (Tally.ofItems s (names.flatMap (itemsOf processes))).result s
      (names.map fun name =>
        (count name (matching processes name).length).withLevels s ["count"]) := by
  cases names with
  | nil => exact absurd rfl hne
  | cons name names => rfl

theorem state_report (h : s.critical.AsksFor "count" level) (hne : names ≠ []) :
    (report s processes names).state = .critical ↔
      ∃ name ∈ names, matching processes name = [] ∧
        compares s.critical.operator (Float.ofNat 0) level = true := by
  rw [report_names hne, Tally.result_state (items_ne_nil hne processes), Tally.critical_ofItems_iff]
  simp only [List.mem_flatMap, ← isMet_itemsOf_iff h]
  constructor
  · rintro ⟨item, ⟨name, hname, hitem⟩, hmet⟩
    exact ⟨name, hname, item, hitem, hmet⟩
  · rintro ⟨name, hname, item, hitem, hmet⟩
    exact ⟨item, ⟨name, hname, hitem⟩, hmet⟩

theorem metrics_report (h : s.critical.AsksFor "count" level) (hne : names ≠ []) :
    (report s processes names).metrics.map (fun m => (m.name, m.value, m.critical)) =
      names.map fun name =>
        (name, Float.ofNat (matching processes name).length, some level) := by
  have hlevel : Metric.level? ["count"] s.critical = some level := by
    rw [Metric.level?, if_pos (by rw [h.name]; exact List.mem_cons_self), h.number?]
  rw [report_names hne, Tally.result, List.map_map]
  refine List.map_congr_left fun name _ => ?_
  simp only [Function.comp, Metric.withLevels, hlevel]
  rfl

/-- The arguments can be read, and what is left of them are names of processes. -/
structure Accepts (args : List String) : Prop where
  readable : ∀ raw ∈ args, (Argument.read raw).IsReadable
  names : ∀ a ∈ Argument.leftOver args, a.key = "process"

/-- The names that are looked for. -/
def namesOf (args : List String) : List String :=
  (Argument.leftOver args).map (·.value)

theorem check_of_accepts {v : View} {args : List String} (h : Accepts args)
    (hcollected : v.host.collectedAt ≠ 0) :
    check v args = .ok (report (settings.read args).1 v.host.snapshot.processes (namesOf args)) := by
  have hknown : ∀ a ∈ Argument.leftOver args, a.key ∈ ["process"] := fun a ha =>
    List.mem_singleton.mpr (h.names a ha)
  have hvalues : valuesOf "process" (Argument.leftOver args) = namesOf args :=
    valuesOf_eq_map h.names
  rw [← hvalues]
  exact selected_eq_ok_iff.mpr ⟨⟨h.readable, hknown⟩, hcollected, rfl⟩

theorem run_of_accepts {v : View} {args : List String} (h : Accepts args)
    (hcollected : v.host.collectedAt ≠ 0) :
    (standard.run "check_process" args).run v =
      .ok (report (settings.read args).1 v.host.snapshot.processes (namesOf args)) := by
  have hrun : (standard.run "check_process" args).run v =
      (Outcome.ofExcept (check v args)).settle := rfl
  rw [hrun, check_of_accepts h hcollected]
  rfl

/-- The metric of each name tells its count beside the level, but a threshold on the count is met
only by a name without processes, for which zero is compared. -/
theorem run_count {v : View} {args : List String} (h : Accepts args) (hne : namesOf args ≠ [])
    (hcollected : v.host.collectedAt ≠ 0)
    (hcount : (settings.read args).1.critical.AsksFor "count" level) :
    ∃ r, (standard.run "check_process" args).run v = .ok r ∧
      r.metrics.map (fun m => (m.name, m.value, m.critical)) =
        (namesOf args).map (fun name =>
          (name, Float.ofNat (matching v.host.snapshot.processes name).length, some level)) ∧
      (r.state = .critical ↔ ∃ name ∈ namesOf args, matching v.host.snapshot.processes name = [] ∧
        compares (settings.read args).1.critical.operator (Float.ofNat 0) level = true) :=
  ⟨_, run_of_accepts h hcollected, metrics_report hcount hne, state_report hcount hne⟩

/-- A host that has been collected, with one process. -/
def oneProcess (name : String) : View :=
  ⟨{ startedAt := 0, collectedAt := 1
     snapshot := { processes := [⟨200, name, "Sleeping", 0, 0⟩] } }, {}, 0⟩

theorem accepts_of_read {args : List String} {rest : List Argument}
    (h : (settings.read args).2 = .ok rest) (hnames : ∀ a ∈ rest, a.key = "process") :
    Accepts args ∧ namesOf args = rest.map (·.value) := by
  obtain ⟨hreadable, rfl⟩ := (settings.read_eq_ok_iff args rest).mp h
  exact ⟨⟨hreadable, hnames⟩, rfl⟩

/-- One name has a process and one has none. -/
theorem run_count_missing :
    ∃ r, (standard.run "check_process" ["process=sshd", "process=cron", "crit=count < 1"]).run
        (oneProcess "SSHD") = .ok r ∧
      r.state = .critical ∧ r.metrics.map (·.value) = [Float.ofNat 1, Float.ofNat 0] := by
  have hread : settings.read ["process=sshd", "process=cron", "crit=count < 1"] =
      ({ settings with critical := ⟨"count", .lower, "1", ""⟩ },
        .ok [⟨"process", "sshd"⟩, ⟨"process", "cron"⟩]) := rfl
  have hcount : Threshold.AsksFor
      (settings.read ["process=sshd", "process=cron", "crit=count < 1"]).1.critical
      "count" (Float.ofNat 1) := by
    rw [hread]
    exact Threshold.asksFor_digits "count" (by decide) (by decide) (by decide)
  obtain ⟨haccepts, hnames⟩ := accepts_of_read (congrArg Prod.snd hread) (by decide)
  have hne : namesOf ["process=sshd", "process=cron", "crit=count < 1"] ≠ [] := by simp [hnames]
  have hcollected : (oneProcess "SSHD").host.collectedAt ≠ 0 := by decide
  obtain ⟨r, hr, hmetrics, hstate⟩ := run_count haccepts hne hcollected hcount
  refine ⟨r, hr, hstate.mpr ⟨"cron", by simp [hnames], by decide, ?_⟩, ?_⟩
  · rw [hread]
    decide +kernel
  · have hvalues := congrArg (List.map (·.2.1)) hmetrics
    rw [hnames, List.map_map] at hvalues
    exact hvalues

/-- One process runs, which is less than three, and the state is good. -/
theorem run_count_running :
    (matching (oneProcess "sshd").host.snapshot.processes "sshd").length = 1 ∧
    compares .lower (Float.ofNat 1) (Float.ofNat 3) = true ∧
    (∃ r, (standard.run "check_process" ["process=sshd", "crit=count < 3"]).run
      (oneProcess "sshd") = .ok r ∧ r.state = .ok) ∧
    ¬∀ (v : View) (args : List String) (level : Float) (r : Check.Result), Accepts args →
      namesOf args ≠ [] → v.host.collectedAt ≠ 0 →
      (settings.read args).1.critical.AsksFor "count" level →
      (standard.run "check_process" args).run v = .ok r →
      (r.state = .critical ↔ ∃ name ∈ namesOf args,
        compares (settings.read args).1.critical.operator
          (Float.ofNat (matching v.host.snapshot.processes name).length) level = true) := by
  have hread : settings.read ["process=sshd", "crit=count < 3"] =
      ({ settings with critical := ⟨"count", .lower, "3", ""⟩ }, .ok [⟨"process", "sshd"⟩]) := rfl
  have hcount : (settings.read ["process=sshd", "crit=count < 3"]).1.critical.AsksFor
      "count" (Float.ofNat 3) := by
    rw [hread]
    exact Threshold.asksFor_digits "count" (by decide) (by decide) (by decide)
  have hless : compares .lower (Float.ofNat 1) (Float.ofNat 3) = true := by decide +kernel
  have hone : (matching (oneProcess "sshd").host.snapshot.processes "sshd").length = 1 := by decide
  obtain ⟨haccepts, hnames⟩ := accepts_of_read (congrArg Prod.snd hread) (by decide)
  have hcollected : (oneProcess "sshd").host.collectedAt ≠ 0 := by decide
  have hrun := run_of_accepts haccepts hcollected
  have hstate : (report (settings.read ["process=sshd", "crit=count < 3"]).1
      (oneProcess "sshd").host.snapshot.processes
      (namesOf ["process=sshd", "crit=count < 3"])).state = .ok := by
    decide +kernel
  refine ⟨hone, hless, ⟨_, hrun, hstate⟩, fun hall => ?_⟩
  have hcritical := (hall _ _ _ _ haccepts (by simp [hnames]) hcollected hcount hrun).mpr
    ⟨"sshd", by simp [hnames], by rw [hone, hread]; exact hless⟩
  rw [hstate] at hcritical
  cases hcritical

end Probe.Processes

end MonitorAgent
