import MonitorAgent.Proofs.CountThresholds
import MonitorAgent.Proofs.TemplateScan
import Mathlib.Algebra.Ring.Nat

/-!
# The report of the processes check

With the settings that the check has of its own, an item is critical just if it stands for
a name without processes.  So the report is a list of these names, each as often as it is
asked for, or else it tells how many processes there are to all the names together.
-/

namespace MonitorAgent
namespace Check

/-! ## Arguments that are left -/

theorem Settings.accept_of_notMem {a : Argument} (h : a.key ∉ keys) (s : Settings) :
    s.accept a = .ok (s, some a) := by
  rw [accept]
  split
  case h_11 => rfl
  all_goals
    rename_i hkey
    exact absurd (by rw [hkey]; decide) h

theorem Settings.read_of_leftOver {args : List String}
    (h : ∀ raw ∈ args, (Argument.read raw).key ∉ keys) (s : Settings) :
    s.read args = (s, .ok (args.map Argument.read)) := by
  induction args with
  | nil => rfl
  | cons raw more ih =>
      obtain ⟨hraw, hmore⟩ := List.forall_mem_cons.mp h
      rw [read_cons_of_ok (accept_of_notMem hraw s), ih hmore]
      rfl

namespace Tally

variable {s : Settings} {items more : List Fields}

theorem detailLines_append (s : Settings) (items more : List Fields) (state : State) :
    detailLines s (items ++ more) state =
      detailLines s items state ++ detailLines s more state := by
  rw [detailLines, List.filter_append, List.map_append]
  rfl

theorem state_of_detailLines (hwarning : detailLines s items .warning = []) :
    (ofItems s items).state =
      if detailLines s items .critical = [] then .ok else .critical := by
  have hcritical : (ofItems s items).critical = detailLines s items .critical :=
    linesOf_ofItems s items .critical
  have hwarnings : (ofItems s items).warning = [] :=
    (linesOf_ofItems s items .warning).trans hwarning
  rw [state, hcritical, hwarnings]
  cases detailLines s items .critical <;> rfl

end Tally
end Check

namespace Probe.Processes

open Check
open Check.Tally (detailLines ofItems)
open Check.Template (Part render)

variable {processes : List Host.Process} {names : List String}

/-! ## The templates -/

theorem render_detail (fields : Fields) :
    render settings.detail fields = fields.text "process" ++ "=" ++ fields.text "state" := by
  have hparts : settings.detail.toList =
      [Part.field "process", .text "=", .field "state"].flatMap Part.written := rfl
  rw [Template.render_of_parts hparts (by decide)]
  simp [String.join, Part.shown]

theorem render_ok (fields : Fields) :
    render settings.ok fields =
      fields.text "status" ++ ": all " ++ fields.text "count" ++ " processes are ok." := by
  have hparts : settings.ok.toList =
      [Part.field "status", .text ": all ", .field "count",
        .text " processes are ok."].flatMap Part.written := rfl
  rw [Template.render_of_parts hparts (by decide)]
  simp [String.join, Part.shown]

theorem render_top (fields : Fields) :
    render settings.top fields = fields.text "status" ++ ": " ++ fields.text "problem_list" := by
  have hparts : settings.top.toList =
      [Part.field "status", .text ": ", .field "problem_list"].flatMap Part.written := rfl
  rw [Template.render_of_parts hparts (by decide)]
  simp [String.join, Part.shown]

/-! ## The items of a name -/

theorem classify_runningFields (p : Host.Process) : settings.classify (runningFields p) = .ok := rfl

theorem render_stoppedFields (name : String) :
    render settings.detail (stoppedFields name) = name ++ "=stopped" := by
  rw [render_detail]
  change name ++ "=" ++ "stopped" = name ++ "=stopped"
  rw [String.append_assoc]
  rfl

theorem detailLines_running (running : List Host.Process) {state : State} (h : state ≠ .ok) :
    detailLines settings (running.map runningFields) state = [] := by
  rw [detailLines, List.map_eq_nil_iff, List.filter_eq_nil_iff]
  intro item hitem
  obtain ⟨p, -, rfl⟩ := List.mem_map.mp hitem
  rw [classify_runningFields, decide_eq_true_iff]
  exact h.symm

theorem itemsOf_of_none {name : String} (h : matching processes name = []) :
    itemsOf processes name = [stoppedFields name] := by
  rw [itemsOf, h]

theorem itemsOf_of_some {name : String} (h : matching processes name ≠ []) :
    itemsOf processes name = (matching processes name).map runningFields := by
  rw [itemsOf]
  split
  next hnone => exact absurd hnone h
  next => rfl

/-- The names without processes, as often as they are there. -/
def missing (processes : List Host.Process) (names : List String) : List String :=
  names.filter fun name => matching processes name = []

theorem critical_names (processes : List Host.Process) (names : List String) :
    detailLines settings (names.flatMap (itemsOf processes)) .critical =
      (missing processes names).map (· ++ "=stopped") := by
  induction names with
  | nil => rfl
  | cons name names ih =>
      rw [List.flatMap_cons, Tally.detailLines_append, ih, missing, missing, List.filter_cons]
      by_cases hnone : matching processes name = []
      · rw [if_pos (decide_eq_true hnone), itemsOf_of_none hnone, List.map_cons,
          ← render_stoppedFields]
        rfl
      · rw [if_neg (by simpa using hnone), itemsOf_of_some hnone,
          detailLines_running _ (by decide), List.nil_append]

theorem warning_names (processes : List Host.Process) (names : List String) :
    detailLines settings (names.flatMap (itemsOf processes)) .warning = [] := by
  induction names with
  | nil => rfl
  | cons name names ih =>
      rw [List.flatMap_cons, Tally.detailLines_append, ih, List.append_nil]
      by_cases hnone : matching processes name = []
      · rw [itemsOf_of_none hnone]
        rfl
      · rw [itemsOf_of_some hnone, detailLines_running _ (by decide)]

theorem length_items (h : missing processes names = []) :
    (names.flatMap (itemsOf processes)).length =
      (names.map fun name => (matching processes name).length).sum := by
  rw [List.length_flatMap]
  congr 1
  refine List.map_congr_left fun name hname => ?_
  have hsome : matching processes name ≠ [] := by
    simpa using List.filter_eq_nil_iff.mp h name hname
  rw [itemsOf_of_some hsome, List.length_map]

/-! ## The report -/

theorem finish_ok {items : List Fields} (hne : items ≠ [])
    (hstate : (ofItems settings items).state = .ok) :
    (ofItems settings items).finish settings =
      (.ok, "OK: all " ++ toString items.length ++ " processes are ok.") := by
  rw [Tally.finish, if_neg (Tally.count_ofItems_ne_zero settings hne)]
  simp only [hstate, if_true, render_ok]
  have hstatus : Fields.text ((ofItems settings items).summary.override []) "status" =
      (ofItems settings items).state.name := rfl
  have hcount : Fields.text ((ofItems settings items).summary.override []) "count" =
      toString (ofItems settings items).count := rfl
  rw [hstatus, hcount, hstate, Tally.count_ofItems]
  rfl

theorem finish_critical {items : List Fields} (hne : items ≠ [])
    (hstate : (ofItems settings items).state = .critical)
    (hwarning : detailLines settings items .warning = []) :
    (ofItems settings items).finish settings =
      (.critical, "CRITICAL: " ++ ", ".intercalate (detailLines settings items .critical)) := by
  rw [Tally.finish, if_neg (Tally.count_ofItems_ne_zero settings hne)]
  simp only [hstate, reduceCtorEq, if_false, render_top]
  have hstatus : Fields.text ((ofItems settings items).summary.override []) "status" =
      (ofItems settings items).state.name := rfl
  have hproblems : Fields.text ((ofItems settings items).summary.override []) "problem_list" =
      ", ".intercalate
        ((ofItems settings items).linesOf .critical ++ (ofItems settings items).linesOf .warning) :=
    rfl
  rw [hstatus, hproblems, hstate, Tally.linesOf_ofItems, Tally.linesOf_ofItems, hwarning,
    List.append_nil]
  rfl

theorem state_names (processes : List Host.Process) (names : List String) :
    (ofItems settings (names.flatMap (itemsOf processes))).state =
      if missing processes names = [] then .ok else .critical := by
  rw [Tally.state_of_detailLines (warning_names processes names), critical_names]
  simp only [List.map_eq_nil_iff]

/-- The metric of a number of processes.  The thresholds of the check itself ask for no count. -/
theorem withLevels_count (name : String) (n : Nat) :
    (count name n).withLevels settings ["count"] = count name n := rfl

theorem report_all (hne : processes ≠ []) :
    report settings processes [] =
      { state := .ok, output := "OK: all " ++ toString processes.length ++ " processes are ok."
        metrics := [count "count" processes.length] } := by
  have hitems : processes.map runningFields ≠ [] := mt List.map_eq_nil_iff.mp hne
  have hstate : (ofItems settings (processes.map runningFields)).state = .ok := by
    rw [Tally.state_of_detailLines (detailLines_running processes (by decide)),
      detailLines_running processes (by decide), if_pos rfl]
  rw [report, Tally.result, finish_ok hitems hstate, List.length_map]

theorem report_nothing :
    report settings [] [] =
      { state := .unknown
        output := "UNKNOWN: check_process failed to find anything with this filter."
        metrics := [count "count" 0] } := by
  have htext : render settings.empty (Tally.emptySummary settings) =
      "UNKNOWN: check_process failed to find anything with this filter." := by
    decide +kernel
  rw [← htext]
  rfl

theorem report_running (hne : names ≠ []) (h : missing processes names = []) :
    report settings processes names =
      { state := .ok
        output := "OK: all " ++
          toString (names.map fun name => (matching processes name).length).sum ++
          " processes are ok."
        metrics := names.map fun name => count name (matching processes name).length } := by
  have hstate : (ofItems settings (names.flatMap (itemsOf processes))).state = .ok := by
    rw [state_names, if_pos h]
  rw [report_names hne, Tally.result, finish_ok (items_ne_nil hne processes) hstate,
    length_items h]
  simp only [withLevels_count]

theorem report_missing (hne : names ≠ []) (h : missing processes names ≠ []) :
    report settings processes names =
      { state := .critical
        output := "CRITICAL: " ++
          ", ".intercalate ((missing processes names).map (· ++ "=stopped"))
        metrics := names.map fun name => count name (matching processes name).length } := by
  have hstate : (ofItems settings (names.flatMap (itemsOf processes))).state = .critical := by
    rw [state_names, if_neg h]
  rw [report_names hne, Tally.result, finish_critical (items_ne_nil hne processes) hstate
    (warning_names processes names), critical_names]
  simp only [withLevels_count]

/-! ## Runs of the check -/

variable {v : View} {args : List String}

theorem run_of_processNames (hargs : ∀ raw ∈ args, (Argument.read raw).key = "process")
    (hcollected : v.host.collectedAt ≠ 0) :
    (standard.run "check_process" args).run v =
      .ok (report settings v.host.snapshot.processes
        (args.map fun raw => (Argument.read raw).value)) := by
  have hread : settings.read args = (settings, .ok (args.map Argument.read)) := by
    refine Settings.read_of_leftOver (fun raw hraw => ?_) settings
    rw [hargs raw hraw]
    decide
  obtain ⟨haccepts, hnames⟩ := accepts_of_read (congrArg Prod.snd hread) fun a ha => by
    obtain ⟨raw, hraw, rfl⟩ := List.mem_map.mp ha
    exact hargs raw hraw
  rw [run_of_accepts haccepts hcollected, hnames, hread, List.map_map]
  rfl

/-- Without names all processes are counted, and with names those of each of them.  A name that no
process has makes the state critical, and is told as often as it is asked for. -/
theorem run_tells_missing (hargs : ∀ raw ∈ args, (Argument.read raw).key = "process")
    (hcollected : v.host.collectedAt ≠ 0) :
    let table := v.host.snapshot.processes
    let names := args.map fun raw => (Argument.read raw).value
    let number (name : String) :=
      table.countP fun p => Text.lower p.name.toList = Text.lower name.toList
    ∃ r, (standard.run "check_process" args).run v = .ok r ∧
      (names = [] →
        r.metrics = [{ name := "count", value := Float.ofNat table.length, min := some 0 }] ∧
        (table = [] → r.state = .unknown) ∧
        (table ≠ [] → r.state = .ok ∧
          r.output = "OK: all " ++ toString table.length ++ " processes are ok.")) ∧
      (names ≠ [] →
        r.metrics = names.map (fun name =>
          { name, value := Float.ofNat (number name), min := some 0 }) ∧
        (r.state = .critical ↔
          ∃ name ∈ names, ∀ p ∈ table, Text.lower p.name.toList ≠ Text.lower name.toList) ∧
        (r.state = .critical → r.output = "CRITICAL: " ++
          ", ".intercalate ((names.filter (number · = 0)).map (· ++ "=stopped"))) ∧
        (r.state ≠ .critical → r.state = .ok ∧
          r.output = "OK: all " ++ toString (names.map number).sum ++ " processes are ok.")) := by
  intro table names number
  have hnumber (name : String) : (matching table name).length = number name := by
    rw [matching, ← List.countP_eq_length_filter]
    refine List.countP_congr fun p _ => ?_
    rw [Text.sameLetters_iff, decide_eq_true_iff]
  have hnone (name : String) : matching table name = [] ↔ number name = 0 := by
    rw [← hnumber, List.length_eq_zero_iff]
  have hmissing : missing table names = names.filter (number · = 0) := by
    simp only [missing, hnone]
  refine ⟨report settings table names, run_of_processNames hargs hcollected, fun hnil => ?_,
    fun hne => ?_⟩
  · rw [hnil]
    by_cases htable : table = []
    · rw [htable, report_nothing]
      exact ⟨rfl, fun _ => rfl, fun h => absurd rfl h⟩
    · rw [report_all htable]
      exact ⟨rfl, fun h => absurd h htable, fun _ => ⟨rfl, rfl⟩⟩
  · have hexists : missing table names ≠ [] ↔
        ∃ name ∈ names, ∀ p ∈ table, Text.lower p.name.toList ≠ Text.lower name.toList := by
      simp [hmissing, number, List.countP_eq_zero]
    rw [← hexists]
    by_cases hall : missing table names = []
    · rw [report_running hne hall]
      simp [hall, count, hnumber]
    · rw [report_missing hne hall, ← hmissing]
      simp [hall, count, hnumber]

/-- One name has two processes, and of the three others two are the same. -/
theorem run_tells_missing_repeated :
    let table : List Host.Process := [⟨1, "sshd", "Sleeping", 0, 0⟩, ⟨2, "SSHD", "Running", 0, 0⟩]
    let v : View :=
      ⟨{ startedAt := 0, collectedAt := 1, snapshot := { processes := table } }, {}, 0⟩
    let args := ["process=cron", "process= sShd", "process=at", "process=cron"]
    (∀ raw ∈ args, (Argument.read raw).key = "process") ∧ v.host.collectedAt ≠ 0 ∧
    ∃ r, (standard.run "check_process" args).run v = .ok r ∧ r.state = .critical ∧
      r.output = "CRITICAL: cron=stopped, at=stopped, cron=stopped" ∧
      r.metrics = [count "cron" 0, count "sShd" 2, count "at" 0, count "cron" 0] := by
  intro table v args
  have hargs : ∀ raw ∈ args, (Argument.read raw).key = "process" := by decide
  have hcollected : v.host.collectedAt ≠ 0 := by decide
  have hnames : (args.map fun raw => (Argument.read raw).value) = ["cron", "sShd", "at", "cron"] :=
    rfl
  obtain ⟨r, hr, -, hreport⟩ := run_tells_missing hargs hcollected
  rw [hnames] at hreport
  obtain ⟨hmetrics, hstate, houtput, -⟩ := hreport (List.cons_ne_nil _ _)
  have hcritical : r.state = .critical := by
    refine hstate.mpr ⟨"cron", List.mem_cons_self, ?_⟩
    simp only [v, table]
    decide
  refine ⟨hargs, hcollected, r, hr, hcritical, ?_, hmetrics⟩
  rw [houtput hcritical]
  decide +kernel

end Probe.Processes
end MonitorAgent
