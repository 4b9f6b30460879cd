import MonitorAgent.Proofs.MetricLevels

/-!
# What the drives and network checks look at

Each of the two checks goes through a list of the host once and leaves out what is excluded
and what is not asked for.  So a part of the host stands for one item and its metrics, at its
place in the list, however often its name is given, and parts with the same name stand for
items of their own.  Only the drives check has words that ask for all.  The state is that of
the worst item, and where nothing is left, the state for that case.
-/

namespace MonitorAgent
namespace Check

variable {s : Settings} {α : Type}

/-! ## Values of arguments -/

theorem valuesOf_leftOver {key : String} (hkey : key ∉ Settings.keys) (args : List String) :
    valuesOf key (Argument.leftOver args) = valuesOf key (args.map Argument.read) := by
  rw [valuesOf, valuesOf, Argument.leftOver, List.filter_filter]
  congr 1
  apply List.filter_congr
  intro a _
  by_cases hsame : a.key = key
  · simp [hsame, hkey]
  · simp [hsame]

/-! ## Results -/

/-- The result tells of just these entries, and of each as one item. -/
structure Result.TellsOf (r : Result) (s : Settings) (entries : List Entry) : Prop where
  metrics : r.metrics = entries.flatMap (·.metrics)
  nothing : entries = [] → r.metrics = [] ∧ r.state = s.emptyState ∧
    r.output = Template.render s.empty [("status", s.emptyState.name), ("count", "0")]
  worst : entries ≠ [] → State.IsWorst (entries.map fun e => s.classify e.fields) r.state
  output : entries ≠ [] →
    let lines := Tally.detailLines s (entries.map (·.fields))
    r.output = Template.render (if r.state = .ok then s.ok else s.top)
      [("status", r.state.name), ("count", toString entries.length),
       ("ok_list", ", ".intercalate (lines .ok)), ("warn_list", ", ".intercalate (lines .warning)),
       ("crit_list", ", ".intercalate (lines .critical)),
       ("problem_list", ", ".intercalate (lines .critical ++ lines .warning)),
       ("list", ", ".intercalate (lines .critical ++ lines .warning ++ lines .ok))]

theorem Entry.report_tellsOf (s : Settings) (entries : List Entry) :
    (report s entries).TellsOf s entries := by
  have hitems (hne : entries ≠ []) : entries.map (·.fields) ≠ [] := mt List.map_eq_nil_iff.mp hne
  have hstate (hne : entries ≠ []) : (report s entries).state =
      (Tally.ofItems s (entries.map (·.fields))).state := Tally.result_state (hitems hne) _
  constructor
  · rfl
  · rintro rfl
    exact ⟨rfl, rfl, rfl⟩
  · intro hne
    have hworst := Tally.isWorst_ofItems s (entries.map (·.fields))
    rw [List.map_map] at hworst
    rwa [hstate hne]
  · intro hne lines
    have hcount := Tally.count_ofItems_ne_zero s (hitems hne)
    have hsummary := Tally.summary_ofItems s (entries.map (·.fields))
    rw [← hstate hne, List.length_map] at hsummary
    rw [← hsummary, hstate hne, report, Tally.result, Tally.finish, if_neg hcount]
    simp only [Fields.override, List.append_nil]

theorem Result.TellsOf.metrics_eq {r : Result} {entry : α → Entry} {chosen : List α}
    {metrics : α → List Metric} (h : r.TellsOf s (chosen.map entry))
    (hmetrics : ∀ a, (entry a).metrics = metrics a) : r.metrics = chosen.flatMap metrics := by
  rw [h.metrics, List.flatMap_map]
  exact List.flatMap_congr fun a _ => hmetrics a

end Check

namespace Probe

open Check

/-! ## Selections -/

/-- The disks that are asked for, by their mount points or all at once, and not excluded. -/
def Drives.chosen (given : List Argument) (disks : List Host.Disk) : List Host.Disk :=
  let wanted := valuesOf "drive" given
  disks.filter fun disk => disk.mount ∉ valuesOf "exclude" given ∧
    (wanted = [] ∨ "*" ∈ wanted ∨ "all" ∈ wanted ∨ disk.mount ∈ wanted)

/-- The interfaces that are asked for and not excluded.  No name stands for all of them. -/
def Network.chosen (given : List Argument) (interfaces : List Host.Interface) :
    List Host.Interface :=
  let wanted := valuesOf "device" given
  interfaces.filter fun i => i.name ∉ valuesOf "exclude" given ∧
    (wanted = [] ∨ i.name ∈ wanted)

/-! ## Metrics -/

/-- The level of a threshold on a field, which another field does not have. -/
def levelOn (key : String) (t : Threshold) : Option Float :=
  if t.name = key then t.number? else none

theorem level?_singleton (key : String) (t : Threshold) :
    Metric.level? [key] t = levelOn key t := by
  simp only [Metric.level?, levelOn, List.mem_singleton]

/-- What is told of a disk: its used bytes and their share in percent, to a tenth. -/
def Drives.told (s : Settings) (disk : Host.Disk) : List Metric :=
  [{ name := disk.mount ++ " used", unit := "B", value := Float.ofNat disk.used.toNat
     warning := levelOn "used" s.warning, critical := levelOn "used" s.critical
     min := some 0, max := some (Float.ofNat disk.total.toNat) },
   { name := disk.mount ++ " used %", unit := "%"
     value := Decimal.nearestWhole (Host.percent disk.used.toNat disk.total.toNat * 10) / 10
     warning := levelOn "used_pct" s.warning, critical := levelOn "used_pct" s.critical
     min := some 0, max := some 100 }]

/-- One of the rates of an interface, with the levels on its field. -/
def Network.rate (s : Settings) (name key : String) (rate : Nat) : Metric :=
  { name, unit := "B", value := Float.ofNat rate, warning := levelOn key s.warning
    critical := levelOn key s.critical, min := some 0 }

/-- What is told of an interface: its traffic in, out and in both directions, which is cut to 64
bits. -/
def Network.told (s : Settings) (i : Host.Interface) : List Metric :=
  [rate s (i.name ++ "_traffic_in") "received" i.receiveRate.toNat,
   rate s (i.name ++ "_traffic_out") "sent" i.sendRate.toNat,
   rate s (i.name ++ "_traffic_total") "total"
     (min (i.receiveRate.toNat + i.sendRate.toNat) (UInt64.size - 1))]

theorem Drives.metrics_entry (s : Settings) (disk : Host.Disk) :
    (entry s disk).metrics = told s disk := by
  simp only [entry, usageMetrics, share, Metric.withLevels, level?_singleton, told]

theorem Network.metrics_entry (s : Settings) (i : Host.Interface) :
    (entry s i).metrics = told s i := by
  have htotal : (totalRate i).toNat =
      min (i.receiveRate.toNat + i.sendRate.toNat) (UInt64.size - 1) := by
    have hsize : 0 < UInt64.size := by decide
    exact UInt64.toNat_ofNat_of_lt' (by omega)
  simp only [entry, sized, Metric.withLevels, level?_singleton, told, rate, htotal]

/-! ## What is selected -/

theorem Drives.Selection.selects_iff (sel : Selection) (disk : Host.Disk) :
    sel.selects disk = true ↔ disk.mount ∉ sel.excluded ∧
      (sel.drives = [] ∨ "*" ∈ sel.drives ∨ "all" ∈ sel.drives ∨ disk.mount ∈ sel.drives) := by
  have hwildcard : sel.drives.any isWildcard = true ↔ "*" ∈ sel.drives ∨ "all" ∈ sel.drives := by
    simp only [List.any_eq_true, isWildcard, Bool.or_eq_true, beq_iff_eq, and_or_left, exists_or,
      exists_eq_right]
  rw [selects, wantsAll, Bool.and_eq_true, Bool.or_eq_true, Bool.or_eq_true, hwildcard,
    List.isEmpty_iff, Bool.not_eq_true', ← Bool.not_eq_true, List.contains_iff_mem,
    List.contains_iff_mem, or_assoc, or_assoc]

theorem Network.Selection.selects_iff (sel : Selection) (i : Host.Interface) :
    sel.selects i = true ↔
      i.name ∉ sel.excluded ∧ (sel.devices = [] ∨ i.name ∈ sel.devices) := by
  rw [selects, Bool.and_eq_true, Bool.or_eq_true, List.isEmpty_iff, Bool.not_eq_true',
    ← Bool.not_eq_true, List.contains_iff_mem, List.contains_iff_mem]

theorem Drives.filter_selects (args : List String) (disks : List Host.Disk) :
    let left := Argument.leftOver args
    let sel : Selection := ⟨valuesOf "drive" left, valuesOf "exclude" left⟩
    disks.filter sel.selects = chosen (args.map Argument.read) disks := by
  intro left sel
  apply List.filter_congr
  intro disk _
  rw [Bool.eq_iff_iff, Selection.selects_iff, decide_eq_true_iff,
    ← valuesOf_leftOver (by decide) args, ← valuesOf_leftOver (by decide) args]

theorem Network.filter_selects (args : List String) (interfaces : List Host.Interface) :
    let left := Argument.leftOver args
    let sel : Selection := ⟨valuesOf "device" left, valuesOf "exclude" left⟩
    interfaces.filter sel.selects = chosen (args.map Argument.read) interfaces := by
  intro left sel
  apply List.filter_congr
  intro i _
  rw [Bool.eq_iff_iff, Selection.selects_iff, decide_eq_true_iff,
    ← valuesOf_leftOver (by decide) args, ← valuesOf_leftOver (by decide) args]

namespace Meter

variable {v : View} {args : List String} {r : Result}

/-! ## What the checks tell -/

theorem exists_check_drives_iff (hcollected : v.host.collectedAt ≠ 0) :
    (∃ r, Drives.check v args = .ok r) ↔ drives.Accepts args := by
  constructor
  · rintro ⟨r, hr⟩
    exact (check_drives_eq_ok_iff.mp hr).1
  · intro haccepts
    exact ⟨_, check_drives_eq_ok_iff.mpr ⟨haccepts, hcollected, rfl⟩⟩

theorem exists_check_network_iff (hcollected : v.host.collectedAt ≠ 0) :
    (∃ r, Network.check v args = .ok r) ↔ network.Accepts args := by
  constructor
  · rintro ⟨r, hr⟩
    exact (check_network_eq_ok_iff.mp hr).1
  · intro haccepts
    exact ⟨_, check_network_eq_ok_iff.mpr ⟨haccepts, hcollected, rfl⟩⟩

theorem drives_tellsOf (h : Drives.check v args = .ok r) :
    let s := (Drives.settings.read args).1
    let chosen := Drives.chosen (args.map Argument.read) v.host.snapshot.disks
    r.TellsOf s (chosen.map (Drives.entry s)) := by
  obtain ⟨-, -, rfl⟩ := check_drives_eq_ok_iff.mp h
  rw [Drives.filter_selects]
  exact Entry.report_tellsOf _ _

theorem network_tellsOf (h : Network.check v args = .ok r) :
    let s := (Network.settings.read args).1
    let chosen := Network.chosen (args.map Argument.read) v.host.snapshot.interfaces
    r.TellsOf s (chosen.map (Network.entry s)) := by
  obtain ⟨-, -, rfl⟩ := check_network_eq_ok_iff.mp h
  rw [Network.filter_selects]
  exact Entry.report_tellsOf _ _

/-- The two checks tell of just the disks and the interfaces that are asked for and not excluded, of
each one time and in the order of the host, with the values and the levels of its own metrics. -/
theorem check_tellsOf_chosen (hcollected : v.host.collectedAt ≠ 0) (args : List String) :
    ((∃ r, Drives.check v args = .ok r) ↔ drives.Accepts args) ∧
    (∀ r, Drives.check v args = .ok r →
      let s := (Drives.settings.read args).1
      let chosen := Drives.chosen (args.map Argument.read) v.host.snapshot.disks
      (standard.run "check_drivesize" args).run v = .ok r ∧
      r.TellsOf s (chosen.map (Drives.entry s)) ∧
      r.metrics = chosen.flatMap (Drives.told s)) ∧
    ((∃ r, Network.check v args = .ok r) ↔ network.Accepts args) ∧
    ∀ r, Network.check v args = .ok r →
      let s := (Network.settings.read args).1
      let chosen := Network.chosen (args.map Argument.read) v.host.snapshot.interfaces
      (standard.run "check_network" args).run v = .ok r ∧
      r.TellsOf s (chosen.map (Network.entry s)) ∧
      r.metrics = chosen.flatMap (Network.told s) := by
  refine ⟨exists_check_drives_iff hcollected, fun r hr => ?_, exists_check_network_iff hcollected,
    fun r hr => ?_⟩
  · have htells := drives_tellsOf hr
    exact ⟨run_drives_of_check hr, htells, htells.metrics_eq (Drives.metrics_entry _)⟩
  · have htells := network_tellsOf hr
    exact ⟨run_network_of_check hr, htells, htells.metrics_eq (Network.metrics_entry _)⟩

/-- A mount point that is there two times and asked for twice, a device beside the word that only
the other check takes for all, and that word alone. -/
theorem check_tellsOf_chosen_repeated :
    let v : View :=
      ⟨{ startedAt := 0, collectedAt := 1
         snapshot :=
           { disks := [⟨"/", "ext4", 50, 100⟩, ⟨"/var", "ext4", 95, 100⟩, ⟨"/", "ext4", 85, 100⟩]
             interfaces := [⟨"lo", 0, 0, 7, 7⟩, ⟨"eth0", 0, 0, 90000000, 5000000⟩] } }, {}, 0⟩
    v.host.collectedAt ≠ 0 ∧
    (∃ r, (standard.run "check_drivesize" ["drive=*", "exclude=/var", "drive=/"]).run v = .ok r ∧
      r.state = .warning ∧
      r.metrics.map (·.name) = ["/ used", "/ used %", "/ used", "/ used %"]) ∧
    (∃ r, (standard.run "check_network" ["device=*", "device=eth0"]).run v = .ok r ∧
      r.state = .warning ∧ r.metrics =
        [{ name := "eth0_traffic_in", unit := "B", value := 90000000, min := some 0 },
         { name := "eth0_traffic_out", unit := "B", value := 5000000, min := some 0 },
         { name := "eth0_traffic_total", unit := "B", value := 95000000
           warning := some 80000000, critical := some 100000000, min := some 0 }]) ∧
    ∃ r, (standard.run "check_network" ["device=*", "empty-state=ok"]).run v = .ok r ∧
      r.state = .ok ∧ r.metrics = [] := by
  intro v
  have hcollected : v.host.collectedAt ≠ 0 := by decide
  refine ⟨hcollected, ?_, ?_, ?_⟩
  · obtain ⟨-, htells, -⟩ :=
      check_tellsOf_chosen hcollected ["drive=*", "exclude=/var", "drive=/"]
    obtain ⟨hrun, hall, hmetrics⟩ := htells _ rfl
    refine ⟨_, hrun, ?_, congrArg (·.map (·.name)) hmetrics⟩
    have hstates : ([⟨"/", "ext4", 50, 100⟩, ⟨"/", "ext4", 85, 100⟩] : List Host.Disk).map
        (fun disk => Drives.settings.classify (Drives.entry Drives.settings disk).fields) =
          [.ok, .warning] := by
      decide +kernel
    have hworst : State.IsWorst [.ok, .warning] .warning := ⟨by decide, .inr (by decide)⟩
    rw [← hstates] at hworst
    exact (hall.worst (List.cons_ne_nil _ _)).unique hworst
  · obtain ⟨-, -, -, htells⟩ := check_tellsOf_chosen hcollected ["device=*", "device=eth0"]
    obtain ⟨hrun, hall, hmetrics⟩ := htells _ rfl
    refine ⟨_, hrun, ?_, hmetrics.trans ?_⟩
    · have hstate : ([⟨"eth0", 0, 0, 90000000, 5000000⟩] : List Host.Interface).map
          (fun i => Network.settings.classify (Network.entry Network.settings i).fields) =
            [.warning] := by
        decide +kernel
      have hworst : State.IsWorst [.warning] .warning := ⟨by decide, .inr (by decide)⟩
      rw [← hstate] at hworst
      exact (hall.worst (List.cons_ne_nil _ _)).unique hworst
    · have hlevels : levelOn "total" Network.settings.warning = some 80000000 ∧
          levelOn "total" Network.settings.critical = some 100000000 := by
        decide +kernel
      refine Eq.trans (b := Network.told Network.settings ⟨"eth0", 0, 0, 90000000, 5000000⟩) rfl ?_
      simp only [Network.told, Network.rate, hlevels]
      rfl
  · obtain ⟨-, -, -, htells⟩ := check_tellsOf_chosen hcollected ["device=*", "empty-state=ok"]
    obtain ⟨hrun, hall, -⟩ := htells _ rfl
    obtain ⟨hmetrics, hstate, -⟩ := hall.nothing rfl
    exact ⟨_, hrun, hstate, hmetrics⟩

end Meter
end Probe
end MonitorAgent
