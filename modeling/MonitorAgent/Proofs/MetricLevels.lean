import MonitorAgent.Proofs.CountThresholds
import MonitorAgent.Proofs.QuotedText

/-!
# Metrics beside their levels

The network, uptime, drives and memory checks decide a threshold on the decimal text of a
whole number, and show the same number as a metric beside the level of the threshold.  The
text reads as the number that is shown.  So the state is critical just if one of the metrics
stands beyond its level, whatever other metrics there are.
-/

namespace MonitorAgent

/-! ## Decimal texts of whole numbers -/

namespace Decimal

theorem natOfDigits_toDigits (n : Nat) : natOfDigits (Nat.toDigits 10 n) = n :=
  Nat.ofDigitChars_ten_toDigits

theorem isDigit_toDigits (n : Nat) : ∀ c ∈ Nat.toDigits 10 n, c.isDigit = true := fun _ hc =>
  Nat.isDigit_of_mem_toDigits (by decide) (by decide) hc

theorem read?_toDigits (n : Nat) : read? (Nat.toDigits 10 n) = some (Float.ofNat n) := by
  rw [read?_digits Nat.toDigits_ne_nil (isDigit_toDigits n), natOfDigits_toDigits]
  rfl

end Decimal

namespace Threshold

variable {t : Threshold} {raw : String}

theorem fieldNumber?_toString (n : Nat) : fieldNumber? (toString n) = some (Float.ofNat n) := by
  have hsolid : Text.IsSolid (Nat.toDigits 10 n) := fun c hc =>
    Text.isSpace_of_isDigit (Decimal.isDigit_toDigits n c hc)
  rw [fieldNumber?, Nat.toString_eq_repr, Nat.toList_repr, hsolid.trim, Decimal.read?_toDigits]

/-- The threshold has a level, and the number stands in the relation to it. -/
def Orders (t : Threshold) (x : Float) : Prop :=
  ∃ level, t.number? = some level ∧ ordered t.operator x level = true

theorem isMet_iff_orders (h : read raw = .ok t) (hop : t.operator.isOrdering = true)
    {fields : Fields} {n : Nat} (htext : fields.lookup t.name = some (toString n)) :
    t.isMet fields = true ↔ t.Orders (Float.ofNat n) := by
  obtain ⟨hname, hnumber⟩ := isNumber_of_read h hop
  have henabled := isDisabled_of_isNumber hname hnumber
  have hmet : t.isMet fields = t.inOrder (toString n) := by
    simp only [isMet, henabled, htext, holds_of_isOrdering hop, Bool.not_false, Bool.true_and]
  rw [hmet, inOrder, fieldNumber?_toString, Orders]
  cases t.number? <;> simp

end Threshold

namespace Check

variable {s : Settings}

/-! ## Entries and their metrics -/

/-- The metric shows a level for critical, and its number stands in the relation to it. -/
def Metric.IsBeyond (op : Threshold.Operator) (m : Metric) : Prop :=
  ∃ level, m.critical = some level ∧ Threshold.ordered op m.value level = true

theorem Metric.isBeyond_withLevels {m : Metric} {key : String} :
    (m.withLevels s [key]).IsBeyond s.critical.operator ↔
      s.critical.name = key ∧ s.critical.Orders m.value := by
  by_cases hkey : s.critical.name = key <;>
    simp [IsBeyond, withLevels, level?, Threshold.Orders, hkey]

/-- The fields of the entry are critical just if one of its metrics tells so. -/
def Entry.Agrees (s : Settings) (e : Entry) : Prop :=
  s.critical.isMet e.fields = true ↔ ∃ m ∈ e.metrics, m.IsBeyond s.critical.operator

theorem Entry.critical_report_iff {entries : List Entry} (h : ∀ e ∈ entries, e.Agrees s)
    (hne : (report s entries).metrics ≠ []) :
    (report s entries).state = .critical ↔
      ∃ m ∈ (report s entries).metrics, m.IsBeyond s.critical.operator := by
  have hentries : entries.map (·.fields) ≠ [] := by
    intro hnil
    rw [List.map_eq_nil_iff] at hnil
    exact hne (by rw [hnil]; rfl)
  have hmetrics : (report s entries).metrics = entries.flatMap (·.metrics) := rfl
  rw [report, Tally.result_state hentries, Tally.critical_ofItems_iff, ← report, hmetrics]
  simp only [List.mem_flatMap, List.mem_map]
  constructor
  · rintro ⟨-, ⟨e, he, rfl⟩, hmet⟩
    obtain ⟨m, hm, hbeyond⟩ := (h e he).mp hmet
    exact ⟨m, ⟨e, he, hm⟩, hbeyond⟩
  · rintro ⟨m, ⟨e, he, hm⟩, hbeyond⟩
    exact ⟨e.fields, ⟨e, he, rfl⟩, (h e he).mpr ⟨m, hm, hbeyond⟩⟩

theorem Settings.exists_read_critical {args : List String} {rest : List Argument}
    (h : (s.read args).2 = .ok rest) (hown : ∃ raw, Threshold.read raw = .ok s.critical) :
    ∃ raw, Threshold.read raw = .ok (s.read args).1.critical := by
  have hlast := (follows_of_read h).critical
  rw [Settled] at hlast
  split at hlast
  next => rwa [hlast]
  next value _ =>
    refine ⟨value, ?_⟩
    rw [threshold?] at hlast
    cases hread : Threshold.read value with
    | error e => rw [hread] at hlast; cases hlast
    | ok t => rw [hread] at hlast; exact congrArg _ (Option.some.inj hlast)

end Check

namespace Probe

open Check

/-- The checks that show whole numbers beside levels. -/
inductive Meter where
  | network
  | uptime
  | drives
  | memory

namespace Meter

def name : Meter → String
  | network => "check_network"
  | uptime => "check_uptime"
  | drives => "check_drivesize"
  | memory => "check_memory"

def settings : Meter → Settings
  | network => Network.settings
  | uptime => Uptime.settings
  | drives => Drives.settings
  | memory => Memory.settings

/-- The fields whose numbers are shown as they are. -/
def keys : Meter → List String
  | network => ["received", "sent", "total"]
  | uptime => ["uptime"]
  | drives | memory => ["used"]

/-- What may be left of the arguments: names of things to look at, or nothing. -/
def IsOption : Meter → Argument → Prop
  | network, a => a.key ∈ ["device", "exclude"]
  | uptime, _ => False
  | drives, a => a.key ∈ ["drive", "exclude"]
  | memory, a => Memory.IsKind a

/-- The arguments can be read, and what is left of them is known to the check. -/
structure Accepts (c : Meter) (args : List String) : Prop where
  readable : ∀ raw ∈ args, (Argument.read raw).IsReadable
  options : ∀ a ∈ Argument.leftOver args, c.IsOption a

def IsEntry (s : Settings) (e : Entry) : Meter → Prop
  | network => ∃ i, e = Network.entry s i
  | uptime => ∃ seconds boot, e = Uptime.entry s seconds boot
  | drives => ∃ disk, e = Drives.entry s disk
  | memory => ∃ kind used total, e = Memory.entry s kind used total

variable {c : Meter} {s : Settings} {e : Entry} {v : View} {args : List String}

theorem agrees_usage (others : Fields) {used total : Nat} {bytesName percentName raw : String}
    (hread : Threshold.read raw = .ok s.critical)
    (hop : s.critical.operator.isOrdering = true) (hname : s.critical.name = "used")
    (hother : others.lookup "used" = none) :
    Entry.Agrees s ⟨others ++ usageFields used total,
      usageMetrics bytesName percentName used total s⟩ := by
  have htext : (others ++ usageFields used total).lookup s.critical.name =
      some (toString used) := by
    rw [hname, List.lookup_append, hother]
    rfl
  rw [Entry.Agrees, Threshold.isMet_iff_orders hread hop htext]
  simp [usageMetrics, share, Metric.isBeyond_withLevels, hname]

/-- A number whose text is among the fields is among the metrics, too, under the same key. -/
theorem agrees_of_isEntry (h : c.IsEntry s e) (hkey : s.critical.name ∈ c.keys)
    (hread : ∃ raw, Threshold.read raw = .ok s.critical)
    (hop : s.critical.operator.isOrdering = true) : e.Agrees s := by
  obtain ⟨raw, hread⟩ := hread
  cases c with
  | network =>
      obtain ⟨i, rfl⟩ := h
      simp only [keys, List.mem_cons, List.not_mem_nil, or_false] at hkey
      have hmet {n : Nat} (htext : (Network.entry s i).fields.lookup s.critical.name =
          some (toString n)) := Threshold.isMet_iff_orders hread hop htext
      rw [Entry.Agrees]
      rcases hkey with hname | hname | hname
      · rw [hmet (n := i.receiveRate.toNat) (by rw [hname]; rfl)]
        simp [Network.entry, sized, Metric.isBeyond_withLevels, hname]
      · rw [hmet (n := i.sendRate.toNat) (by rw [hname]; rfl)]
        simp [Network.entry, sized, Metric.isBeyond_withLevels, hname]
      · rw [hmet (n := (Network.totalRate i).toNat) (by rw [hname]; rfl)]
        simp [Network.entry, sized, Metric.isBeyond_withLevels, hname]
  | uptime =>
      obtain ⟨seconds, boot, rfl⟩ := h
      have hname : s.critical.name = "uptime" := List.mem_singleton.mp hkey
      have htext : (Uptime.entry s seconds boot).fields.lookup s.critical.name =
          some (toString seconds) := by
        rw [hname]
        rfl
      rw [Entry.Agrees, Threshold.isMet_iff_orders hread hop htext]
      simp [Uptime.entry, Metric.isBeyond_withLevels, hname]
  | drives =>
      obtain ⟨disk, rfl⟩ := h
      exact agrees_usage [("drive", disk.mount), ("fstype", disk.fileSystem)] hread hop
        (List.mem_singleton.mp hkey) rfl
  | memory =>
      obtain ⟨kind, used, total, rfl⟩ := h
      exact agrees_usage [("type", kind.name)] hread hop (List.mem_singleton.mp hkey) rfl

/-! ## What the checks report -/

theorem request_settings {s : Settings} {ks : List Memory.Kind}
    (h : Memory.request v args = .ok (s, ks)) : s = (Memory.settings.read args).1 := by
  obtain ⟨-, -, given, -, hrequest⟩ := requested_eq_ok_iff.mp h
  exact (Prod.mk.inj hrequest).1.symm

theorem isEntry_of_present? {host : Host.Snapshot} {kind : Memory.Kind}
    (h : Memory.present? host s kind = .ok (some e)) : memory.IsEntry s e := by
  obtain ⟨⟨used, total⟩, -, h⟩ := bind_eq_ok_iff.mp h
  have hentry : (if total = 0 then none else some (Memory.entry s kind used total)) = some e :=
    Except.ok.inj h
  split at hentry
  · cases hentry
  · exact ⟨kind, used, total, (Option.some.inj hentry).symm⟩

theorem check_network_eq_ok_iff {r : Result} :
    let left := Argument.leftOver args
    let sel : Network.Selection := ⟨valuesOf "device" left, valuesOf "exclude" left⟩
    let s := (Network.settings.read args).1
    Network.check v args = .ok r ↔ network.Accepts args ∧ v.host.collectedAt ≠ 0 ∧
      Entry.report s ((v.host.snapshot.interfaces.filter sel.selects).map (Network.entry s)) = r :=
  selected_eq_ok_iff.trans (and_congr_left' ⟨fun h => ⟨h.1, h.2⟩, fun h => ⟨h.1, h.2⟩⟩)

theorem check_drives_eq_ok_iff {r : Result} :
    let left := Argument.leftOver args
    let sel : Drives.Selection := ⟨valuesOf "drive" left, valuesOf "exclude" left⟩
    let s := (Drives.settings.read args).1
    Drives.check v args = .ok r ↔ drives.Accepts args ∧ v.host.collectedAt ≠ 0 ∧
      Entry.report s ((v.host.snapshot.disks.filter sel.selects).map (Drives.entry s)) = r :=
  selected_eq_ok_iff.trans (and_congr_left' ⟨fun h => ⟨h.1, h.2⟩, fun h => ⟨h.1, h.2⟩⟩)

theorem run_network_of_check {r : Result} (h : Network.check v args = .ok r) :
    (standard.run "check_network" args).run v = .ok r := by
  change (Outcome.ofExcept (Network.check v args)).settle = _
  rw [h]
  rfl

theorem run_drives_of_check {r : Result} (h : Drives.check v args = .ok r) :
    (standard.run "check_drivesize" args).run v = .ok r := by
  change (Outcome.ofExcept (Drives.check v args)).settle = _
  rw [h]
  rfl

theorem run_network (haccepts : network.Accepts args) (hcollected : v.host.collectedAt ≠ 0) :
    let left := Argument.leftOver args
    let sel : Network.Selection := ⟨valuesOf "device" left, valuesOf "exclude" left⟩
    let s := (Network.settings.read args).1
    (standard.run "check_network" args).run v =
      .ok (Entry.report s
        ((v.host.snapshot.interfaces.filter sel.selects).map (Network.entry s))) :=
  run_network_of_check (check_network_eq_ok_iff.mpr ⟨haccepts, hcollected, rfl⟩)

theorem run_drives (haccepts : drives.Accepts args) (hcollected : v.host.collectedAt ≠ 0) :
    let left := Argument.leftOver args
    let sel : Drives.Selection := ⟨valuesOf "drive" left, valuesOf "exclude" left⟩
    let s := (Drives.settings.read args).1
    (standard.run "check_drivesize" args).run v =
      .ok (Entry.report s ((v.host.snapshot.disks.filter sel.selects).map (Drives.entry s))) :=
  run_drives_of_check (check_drives_eq_ok_iff.mpr ⟨haccepts, hcollected, rfl⟩)

theorem run_uptime (haccepts : uptime.Accepts args) (hcollected : v.host.collectedAt ≠ 0) :
    (standard.run "check_uptime" args).run v =
      match Calendar.stamp? v.host.snapshot.bootTime.toNat with
      | none => .error .dateOverflow
      | some boot => .ok (Entry.report (Uptime.settings.read args).1
          [Uptime.entry (Uptime.settings.read args).1 v.host.snapshot.uptime.toNat boot]) := by
  have hnone := List.eq_nil_iff_forall_not_mem.mpr haccepts.options
  have hrequest := Uptime.request_eq_ok_iff.mpr ⟨rfl, ⟨haccepts.readable, hnone⟩, hcollected⟩
  change (Uptime.check v args).settle = _
  simp only [Uptime.check, hrequest]
  cases Calendar.stamp? v.host.snapshot.bootTime.toNat with
  | none => rfl
  | some boot => rfl

/-- All that an accepted check of a collected host can do: report its entries, or be broken off by
sizes of memory or a boot time that are too large. -/
theorem run_cases (haccepts : c.Accepts args) (hcollected : v.host.collectedAt ≠ 0) :
    (∃ entries, (standard.run c.name args).run v =
        .ok (Entry.report (c.settings.read args).1 entries) ∧
      ∀ e ∈ entries, c.IsEntry (c.settings.read args).1 e) ∨
    (standard.run c.name args).run v = .error .sizeOverflow ∧
      Memory.IsTooLarge v.host.snapshot ∨
    (standard.run c.name args).run v = .error .dateOverflow ∧
      c = .uptime ∧ 253402300800 ≤ v.host.snapshot.bootTime.toNat := by
  cases c with
  | network =>
      refine .inl ⟨_, run_network haccepts hcollected, fun e he => ?_⟩
      obtain ⟨i, -, rfl⟩ := List.mem_map.mp he
      exact ⟨i, rfl⟩
  | drives =>
      refine .inl ⟨_, run_drives haccepts hcollected, fun e he => ?_⟩
      obtain ⟨disk, -, rfl⟩ := List.mem_map.mp he
      exact ⟨disk, rfl⟩
  | uptime =>
      have hrun := run_uptime haccepts hcollected
      cases hstamp : Calendar.stamp? v.host.snapshot.bootTime.toNat with
      | some boot =>
          rw [hstamp] at hrun
          exact .inl ⟨_, hrun, fun e he => ⟨_, boot, List.mem_singleton.mp he⟩⟩
      | none =>
          rw [hstamp] at hrun
          exact .inr (.inr ⟨hrun, rfl, Uptime.stamp?_eq_none_iff.mp hstamp⟩)
  | memory =>
      obtain ⟨s, ks, hrequest, -⟩ :=
        Memory.request_of_accepts ⟨haccepts.readable, haccepts.options⟩ hcollected
      obtain rfl := request_settings hrequest
      have hrun : (standard.run memory.name args).run v = (Memory.check v args).settle := rfl
      cases hentries : ks.mapM (Memory.present? v.host.snapshot (Memory.settings.read args).1) with
      | error cause =>
          obtain ⟨-, hlarge, rfl⟩ := Memory.mapM_present?_eq_error_iff.mp hentries
          refine .inr (.inl ⟨?_, hlarge⟩)
          simp only [hrun, Memory.check, hrequest, hentries]
          rfl
      | ok entries =>
          refine .inl ⟨entries.filterMap id, ?_, fun e he => ?_⟩
          · simp only [hrun, Memory.check, hrequest, hentries]
            rfl
          · obtain ⟨found, hfound, rfl⟩ := List.mem_filterMap.mp he
            obtain ⟨kind, -, hkind⟩ := exists_of_mem_of_mapM_eq_ok hentries hfound
            exact isEntry_of_present? hkind

/-- A threshold that orders one of the shown numbers is critical just if a metric stands beyond the
level that it shows. -/
theorem run_critical_iff (hcollected : v.host.collectedAt ≠ 0) (haccepts : c.Accepts args)
    (hop : (c.settings.read args).1.critical.operator ∈
      [.lower, .lowerEqual, .greater, .greaterEqual])
    (hkey : (c.settings.read args).1.critical.name ∈ c.keys) :
    let op := (c.settings.read args).1.critical.operator
    let result := (standard.run c.name args).run v
    (¬Memory.IsTooLarge v.host.snapshot →
      (c = .uptime → v.host.snapshot.bootTime.toNat < 253402300800) → ∃ r, result = .ok r) ∧
    ∀ r, result = .ok r → r.metrics ≠ [] →
      (r.state = .critical ↔ ∃ m ∈ r.metrics, ∃ level, m.critical = some level ∧
        Threshold.ordered op m.value level = true) := by
  intro op result
  have hrest := (c.settings.read_eq_ok_iff args _).mpr ⟨haccepts.readable, rfl⟩
  have hown : ∃ raw, Threshold.read raw = .ok c.settings.critical := by
    cases c with
    | network => exact ⟨"total > 100MB", rfl⟩
    | uptime => exact ⟨"uptime < 60s", rfl⟩
    | drives | memory => exact ⟨"used > 90%", rfl⟩
  have hread := Settings.exists_read_critical hrest hown
  have hordering := Threshold.isOrdering_iff.mpr hop
  rcases run_cases haccepts hcollected with
    ⟨entries, hrun, hentries⟩ | ⟨hrun, hlarge⟩ | ⟨hrun, huptime, hlate⟩
  · refine ⟨fun _ _ => ⟨_, hrun⟩, fun r hr hne => ?_⟩
    obtain rfl := Except.ok.inj (hrun.symm.trans hr)
    exact Entry.critical_report_iff
      (fun e he => agrees_of_isEntry (hentries e he) hkey hread hordering) hne
  · refine ⟨fun hsmall _ => absurd hlarge hsmall, fun r hr => ?_⟩
    cases hrun.symm.trans hr
  · refine ⟨fun _ hearly => absurd (hearly huptime) (Nat.not_lt.mpr hlate), fun r hr => ?_⟩
    cases hrun.symm.trans hr

/-- The level is greater by one than the used bytes, but both read as the same number. -/
theorem run_critical_iff_rounded :
    let args := ["drive=/", "crit=used >= 9007199254740993B"]
    let v : View :=
      ⟨{ startedAt := 0, collectedAt := 1
         snapshot := { disks := [⟨"/", "ext4", 9007199254740992, 10000000000000000⟩] } }, {}, 0⟩
    let t : Threshold := ⟨"used", .greaterEqual, "9007199254740993", "B"⟩
    v.host.collectedAt ≠ 0 ∧ drives.Accepts args ∧ (drives.settings.read args).1.critical = t ∧
    t.operator ∈ [Threshold.Operator.lower, .lowerEqual, .greater, .greaterEqual] ∧
    t.name ∈ drives.keys ∧ ¬Memory.IsTooLarge v.host.snapshot ∧
    ∃ r, (standard.run drives.name args).run v = .ok r ∧ r.metrics ≠ [] ∧ r.state = .critical := by
  intro args v t
  have hcollected : v.host.collectedAt ≠ 0 := by decide
  have hread : drives.settings.read args =
      ({ Drives.settings with critical := t }, .ok [⟨"drive", "/"⟩]) := rfl
  have haccepts : drives.Accepts args := by
    obtain ⟨hreadable, hleft⟩ :=
      (drives.settings.read_eq_ok_iff args _).mp (congrArg Prod.snd hread)
    refine ⟨hreadable, ?_⟩
    rw [← hleft]
    simp [IsOption]
  have hcritical : (drives.settings.read args).1.critical = t := by rw [hread]
  have hop : t.operator ∈ [Threshold.Operator.lower, .lowerEqual, .greater, .greaterEqual] := by
    decide
  have hkey : t.name ∈ drives.keys := by decide
  have hsmall : ¬Memory.IsTooLarge v.host.snapshot := by
    simp [Memory.IsTooLarge, v]
  obtain ⟨hresult, hstate⟩ := run_critical_iff hcollected haccepts
    (by rw [hcritical]; exact hop) (by rw [hcritical]; exact hkey)
  obtain ⟨r, hr⟩ := hresult hsmall fun huptime => by cases huptime
  have hmetrics : r.metrics =
      usageMetrics "/ used" "/ used %" 9007199254740992 10000000000000000
        { Drives.settings with critical := t } := by
    obtain rfl := Except.ok.inj ((run_drives haccepts hcollected).symm.trans hr)
    rfl
  have hne : r.metrics ≠ [] := by
    rw [hmetrics]
    exact List.cons_ne_nil _ _
  have hused : { name := "/ used", unit := "B", value := Float.ofNat 9007199254740992
                 critical := t.number?, min := some 0
                 max := some (Float.ofNat 10000000000000000) : Metric } ∈ r.metrics := by
    rw [hmetrics]
    exact List.mem_cons_self
  have hbeyond : (t.number?.any fun level =>
      Threshold.ordered t.operator (Float.ofNat 9007199254740992) level) = true := by
    decide +kernel
  obtain ⟨level, hlevel, hordered⟩ := (Option.any_eq_true _ _).mp hbeyond
  rw [← hcritical] at hordered
  exact ⟨hcollected, haccepts, hcritical, hop, hkey, hsmall, r, hr, hne,
    (hstate r hr hne).mpr ⟨_, hused, level, hlevel, hordered⟩⟩

end Meter
end Probe
end MonitorAgent
