import MonitorAgent.Proofs.ExpositionLines
import Mathlib.Data.List.Induction
import Mathlib.Data.List.Nodup

/-!
# Latest values

Readings are set one after the other, and a value takes the place of an earlier one under
its key.  What stands there, if nothing did before, is one value to each key, that of the
last entry that has the key.
-/

namespace MonitorAgent
namespace Telemetry

variable {α : Type} {key : α → String} {entries : List α} {x y : α}

/-- No later entry has the key of this one. -/
def IsLatest (key : α → String) (entries : List α) (x : α) : Prop :=
  ∃ before after, entries = before ++ x :: after ∧ ∀ y ∈ after, key y ≠ key x

theorem isLatest_nil : ¬IsLatest key [] x := by
  rintro ⟨before, after, h, -⟩
  exact List.append_ne_nil_of_right_ne_nil before (List.cons_ne_nil x after) h.symm

theorem isLatest_concat :
    IsLatest key (entries ++ [y]) x ↔ x = y ∨ key x ≠ key y ∧ IsLatest key entries x := by
  constructor
  · rintro ⟨before, after, heq, hafter⟩
    rcases List.eq_nil_or_concat after with rfl | ⟨later, z, rfl⟩
    · exact .inl (List.singleton_inj.mp (List.append_inj_right' heq rfl)).symm
    · rw [List.concat_eq_append, ← List.cons_append, ← List.append_assoc] at heq
      obtain ⟨rfl, hz⟩ := List.append_inj' heq rfl
      obtain rfl := List.singleton_inj.mp hz
      rw [List.concat_eq_append] at hafter
      refine .inr ⟨fun hkey => ?_, before, later, rfl, fun other hother => ?_⟩
      · exact hafter y (List.mem_append_right later (List.mem_singleton_self y)) hkey.symm
      · exact hafter other (List.mem_append_left [y] hother)
  · rintro (rfl | ⟨hkey, before, after, rfl, hafter⟩)
    · exact ⟨entries, [], rfl, fun other hother => absurd hother List.not_mem_nil⟩
    · refine ⟨before, after ++ [y], by rw [List.append_assoc, List.cons_append], ?_⟩
      intro other hother
      rcases List.mem_append.mp hother with hother | hother
      · exact hafter other hother
      · rw [List.mem_singleton.mp hother]
        exact Ne.symm hkey

/-! ## Readings in the order of their keys -/

namespace Readings

/-- The keys increase, so that each of them stands there once. -/
def Increasing (readings : Readings) : Prop :=
  (readings.map Prod.fst).Pairwise (· < ·)

variable {readings : Readings} {k other : String} {v w : Float}

theorem Increasing.lt_of_mem (h : Increasing ((k, v) :: readings)) (hmem : (other, w) ∈ readings) :
    k < other :=
  (List.pairwise_cons.mp h).1 other (List.mem_map_of_mem hmem)

theorem Increasing.tail (h : Increasing ((k, v) :: readings)) : Increasing readings :=
  (List.pairwise_cons.mp h).2

theorem mem_keys_set {name : String} :
    name ∈ (set k v readings).map Prod.fst ↔ name = k ∨ name ∈ readings.map Prod.fst := by
  fun_induction set k v readings with
  | case1 => simp
  | case2 present more => simp
  | case3 first present more hne hlt => simp
  | case4 first present more hne hlt ih =>
      rw [List.map_cons, List.mem_cons, ih, List.map_cons, List.mem_cons]
      exact or_left_comm

theorem Increasing.set (h : Increasing readings) : Increasing (readings.set k v) := by
  fun_induction Readings.set k v readings with
  | case1 => exact List.pairwise_singleton _ _
  | case2 present more => exact h
  | case3 first present more hne hlt =>
      refine List.pairwise_cons.mpr ⟨fun name hname => ?_, h⟩
      rcases List.mem_cons.mp hname with rfl | hname
      · exact hlt
      · exact lt_trans hlt ((List.pairwise_cons.mp h).1 name hname)
  | case4 first present more hne hlt ih =>
      refine List.pairwise_cons.mpr ⟨fun name hname => ?_, ih h.tail⟩
      rcases mem_keys_set.mp hname with rfl | hname
      · exact lt_of_le_of_ne (le_of_not_gt hlt) (Ne.symm hne)
      · exact (List.pairwise_cons.mp h).1 name hname

theorem mem_set (h : Increasing readings) :
    (other, w) ∈ readings.set k v ↔ other = k ∧ w = v ∨ other ≠ k ∧ (other, w) ∈ readings := by
  fun_induction Readings.set k v readings with
  | case1 => simp
  | case2 present more =>
      have hmore (hmem : (other, w) ∈ more) : other ≠ k := ne_of_gt (h.lt_of_mem hmem)
      simp only [List.mem_cons, Prod.mk.injEq]
      tauto
  | case3 first present more hne hlt =>
      have hrest (hmem : (other, w) ∈ (first, present) :: more) : other ≠ k := by
        rcases List.mem_cons.mp hmem with heq | hmem
        · cases heq
          exact Ne.symm hne
        · exact ne_of_gt (lt_trans hlt (h.lt_of_mem hmem))
      rw [List.mem_cons, Prod.mk.injEq]
      tauto
  | case4 first present more hne hlt ih =>
      rw [List.mem_cons, ih h.tail, List.mem_cons, Prod.mk.injEq]
      have hfirst (heq : other = first) : other ≠ k := heq ▸ Ne.symm hne
      tauto

/-- Sets the values of entries, one after the other. -/
def setAll (readings : Readings) (key : α → String) (value : α → Float) (entries : List α) :
    Readings :=
  entries.foldl (fun readings x => readings.set (key x) (value x)) readings

theorem setAll_concat (key : α → String) (value : α → Float) (entries : List α) (y : α) :
    setAll readings key value (entries ++ [y]) =
      (setAll readings key value entries).set (key y) (value y) :=
  List.foldl_concat ..

theorem Increasing.setAll (h : Increasing readings) (key : α → String) (value : α → Float)
    (entries : List α) : Increasing (readings.setAll key value entries) := by
  induction entries using List.reverseRecOn with
  | nil => exact h
  | append_singleton entries y ih =>
      rw [setAll_concat]
      exact ih.set

theorem increasing_nil : Increasing [] :=
  List.Pairwise.nil

theorem mem_setAll_nil {value : α → Float} : (k, v) ∈ setAll [] key value entries ↔
    ∃ x, IsLatest key entries x ∧ k = key x ∧ v = value x := by
  -- What is set last takes the place of all that has its key, so the last entry is split off.
  induction entries using List.reverseRecOn with
  | nil =>
      constructor
      · intro h
        cases h
      · rintro ⟨x, hx, -⟩
        exact absurd hx isLatest_nil
  | append_singleton entries y ih =>
      rw [setAll_concat, mem_set (increasing_nil.setAll key value entries), ih]
      constructor
      · rintro (⟨rfl, rfl⟩ | ⟨hne, x, hx, rfl, rfl⟩)
        · exact ⟨y, isLatest_concat.mpr (.inl rfl), rfl, rfl⟩
        · exact ⟨x, isLatest_concat.mpr (.inr ⟨hne, hx⟩), rfl, rfl⟩
      · rintro ⟨x, hx, rfl, rfl⟩
        rcases isLatest_concat.mp hx with rfl | ⟨hne, hx⟩
        · exact .inl ⟨rfl, rfl⟩
        · exact .inr ⟨hne, x, hx, rfl, rfl⟩

end Readings

/-! ## Families -/

/-- One sample to each key, with the value of its latest entry, and a line of its own to each. -/
structure ShowsLatest (samples : List Sample) (label : String) (key : α → String)
    (value : α → Float) (entries : List α) : Prop where
  mem_iff : ∀ s, s ∈ samples ↔ ∃ x, IsLatest key entries x ∧ s = ⟨[(label, key x)], value x⟩
  nodup : (samples.map Sample.labels).Nodup
  lines_nodup : ∀ name, (samples.map (Sample.line name)).Nodup

theorem nodup_lines {samples : List Sample} {label : String}
    (hlabel : ∀ s ∈ samples, s.labels.map Prod.fst = [label])
    (h : (samples.map Sample.labels).Nodup) (name : String) :
    (samples.map (Sample.line name)).Nodup := by
  refine List.Nodup.map_on (fun s hs t ht hline => ?_) (List.Nodup.of_map _ h)
  have hnames : s.labels.map Prod.fst = t.labels.map Prod.fst := by rw [hlabel s hs, hlabel t ht]
  exact List.inj_on_of_nodup_map h hs ht (labels_of_line hnames hline)

theorem keyed_showsLatest (key : α → String) (value : α → Float) (entries : List α)
    (name help label : String) :
    ShowsLatest (keyed name help label (Readings.setAll [] key value entries)).samples label key
      value entries := by
  let samples := (keyed name help label (Readings.setAll [] key value entries)).samples
  have hlabel : ∀ s ∈ samples, s.labels.map Prod.fst = [label] := by
    intro s hs
    obtain ⟨entry, -, rfl⟩ := List.mem_map.mp hs
    rfl
  have hnodup : (samples.map Sample.labels).Nodup := by
    have hkeys := (Readings.increasing_nil.setAll key value entries).imp ne_of_lt
    have hmap : samples.map Sample.labels =
        ((Readings.setAll [] key value entries).map Prod.fst).map fun k => [(label, k)] := by
      rw [List.map_map]
      exact List.map_map
    rw [hmap]
    refine List.Nodup.map ?_ hkeys
    intro k k' heq
    exact (Prod.mk.inj (List.cons.inj heq).1).2
  refine ⟨fun s => ?_, hnodup, nodup_lines hlabel hnodup⟩
  rw [keyed, List.mem_map]
  constructor
  · rintro ⟨⟨k, v⟩, hmem, rfl⟩
    obtain ⟨x, hx, rfl, rfl⟩ := Readings.mem_setAll_nil.mp hmem
    exact ⟨x, hx, rfl⟩
  · rintro ⟨x, hx, rfl⟩
    exact ⟨(key x, value x), Readings.mem_setAll_nil.mpr ⟨x, hx, rfl, rfl⟩, rfl⟩

end Telemetry
end MonitorAgent
