import MonitorAgent.Proofs.LatestValues
import MonitorAgent.Proofs.Ledger

/-!
# Families of the exposition

What the families are made of: that of a gauge takes nothing from the counters, and that
of a counter takes nothing from the gauges.  No two families have one name,
so that the samples under a name are those of one family.
-/

namespace MonitorAgent
namespace Telemetry

/-- The families are the same but for the samples of those of the kind. -/
structure Family.DifferIn (kind : Kind) (f g : Family) : Prop where
  name : f.name = g.name
  help : f.help = g.help
  same_kind : f.kind = g.kind
  samples : f.kind ≠ kind → f.samples = g.samples

variable {kind : Kind} (g g' : Gauges) (c d : Counters)

theorem Family.DifferIn.refl (f : Family) : f.DifferIn kind f :=
  ⟨rfl, rfl, rfl, fun _ => rfl⟩

theorem single_differIn (name help : String) (x y : Float) :
    (single kind name help x).DifferIn kind (single kind name help y) :=
  ⟨rfl, rfl, rfl, fun h => absurd rfl h⟩

theorem counted_differIn (name help : String) (labels : List String) (counts counts' : Counts) :
    (counted name help labels counts).DifferIn .counter (counted name help labels counts') :=
  ⟨rfl, rfl, rfl, fun h => absurd rfl h⟩

theorem keyed_differIn (name help label : String) (readings readings' : Readings) :
    (keyed name help label readings).DifferIn .gauge (keyed name help label readings') :=
  ⟨rfl, rfl, rfl, fun h => absurd rfl h⟩

/-- Other counts show in the counters only. -/
theorem families_differIn_counter :
    List.Forall₂ (Family.DifferIn .counter) (families g c) (families g d) := by
  unfold families
  repeat' apply List.Forall₂.cons
  all_goals first
    | exact List.Forall₂.nil
    | exact Family.DifferIn.refl _
    | exact counted_differIn _ _ _ _ _
    | exact single_differIn _ _ _ _

/-- Other gauges show in the gauges only. -/
theorem families_differIn_gauge :
    List.Forall₂ (Family.DifferIn .gauge) (families g c) (families g' c) := by
  unfold families
  repeat' apply List.Forall₂.cons
  all_goals first
    | exact List.Forall₂.nil
    | exact Family.DifferIn.refl _
    | exact keyed_differIn _ _ _ _ _
    | exact single_differIn _ _ _ _

/-! ## Samples by the name of their family -/

theorem nodup_names : ((families g c).map Family.name).Nodup := by
  have hnames : (families g c).map Family.name = (families {} {}).map Family.name := rfl
  rw [hnames]
  decide

theorem samples_eq {f : Family} (h : f ∈ families g c) :
    samples f.name g c = f.samples := by
  obtain ⟨before, after, hfamilies⟩ := List.append_of_mem h
  have hnames := nodup_names g c
  rw [hfamilies, List.map_append, List.map_cons, List.nodup_middle, List.nodup_cons,
    List.mem_append, not_or] at hnames
  have hother (families : List Family) (hname : f.name ∉ families.map Family.name) :
      families.filter (·.name = f.name) = [] := by
    apply List.filter_eq_nil_iff.mpr
    intro g hg heq
    exact hname (of_decide_eq_true heq ▸ List.mem_map_of_mem hg)
  have hself : (f :: after).filter (·.name = f.name) = f :: after.filter (·.name = f.name) :=
    List.filter_cons_of_pos (decide_eq_true rfl)
  rw [samples, hfamilies, List.filter_append, hself, hother before hnames.1.1,
    hother after hnames.1.2]
  exact List.append_nil f.samples

theorem samples_single {kind : Kind} {name help : String} {value : Float} (place : Nat)
    (h : (families g c)[place]? = some (single kind name help value)) :
    samples name g c = [⟨[], value⟩] :=
  samples_eq g c (List.mem_of_getElem? h)

theorem samples_keyed {α : Type} {name help label : String} {key : α → String}
    {value : α → Float} {entries : List α} {readings : Readings} (place : Nat)
    (h : (families g c)[place]? = some (keyed name help label readings))
    (hreadings : readings = Readings.setAll [] key value entries) :
    ShowsLatest (samples name g c) label key value entries := by
  have hsamples : samples name g c = _ := samples_eq g c (List.mem_of_getElem? h)
  rw [hsamples, hreadings]
  exact keyed_showsLatest key value entries name help label

end Telemetry
end MonitorAgent
