import MonitorAgent.Proofs.CollectedRates
import Mathlib.Data.List.Chain

/-!
# The traffic that rates report

A rate reports as many bytes as it has to each second since the collection before.  It is
the growth of a counter rounded down, so that over a run of collections the rates never
report more than the counter has grown by.  What gets lost in one step are fewer bytes
than it has seconds, and so it is for the whole run.
-/

namespace MonitorAgent
namespace Host

variable {name : String} {i j : Interface} {interfaces : List Interface} {f : Interface → UInt64}

/-! ## What is read of an interface -/

/-- The two directions of the traffic of an interface. -/
inductive Direction where
  | received
  | sent

namespace Direction

def total : Direction → Interface → UInt64
  | received => Interface.received
  | sent => Interface.sent

def rate : Direction → Interface → UInt64
  | received => Interface.receiveRate
  | sent => Interface.sendRate

end Direction

/-- A number of the interface with the name, zero where there is none. -/
def Snapshot.reading (snapshot : Snapshot) (name : String) (f : Interface → UInt64) : Nat :=
  ((snapshot.interfaces.find? (·.name == name)).map fun i => (f i).toNat).getD 0

/-- The bytes that the rates report which the state has after each of the collections: the rate
times the seconds since the collection before. -/
def State.reported (s : State) (name : String) (d : Direction) (before : Int64) :
    List Collection → Int
  | [] => 0
  | (now, snapshot) :: more =>
    let next := s.collect now snapshot
    next.snapshot.reading name d.rate * (now.toInt - before.toInt) + next.reported name d now more

/-- The collections come one after the other and none before 1970.  Each finds just one interface
with the name, and its totals never fall. -/
structure IsMeasured (name : String) (collections : List Collection) : Prop where
  nonneg : ∀ c ∈ collections, 0 ≤ c.1.toInt
  times : collections.IsChain fun a b => a.1.toInt < b.1.toInt
  once : ∀ c ∈ collections, c.2.interfaces.countP (·.name == name) = 1
  totals : ∀ d : Direction,
    collections.IsChain fun a b => a.2.reading name d.total ≤ b.2.reading name d.total

theorem reading_of_filter {snapshot : Snapshot}
    (h : snapshot.interfaces.filter (·.name == name) = [i]) :
    snapshot.reading name f = (f i).toNat := by
  rw [Snapshot.reading, ← List.head?_filter, h]
  rfl

theorem lastNamed?_of_filter (h : interfaces.filter (·.name == name) = [i]) :
    lastNamed? name interfaces = some i := by
  rw [lastNamed?, ← List.head?_filter, List.filter_reverse, h]
  rfl

theorem name_eq_of_filter (h : interfaces.filter (·.name == name) = [i]) : i.name = name := by
  have hmem : i ∈ interfaces.filter (·.name == name) := h ▸ List.mem_singleton_self i
  exact beq_iff_eq.mp (List.mem_filter.mp hmem).2

theorem exists_filter_eq (h : interfaces.countP (·.name == name) = 1) :
    ∃ i, interfaces.filter (·.name == name) = [i] := by
  rw [List.countP_eq_length_filter] at h
  exact List.length_eq_one_iff.mp h

/-! ## One collection after another -/

theorem filter_map_rated (h : interfaces.filter (·.name == name) = [i]) (earlier : List Interface)
    (seconds : Nat) :
    (interfaces.map (·.rated earlier seconds)).filter (·.name == name) =
      [i.rated earlier seconds] := by
  have hname : ((·.name == name) ∘ fun j : Interface => j.rated earlier seconds) =
      (·.name == name) := by
    funext j
    obtain ⟨received, sent, heq⟩ := exists_rated_eq j earlier seconds
    rw [Function.comp, heq]
  rw [List.filter_map, hname, h]
  rfl

theorem rate_rated {earlier : List Interface} (h : lastNamed? j.name earlier = some i)
    (d : Direction) (seconds : Nat) :
    (d.rate (j.rated earlier seconds)).toNat =
      ((d.total j).toNat - (d.total i).toNat) / seconds := by
  rw [rated_of_some seconds h]
  cases d <;> exact toNat_rate _ _ _

/-- The rate after a collection comes from the totals of this one and the one before it. -/
theorem reading_collect_collect (s : State) {a b : Collection}
    (ha : a.2.interfaces.countP (·.name == name) = 1)
    (hb : b.2.interfaces.countP (·.name == name) = 1) (d : Direction) :
    ((s.collect a.1 a.2).collect b.1 b.2).snapshot.reading name d.rate =
      (b.2.reading name d.total - a.2.reading name d.total) / elapsed a.1 b.1 := by
  obtain ⟨i, hi⟩ := exists_filter_eq ha
  obtain ⟨j, hj⟩ := exists_filter_eq hb
  have hlast : lastNamed? j.name a.2.interfaces = some i := by
    rw [name_eq_of_filter hj]
    exact lastNamed?_of_filter hi
  rw [reading_of_filter hi, reading_of_filter hj, ← rate_rated hlast,
    ← rated_map_rated j a.2.interfaces s.snapshot.interfaces _ (elapsed s.collectedAt a.1)]
  exact reading_of_filter (filter_map_rated hj _ _)

theorem elapsed_of_lt {before now : Int64} (hnonneg : 0 ≤ before.toInt)
    (hlt : before.toInt < now.toInt) : (elapsed before now : Int) = now.toInt - before.toInt := by
  have hmax : Int64.maxValue.toInt = 9223372036854775807 := rfl
  have hnow := now.toInt_le
  simp only [elapsed]
  omega

/-- What one rate reports is at most the growth, and less than the seconds are lost. -/
theorem reported_step (s : State) {a b : Collection} (hnonneg : 0 ≤ a.1.toInt)
    (hlt : a.1.toInt < b.1.toInt) (ha : a.2.interfaces.countP (·.name == name) = 1)
    (hb : b.2.interfaces.countP (·.name == name) = 1) (d : Direction)
    (htotal : a.2.reading name d.total ≤ b.2.reading name d.total) :
    let rate := ((s.collect a.1 a.2).collect b.1 b.2).snapshot.reading name d.rate
    let growth : Int := b.2.reading name d.total - a.2.reading name d.total
    let seconds := b.1.toInt - a.1.toInt
    rate * seconds ≤ growth ∧ growth < rate * seconds + seconds := by
  intro rate growth seconds
  have hseconds : (elapsed a.1 b.1 : Int) = seconds := elapsed_of_lt hnonneg hlt
  have hrate : rate = _ := reading_collect_collect s ha hb d
  have hgrowth : growth = (b.2.reading name d.total - a.2.reading name d.total : Nat) :=
    (Int.ofNat_sub htotal).symm
  rw [hrate, hgrowth, ← hseconds]
  exact_mod_cast And.intro (Nat.div_mul_le_self _ _) (Nat.lt_div_mul_add (elapsed_pos a.1 b.1))

/-! ## Runs of collections -/

/-- With each step at least one byte fewer is lost than the step has seconds. -/
theorem reported_run {first : Collection} {more : List Collection}
    (h : IsMeasured name (first :: more)) (s : State) (d : Direction) :
    let last := (first :: more).getLast (List.cons_ne_nil first more)
    let growth : Int := last.2.reading name d.total - first.2.reading name d.total
    let reported := (s.collect first.1 first.2).reported name d first.1 more
    reported ≤ growth ∧
      growth + more.length ≤ reported + (last.1.toInt - first.1.toInt) := by
  induction more generalizing s first with
  | nil => simp [State.reported]
  | cons next more ih =>
      obtain ⟨hlt, htimes⟩ := List.isChain_cons_cons.mp h.times
      obtain ⟨hfirst, hrest⟩ := List.forall_mem_cons.mp h.once
      have hnonneg := List.forall_mem_cons.mp h.nonneg
      have htotals (d : Direction) := List.isChain_cons_cons.mp (h.totals d)
      have hstep := reported_step s hnonneg.1 hlt hfirst (hrest next List.mem_cons_self) d
        (htotals d).1
      have hmore := ih ⟨hnonneg.2, htimes, hrest, fun d => (htotals d).2⟩
        (s.collect first.1 first.2)
      simp only [List.getLast_cons_cons, List.length_cons, State.reported] at hstep hmore ⊢
      omega

/-- However irregular the times are, the rates after the first collection never report more than the
counter of either direction has grown by, and the growth that they miss is less than one byte to
each second of the run. -/
theorem reported_bounds {first : Collection} {more : List Collection}
    (h : IsMeasured name (first :: more)) (s : State) (d : Direction) :
    let last := (first :: more).getLast (List.cons_ne_nil first more)
    let growth : Int := last.2.reading name d.total - first.2.reading name d.total
    let reported := (s.collect first.1 first.2).reported name d first.1 more
    reported ≤ growth ∧
      (more ≠ [] → growth < reported + (last.1.toInt - first.1.toInt)) := by
  intro last growth reported
  obtain ⟨hle, hlost⟩ : reported ≤ growth ∧
      growth + more.length ≤ reported + (last.1.toInt - first.1.toInt) := reported_run h s d
  refine ⟨hle, fun hne => ?_⟩
  have hlength := List.length_pos_iff.mpr hne
  omega

/-- Hundred bytes in seven seconds and five in three: the rates are 14 and 1. -/
theorem reported_bounds_irregular :
    let found (total : UInt64) : Snapshot :=
      { interfaces := [⟨"lo", 0, 0, 0, 0⟩, ⟨"eth0", total, 0, 0, 0⟩] }
    let more : List Collection := [(17, found 1100), (20, found 1105)]
    let s := (State.new 0).collect 10 (found 1000)
    IsMeasured "eth0" ((10, found 1000) :: more) ∧ s.reported "eth0" .received 10 more = 101 ∧
    (101 : Int) ≤ 1105 - 1000 ∧ (1105 - 1000 : Int) < 101 + (20 - 10) := by
  intro found more s
  have hmeasured : IsMeasured "eth0" ((10, found 1000) :: more) := by
    refine ⟨?_, ?_, ?_, fun d => ?_⟩
    · decide
    · simp [more]
    · simp [more, found]
    · cases d <;> simp [more, found, Snapshot.reading, Direction.total]
  have hreported : s.reported "eth0" .received 10 more = 101 := by decide +kernel
  obtain ⟨hle, hlt⟩ := reported_bounds hmeasured (State.new 0) .received
  exact ⟨hmeasured, hreported, hreported ▸ hle, hreported ▸ hlt (List.cons_ne_nil _ _)⟩

end Host
end MonitorAgent
