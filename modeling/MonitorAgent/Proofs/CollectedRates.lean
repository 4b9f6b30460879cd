import MonitorAgent.Host.State
import Mathlib.Data.List.Forall2

/-!
# Rates of collected states

However often has been collected, a state is made of the last two collections: the last
one as it is, but for the rates of its interfaces, which come from the totals of the
one before it.  All of it is exact on whole numbers, whatever the clock does.
-/

namespace MonitorAgent
namespace Host

/-- The number within the bounds of times. -/
def saturated (n : Int) : Int :=
  max Int64.minValue.toInt (min n Int64.maxValue.toInt)

/-- The growth of a counter to a second of the time between, by whole numbers. -/
def exactRate (earlier later : UInt64) (before now : Int64) : Int :=
  max 0 ((later.toNat : Int) - earlier.toNat) / max 1 (saturated (now.toInt - before.toInt))

/-- The last of the interfaces with the name. -/
def IsLastNamed (name : String) (interfaces : List Interface) (i : Interface) : Prop :=
  i.name = name ∧ ∃ before after, interfaces = before ++ i :: after ∧ ∀ j ∈ after, j.name ≠ name

/-- A collection before the present one: when it was, and what it found. -/
abbrev Collection :=
  Int64 × Snapshot

/-- What is shown of an interface that is found now: its totals, and what has been added to those
that the collection before, if there was one, found under the name. -/
structure ShownAs (previous : Option Collection) (now : Int64) (found shown : Interface) :
    Prop where
  name : shown.name = found.name
  received : shown.received = found.received
  sent : shown.sent = found.sent
  seen : ∀ before snapshot i, previous = some (before, snapshot) →
    IsLastNamed found.name snapshot.interfaces i →
    shown.receiveRate.toNat = exactRate i.received found.received before now ∧
    shown.sendRate.toNat = exactRate i.sent found.sent before now
  unseen : (∀ before snapshot, previous = some (before, snapshot) →
      ∀ i ∈ snapshot.interfaces, i.name ≠ found.name) →
    shown.receiveRate = 0 ∧ shown.sendRate = 0

/-! ## Whole numbers -/

theorem elapsed_eq (before now : Int64) :
    (elapsed before now : Int) = max 1 (saturated (now.toInt - before.toInt)) := by
  have hmin : Int64.minValue.toInt = -9223372036854775808 := rfl
  have hmax : Int64.maxValue.toInt = 9223372036854775807 := rfl
  simp only [elapsed, saturated, hmin, hmax]
  omega

theorem elapsed_le (before now : Int64) : (elapsed before now : Int) ≤ Int64.maxValue.toInt := by
  have hmax : Int64.maxValue.toInt = 9223372036854775807 := rfl
  simp only [elapsed, hmax]
  omega

theorem toNat_rate (earlier later : UInt64) (seconds : Nat) :
    (rate earlier later seconds).toNat = (later.toNat - earlier.toNat) / seconds := by
  have hquotient : (later.toNat - earlier.toNat) / seconds < UInt64.size := by
    have hdiv := Nat.div_le_self (later.toNat - earlier.toNat) seconds
    have hsize : UInt64.size = 18446744073709551616 := rfl
    have hlater := later.toNat_lt
    omega
  exact UInt64.toNat_ofNat_of_lt' hquotient

theorem rate_eq_exactRate (earlier later : UInt64) (before now : Int64) :
    ((rate earlier later (elapsed before now)).toNat : Int) =
      exactRate earlier later before now := by
  rw [toNat_rate, exactRate, ← elapsed_eq, Int.natCast_ediv]
  congr 1
  omega

/-! ## The interface found before -/

theorem lastNamed?_eq_some_iff {name : String} {interfaces : List Interface} {i : Interface} :
    lastNamed? name interfaces = some i ↔ IsLastNamed name interfaces i := by
  rw [lastNamed?, List.find?_eq_some_iff_append, beq_iff_eq, IsLastNamed]
  refine and_congr_right fun _ => ⟨?_, ?_⟩
  · rintro ⟨after, before, heq, hafter⟩
    refine ⟨before.reverse, after.reverse, ?_, ?_⟩
    · rw [← List.reverse_inj, heq]
      simp
    · intro j hj
      simpa using hafter j (List.mem_reverse.mp hj)
  · rintro ⟨before, after, rfl, hafter⟩
    refine ⟨after.reverse, before.reverse, by simp, ?_⟩
    intro j hj
    simpa using hafter j (List.mem_reverse.mp hj)

theorem lastNamed?_eq_none_iff {name : String} {interfaces : List Interface} :
    lastNamed? name interfaces = none ↔ ∀ i ∈ interfaces, i.name ≠ name := by
  simp [lastNamed?]

theorem rated_of_some {found i : Interface} {earlier : List Interface} (seconds : Nat)
    (h : lastNamed? found.name earlier = some i) :
    found.rated earlier seconds =
      { found with
        receiveRate := rate i.received found.received seconds
        sendRate := rate i.sent found.sent seconds } := by
  rw [Interface.rated, h]

theorem rated_of_none {found : Interface} {earlier : List Interface} (seconds : Nat)
    (h : lastNamed? found.name earlier = none) :
    found.rated earlier seconds = { found with receiveRate := 0, sendRate := 0 } := by
  rw [Interface.rated, h]

theorem rated_shownAs (found : Interface) (previous : Option Collection) (now : Int64) :
    let last := previous.getD (0, {})
    ShownAs previous now found (found.rated last.2.interfaces (elapsed last.1 now)) := by
  intro last
  cases hlast : lastNamed? found.name last.2.interfaces with
  | none =>
      rw [rated_of_none _ hlast]
      refine ⟨rfl, rfl, rfl, ?_, fun _ => ⟨rfl, rfl⟩⟩
      rintro before snapshot i rfl hi
      rw [← lastNamed?_eq_some_iff] at hi
      cases hi.symm.trans hlast
  | some i =>
      rw [rated_of_some _ hlast]
      refine ⟨rfl, rfl, rfl, ?_, ?_⟩
      · rintro before snapshot j rfl hj
        rw [← lastNamed?_eq_some_iff] at hj
        obtain rfl : j = i := Option.some.inj (hj.symm.trans hlast)
        exact ⟨rate_eq_exactRate _ _ before now, rate_eq_exactRate _ _ before now⟩
      · intro hnone
        cases previous with
        | none => cases hlast
        | some collection =>
            have hfree := lastNamed?_eq_none_iff.mpr (hnone collection.1 collection.2 rfl)
            cases hfree.symm.trans hlast

theorem exists_rated_eq (i : Interface) (earlier : List Interface) (seconds : Nat) :
    ∃ received sent,
      i.rated earlier seconds = { i with receiveRate := received, sendRate := sent } := by
  rw [Interface.rated]
  split
  next before _ => exact ⟨_, _, rfl⟩
  next => exact ⟨0, 0, rfl⟩

/-- Rates are worked out from totals, so the rates of what was shown before do not matter. -/
theorem rated_map_rated (found : Interface) (interfaces earlier : List Interface)
    (seconds before : Nat) :
    found.rated (interfaces.map (·.rated earlier before)) seconds =
      found.rated interfaces seconds := by
  have hlast : lastNamed? found.name (interfaces.map (·.rated earlier before)) =
      (lastNamed? found.name interfaces).map (·.rated earlier before) := by
    have hname (i : Interface) : (i.rated earlier before).name = i.name := by
      obtain ⟨received, sent, heq⟩ := exists_rated_eq i earlier before
      rw [heq]
    rw [lastNamed?, ← List.map_reverse, List.find?_map, lastNamed?]
    simp only [Function.comp_def, hname]
  cases hfound : lastNamed? found.name interfaces with
  | none =>
      rw [hfound] at hlast
      rw [rated_of_none _ hlast, rated_of_none _ hfound]
  | some i =>
      obtain ⟨received, sent, heq⟩ := exists_rated_eq i earlier before
      rw [hfound, Option.map_some, heq] at hlast
      rw [rated_of_some _ hlast, rated_of_some _ hfound]

namespace State

/-- The state after collections have been made one after the other. -/
def run (s : State) (collections : List Collection) : State :=
  collections.foldl (fun s (time, snapshot) => s.collect time snapshot) s

theorem run_concat (s : State) (collections : List Collection) (now : Int64)
    (snapshot : Snapshot) :
    s.run (collections ++ [(now, snapshot)]) = (s.run collections).collect now snapshot := by
  rw [run, List.foldl_append]
  rfl

theorem run_startedAt (s : State) (collections : List Collection) :
    (s.run collections).startedAt = s.startedAt := by
  induction collections generalizing s with
  | nil => rfl
  | cons collection collections ih =>
      obtain ⟨now, snapshot⟩ := collection
      exact (ih (s.collect now snapshot)).trans (collect_startedAt s now snapshot)

/-- Of all that was collected before, the last collection is all that matters. -/
theorem run_new_concat (startedAt : Int64) (earlier : List Collection) (now : Int64)
    (snapshot : Snapshot) :
    let last := earlier.getLast?.getD (0, {})
    (new startedAt).run (earlier ++ [(now, snapshot)]) =
      { startedAt, collectedAt := now
        snapshot := { snapshot with
          interfaces := snapshot.interfaces.map
            (·.rated last.2.interfaces (elapsed last.1 now)) } } := by
  rcases List.eq_nil_or_concat earlier with rfl | ⟨before, ⟨time, previous⟩, rfl⟩
  · rfl
  · rw [List.concat_eq_append, List.getLast?_concat, run_concat, run_concat]
    simp only [Option.getD_some, collect, rated_map_rated, run_startedAt, new]

/-- However often has been collected, the state is the last collection, with the rates against the
one before it; so it is the same after any other run that ends with these two. -/
theorem run_new_rates (startedAt : Int64) (earlier : List Collection) (now : Int64)
    (snapshot : Snapshot) :
    let s := (new startedAt).run (earlier ++ [(now, snapshot)])
    s.startedAt = startedAt ∧ s.collectedAt = now ∧
    s.snapshot = { snapshot with interfaces := s.snapshot.interfaces } ∧
    List.Forall₂ (ShownAs earlier.getLast? now) snapshot.interfaces s.snapshot.interfaces ∧
    (∀ otherStart others, others.getLast? = earlier.getLast? →
      (new otherStart).run (others ++ [(now, snapshot)]) = { s with startedAt := otherStart }) ∧
    ∀ before, 0 < elapsed before now ∧ (elapsed before now : Int) ≤ Int64.maxValue.toInt := by
  intro s
  have hs : s = _ := run_new_concat startedAt earlier now snapshot
  refine ⟨?_, ?_, ?_, ?_, ?_, fun before => ⟨elapsed_pos before now, elapsed_le before now⟩⟩
  · rw [hs]
  · rw [hs]
  · rw [hs]
  · rw [hs, List.forall₂_map_right_iff, List.forall₂_same]
    exact fun found _ => rated_shownAs found earlier.getLast? now
  · intro otherStart others hlast
    rw [run_new_concat, hlast, hs]

/-- The clock goes back by ten seconds, one counter has grown since the last entry of its name,
another was reset, and one interface is new. -/
theorem run_new_rates_backwards :
    let eth0 (received sent : UInt64) : Interface := ⟨"eth0", received, sent, 7, 7⟩
    let earlier : List Collection :=
      [(300, { uptime := 1 }), (100, { interfaces := [eth0 10 0, eth0 500 8] })]
    let snapshot : Snapshot := { interfaces := [eth0 700 3, ⟨"lo", 5, 5, 7, 7⟩] }
    let s := (new 5).run (earlier ++ [(90, snapshot)])
    s.snapshot.interfaces = [⟨"eth0", 700, 3, 200, 0⟩, ⟨"lo", 5, 5, 0, 0⟩] ∧
    earlier.getLast? = (earlier.drop 1).getLast? ∧
    (new 6).run (earlier.drop 1 ++ [(90, snapshot)]) = { s with startedAt := 6 } := by
  intro eth0 earlier snapshot s
  obtain ⟨-, -, -, -, hothers, -⟩ := run_new_rates 5 earlier 90 snapshot
  exact ⟨by decide +kernel, rfl, hothers 6 (earlier.drop 1) rfl⟩

end State

end Host
end MonitorAgent
