import MonitorAgent.Telemetry.Counters
import Mathlib.Data.List.Lex
import Mathlib.Data.String.Basic

/-!
# Series of counts

A list of counts tallies some occurrences if it has one entry to each combination of
labels that occurs, with the number of times that it does, in the order of the
labels.  One more occurrence is what `bump` adds.
-/

namespace MonitorAgent
namespace Telemetry
namespace Counts

structure Tallies (counts : Counts) (occurrences : List (List String)) : Prop where
  sorted : (counts.map Prod.fst).Pairwise (· < ·)
  of_eq : ∀ labels, counts.of labels = occurrences.count labels
  mem_keys : ∀ labels, labels ∈ counts.map Prod.fst ↔ labels ∈ occurrences

variable {counts : Counts} {labels other : List String} {n : Nat}

theorem of_cons_self (labels : List String) (n : Nat) (counts : Counts) :
    of ((labels, n) :: counts) labels = n := by
  simp [of]

theorem of_cons_ne (h : labels ≠ other) : of ((other, n) :: counts) labels = of counts labels := by
  have hne : (labels == other) = false := beq_false_of_ne h
  simp only [of, List.lookup_cons, hne]

theorem of_eq_zero (h : labels ∉ counts.map Prod.fst) : counts.of labels = 0 := by
  induction counts with
  | nil => rfl
  | cons entry counts ih =>
      obtain ⟨other, n⟩ := entry
      rw [List.map_cons, List.mem_cons, not_or] at h
      rw [of_cons_ne h.1, ih h.2]

theorem of_eq_of_mem (hsorted : (counts.map Prod.fst).Pairwise (· < ·))
    (hmem : (labels, n) ∈ counts) : counts.of labels = n := by
  induction counts with
  | nil => cases hmem
  | cons entry counts ih =>
      obtain ⟨other, m⟩ := entry
      rw [List.map_cons, List.pairwise_cons] at hsorted
      rcases List.mem_cons.mp hmem with heq | hmem
      · cases heq
        exact of_cons_self labels n counts
      · have hlt := hsorted.1 labels (List.mem_map_of_mem (f := Prod.fst) hmem)
        rw [of_cons_ne (ne_of_gt hlt), ih hsorted.2 hmem]

theorem mem_keys_bump :
    other ∈ (counts.bump labels).map Prod.fst ↔ other = labels ∨ other ∈ counts.map Prod.fst := by
  fun_induction bump labels counts with
  | case1 => simp
  | case2 n counts => simp
  | case3 first n counts hne hlt => simp
  | case4 first n counts hne hlt ih =>
      rw [List.map_cons, List.mem_cons, ih, List.map_cons, List.mem_cons]
      tauto

theorem sorted_bump (h : (counts.map Prod.fst).Pairwise (· < ·)) :
    ((counts.bump labels).map Prod.fst).Pairwise (· < ·) := by
  fun_induction bump labels counts with
  | case1 => exact List.pairwise_singleton _ _
  | case2 n counts => exact h
  | case3 first n counts hne hlt =>
      refine List.pairwise_cons.mpr ⟨fun key hkey => ?_, h⟩
      rcases List.mem_cons.mp hkey with rfl | hkey
      · exact hlt
      · exact lt_trans hlt ((List.pairwise_cons.mp h).1 key hkey)
  | case4 first n counts hne hlt ih =>
      obtain ⟨hfirst, hrest⟩ := List.pairwise_cons.mp h
      refine List.pairwise_cons.mpr ⟨fun key hkey => ?_, ih hrest⟩
      rcases mem_keys_bump.mp hkey with rfl | hkey
      · exact lt_of_le_of_ne (le_of_not_gt hlt) (Ne.symm hne)
      · exact hfirst key hkey

theorem of_bump_self (h : (counts.map Prod.fst).Pairwise (· < ·)) :
    (counts.bump labels).of labels = counts.of labels + 1 := by
  fun_induction bump labels counts with
  | case1 => simp [of]
  | case2 n counts => rw [of_cons_self, of_cons_self]
  | case3 first n counts hne hlt =>
      have habsent : labels ∉ ((first, n) :: counts).map Prod.fst := by
        intro hmem
        rcases List.mem_cons.mp hmem with rfl | hmem
        · exact hne rfl
        · exact lt_asymm hlt ((List.pairwise_cons.mp h).1 labels hmem)
      rw [of_cons_self, of_eq_zero habsent]
  | case4 first n counts hne hlt ih =>
      rw [of_cons_ne hne, of_cons_ne hne, ih (List.pairwise_cons.mp h).2]

theorem of_bump_ne (h : other ≠ labels) : (counts.bump labels).of other = counts.of other := by
  fun_induction bump labels counts with
  | case1 => rw [of_cons_ne h]
  | case2 n counts => rw [of_cons_ne h, of_cons_ne h]
  | case3 first n counts hne hlt => rw [of_cons_ne h]
  | case4 first n counts hne hlt ih =>
      by_cases hfirst : other = first
      · rw [hfirst, of_cons_self, of_cons_self]
      · rw [of_cons_ne hfirst, of_cons_ne hfirst, ih]

theorem tallies_nil : Tallies [] [] :=
  ⟨List.Pairwise.nil, fun _ => rfl, fun _ => Iff.rfl⟩

theorem Tallies.bump {occurrences : List (List String)} (h : counts.Tallies occurrences)
    (labels : List String) : (counts.bump labels).Tallies (occurrences ++ [labels]) := by
  refine ⟨sorted_bump h.sorted, fun other => ?_, fun other => ?_⟩
  · rw [List.count_append]
    by_cases hother : other = labels
    · rw [hother, of_bump_self h.sorted, h.of_eq, List.count_singleton_self]
    · have hzero : List.count other [labels] = 0 :=
        List.count_eq_zero_of_not_mem (by simpa using hother)
      rw [of_bump_ne hother, h.of_eq, hzero, Nat.add_zero]
  · rw [mem_keys_bump, h.mem_keys, List.mem_append, List.mem_singleton, or_comm]

/-- An event adds the occurrence that it has labels for, if any. -/
theorem Tallies.add {family : Event → Option (List String)} {events : List Event}
    (h : counts.Tallies (events.filterMap family)) (event : Event) :
    ((family event).elim counts (Counts.bump · counts)).Tallies
      ((events ++ [event]).filterMap family) := by
  rw [List.filterMap_append, List.filterMap_cons, List.filterMap_nil]
  cases family event with
  | none => rwa [List.append_nil]
  | some labels => exact h.bump labels

theorem Tallies.mem_iff {occurrences : List (List String)} (h : counts.Tallies occurrences) :
    (labels, n) ∈ counts ↔ n = occurrences.count labels ∧ 0 < n := by
  constructor
  · intro hmem
    have hn : n = occurrences.count labels := by rw [← h.of_eq, of_eq_of_mem h.sorted hmem]
    have hoccurs := (h.mem_keys labels).mp (List.mem_map_of_mem (f := Prod.fst) hmem)
    exact ⟨hn, hn ▸ List.count_pos_iff.mpr hoccurs⟩
  · rintro ⟨rfl, hpos⟩
    obtain ⟨⟨key, m⟩, hmem, rfl⟩ :=
      List.mem_map.mp ((h.mem_keys labels).mpr (List.count_pos_iff.mp hpos))
    rw [← h.of_eq, of_eq_of_mem h.sorted hmem]
    exact hmem

theorem Tallies.nodup {occurrences : List (List String)} (h : counts.Tallies occurrences) :
    (counts.map Prod.fst).Nodup :=
  h.sorted.imp ne_of_lt

end Counts

/-! ## Counters -/

namespace Event

/-- The labels of the series of runs of checks. -/
def execution? : Event → Option (List String)
  | .execution check state => some [check, state.name]
  | _ => none

def connection? : Event → Option (List String)
  | .connection ending => some [ending.name]
  | _ => none

def collectError? : Event → Option (List String)
  | .collectError collector => some [collector]
  | _ => none

end Event

namespace Counters

/-- The counters after some events, when they started from nothing. -/
structure Accounts (c : Counters) (events : List Event) : Prop where
  scrapes : c.scrapes = events.count .scrape
  connections : c.connections.Tallies (events.filterMap Event.connection?)
  executions : c.executions.Tallies (events.filterMap Event.execution?)
  collectErrors : c.collectErrors.Tallies (events.filterMap Event.collectError?)

theorem accounts_nil : Accounts {} [] :=
  ⟨rfl, Counts.tallies_nil, Counts.tallies_nil, Counts.tallies_nil⟩

theorem Accounts.record {c : Counters} {events : List Event} (h : c.Accounts events)
    (event : Event) : (c.record event).Accounts (events ++ [event]) := by
  have hscrapes : (c.record event).scrapes = (events ++ [event]).count .scrape := by
    rw [List.count_append, ← h.scrapes]
    cases event <;> rfl
  have hconnections := h.connections.add event
  have hexecutions := h.executions.add event
  have hcollectErrors := h.collectErrors.add event
  refine ⟨hscrapes, ?_, ?_, ?_⟩
  · cases event <;> exact hconnections
  · cases event <;> exact hexecutions
  · cases event <;> exact hcollectErrors

theorem Accounts.recordAll {c : Counters} {before : List Event} (h : c.Accounts before)
    (events : List Event) : (c.recordAll events).Accounts (before ++ events) := by
  induction events generalizing c before with
  | nil => rwa [List.append_nil]
  | cons event events ih =>
      have hrest := ih (h.record event)
      rwa [List.append_assoc] at hrest

end Counters
end Telemetry
end MonitorAgent
