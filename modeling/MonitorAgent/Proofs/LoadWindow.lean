import MonitorAgent.Host.LoadHistory
import Mathlib.Data.List.TakeWhile

/-!
# Windows of the load history

What a history has dropped was expired at a push, and no later instant brings it back
into a window of a quarter of an hour.  So the average is that of all samples ever
pushed, in whatever order their instants came.
-/

namespace MonitorAgent
namespace Host
namespace LoadHistory

/-- The history after samples have been pushed one after the other. -/
def ofPushes (pushes : List Sample) : LoadHistory :=
  pushes.foldl (fun h s => h.push s.instant s.load) {}

/-- The average if nothing is ever dropped: the mean of the samples that are at most as old as the
window is long, added up in the order of the pushes, or else the last sample. -/
def fullAverage? (pushes : List Sample) (now : Int) (window : Duration) : Option Float :=
  let inside := pushes.filter fun s => now - s.instant ≤ window.nanoseconds
  if inside.isEmpty then pushes.getLast?.map (·.load)
  else some (inside.foldl (fun sum s => sum + s.load) 0 / Float.ofNat inside.length)

/-! ## What is kept -/

/-- What is missing of the pushed samples stood in front, and each was expired at some push.  The
last one is never missing. -/
structure Retains (h : LoadHistory) (pushes : List Sample) : Prop where
  exists_dropped : ∃ dropped, pushes = dropped ++ h.samples ∧
    ∀ s ∈ dropped, ∃ later ∈ pushes, isExpired later.instant s = true
  getLast?_eq : h.samples.getLast? = pushes.getLast?

variable {h : LoadHistory} {pushes : List Sample}

theorem retains_nil : Retains {} [] where
  exists_dropped := ⟨[], rfl, nofun⟩
  getLast?_eq := rfl

/-- A sample is not expired at its own instant. -/
theorem samples_push (h : LoadHistory) (s : Sample) :
    (h.push s.instant s.load).samples = h.samples.dropWhile (isExpired s.instant) ++ [s] := by
  have hself : isExpired s.instant s = false := by simp [isExpired, age]
  rw [push, List.dropWhile_append]
  split
  next hempty => simp [List.isEmpty_iff.mp hempty, hself]
  next => rfl

theorem Retains.push (hkept : h.Retains pushes) (s : Sample) :
    (h.push s.instant s.load).Retains (pushes ++ [s]) := by
  obtain ⟨dropped, hpushes, hdropped⟩ := hkept.exists_dropped
  constructor
  · refine ⟨dropped ++ h.samples.takeWhile (isExpired s.instant), ?_, ?_⟩
    · rw [samples_push, hpushes, List.append_assoc, List.append_assoc,
        ← List.append_assoc (List.takeWhile _ _), List.takeWhile_append_dropWhile]
    · intro old hold
      rcases List.mem_append.mp hold with hold | hold
      · obtain ⟨later, hlater, hexpired⟩ := hdropped old hold
        exact ⟨later, List.mem_append_left _ hlater, hexpired⟩
      · exact ⟨s, List.mem_append_right _ (List.mem_singleton_self s),
          List.mem_takeWhile_imp hold⟩
  · rw [samples_push, List.getLast?_concat, List.getLast?_concat]

theorem Retains.foldl (hkept : h.Retains pushes) (more : List Sample) :
    (more.foldl (fun h s => h.push s.instant s.load) h).Retains (pushes ++ more) := by
  induction more generalizing h pushes with
  | nil => simpa using hkept
  | cons s more ih => simpa using ih (hkept.push s)

theorem retains_ofPushes (pushes : List Sample) : (ofPushes pushes).Retains pushes :=
  retains_nil.foldl pushes

/-! ## What lies in a window -/

theorem age_le_iff {now instant : Int} {window : Duration} :
    (age now instant).nanoseconds ≤ window.nanoseconds ↔ now - instant ≤ window.nanoseconds := by
  simp only [age]
  omega

/-- What was expired before is older than any window that is not longer than the retention. -/
theorem outside_of_isExpired {now instant : Int} {window : Duration} {s : Sample}
    (hwindow : window.nanoseconds ≤ retention.nanoseconds) (hpast : instant ≤ now)
    (hexpired : isExpired instant s = true) : ¬now - s.instant ≤ window.nanoseconds := by
  have hage : retention.nanoseconds < (age instant s.instant).nanoseconds :=
    of_decide_eq_true hexpired
  simp only [age] at hage
  omega

theorem Retains.within_eq (hkept : h.Retains pushes) {now : Int} {window : Duration}
    (hpast : ∀ s ∈ pushes, s.instant ≤ now)
    (hwindow : window.nanoseconds ≤ retention.nanoseconds) :
    h.within now window = pushes.filter fun s => now - s.instant ≤ window.nanoseconds := by
  obtain ⟨dropped, hpushes, hdropped⟩ := hkept.exists_dropped
  have hnone : dropped.filter (fun s => now - s.instant ≤ window.nanoseconds) = [] := by
    rw [List.filter_eq_nil_iff]
    intro s hs
    obtain ⟨later, hlater, hexpired⟩ := hdropped s hs
    simpa using outside_of_isExpired hwindow (hpast later hlater) hexpired
  rw [hpushes, List.filter_append, hnone, List.nil_append, within]
  simp only [age_le_iff]

theorem Retains.average?_eq (hkept : h.Retains pushes) {now : Int} {window : Duration}
    (hpast : ∀ s ∈ pushes, s.instant ≤ now)
    (hwindow : window.nanoseconds ≤ retention.nanoseconds) :
    h.average? now window = fullAverage? pushes now window := by
  rw [average?, hkept.within_eq hpast hwindow, hkept.getLast?_eq, fullAverage?]
  split
  next hnone => rw [hnone]; rfl
  next hsome => rw [if_neg (mt List.isEmpty_iff.mp hsome), mean]

theorem fullAverage?_eq_none_iff {now : Int} {window : Duration} :
    fullAverage? pushes now window = none ↔ pushes = [] := by
  rw [fullAverage?]
  constructor
  · intro hnone
    split at hnone
    next => rwa [Option.map_eq_none_iff, List.getLast?_eq_none_iff] at hnone
    next => cases hnone
  · rintro rfl
    rfl

/-- The samples of a window of a quarter of an hour at most can be counted, and their average is
that of all samples ever pushed. -/
theorem average?_ofPushes (pushes : List Sample) (now : Int) (window : Duration)
    (hpast : ∀ s ∈ pushes, s.instant ≤ now) (hcount : pushes.length < UInt32.size)
    (hwindow : window.nanoseconds ≤ (Duration.ofSeconds (15 * 60)).nanoseconds) :
    (ofPushes pushes).isCountable now window = true ∧
    (ofPushes pushes).average? now window = fullAverage? pushes now window ∧
    ((ofPushes pushes).average? now window = none ↔ pushes = []) := by
  have hkept := retains_ofPushes pushes
  have haverage := hkept.average?_eq hpast hwindow
  refine ⟨?_, haverage, ?_⟩
  · rw [isCountable, hkept.within_eq hpast hwindow, decide_eq_true_iff]
    exact Nat.lt_of_le_of_lt (List.length_filter_le _ _) hcount
  · rw [haverage, fullAverage?_eq_none_iff]

/-- The first sample is dropped at the second push; the third lies before it and just at the end of
the window. -/
theorem average?_ofPushes_unordered :
    let pushes : List Sample := [⟨0, 10⟩, ⟨950000000000, 20⟩, ⟨50000000000, 40⟩]
    let window := Duration.ofSeconds 900
    (∀ s ∈ pushes, s.instant ≤ 950000000000) ∧ pushes.length < UInt32.size ∧
    window.nanoseconds ≤ (Duration.ofSeconds (15 * 60)).nanoseconds ∧
    (ofPushes pushes).length = 2 ∧
    (ofPushes pushes).average? 950000000000 window = some 30 := by
  intro pushes window
  have hpast : ∀ s ∈ pushes, s.instant ≤ 950000000000 := by simp [pushes]
  have hcount : pushes.length < UInt32.size := by decide
  have hwindow : window.nanoseconds ≤ (Duration.ofSeconds (15 * 60)).nanoseconds := by decide
  obtain ⟨-, haverage, -⟩ := average?_ofPushes pushes 950000000000 window hpast hcount hwindow
  have hfull : fullAverage? pushes 950000000000 window = some 30 := by decide +kernel
  exact ⟨hpast, hcount, hwindow, rfl, haverage.trans hfull⟩

end LoadHistory
end Host
end MonitorAgent
