import MonitorAgent.Proofs.LoadWindow

/-!
# What the load history retains

A push drops samples at the front only, and stops at the first one that is not expired.
So what is stored ends the sequence of all pushes, in whatever order their instants came.
Where the instants never go back, all expired samples stand in front of the others, and
what is stored is just what is not older than the retention.
-/

namespace MonitorAgent
namespace Host
namespace LoadHistory

variable {h : LoadHistory} {pushes samples : List Sample} {now later : Int}

/-! ## Only the front is dropped -/

theorem foldl_push_suffix (h : LoadHistory) (more : List Sample) :
    (more.foldl (fun h s => h.push s.instant s.load) h).samples <:+ h.samples ++ more := by
  induction more generalizing h with
  | nil => simp
  | cons s more ih =>
      have hstep : (h.push s.instant s.load).samples ++ more <:+ h.samples ++ [s] ++ more := by
        obtain ⟨dropped, hdropped⟩ := push_suffix h s.instant s.load
        exact ⟨dropped, by rw [← List.append_assoc, hdropped]⟩
      rw [List.append_assoc] at hstep
      exact (ih (h.push s.instant s.load)).trans hstep

theorem ofPushes_append (pushes more : List Sample) :
    ofPushes (pushes ++ more) =
      more.foldl (fun h s => h.push s.instant s.load) (ofPushes pushes) :=
  List.foldl_append

/-! ## Instants that never go back -/

/-- Each sample is at least as late as those before it. -/
def InOrder (samples : List Sample) : Prop :=
  samples.Pairwise fun a b => a.instant ≤ b.instant

theorem isExpired_eq_false_iff {s : Sample} :
    isExpired now s = false ↔ now - s.instant ≤ retention.nanoseconds := by
  rw [isExpired, decide_eq_false_iff_not, Nat.not_lt, age_le_iff]

/-- What is expired stays so. -/
theorem isExpired_mono {s : Sample} (hlater : now ≤ later) (h : isExpired now s = true) :
    isExpired later s = true := by
  rw [← Bool.not_eq_false, isExpired_eq_false_iff] at h ⊢
  omega

theorem InOrder.dropWhile_isExpired (h : InOrder samples) (now : Int) :
    samples.dropWhile (isExpired now) = samples.filter (!isExpired now ·) := by
  induction samples with
  | nil => rfl
  | cons s samples ih =>
      obtain ⟨hfirst, hrest⟩ := List.pairwise_cons.mp h
      cases hs : isExpired now s with
      | true => simp [hs, ih hrest]
      | false =>
          -- The loop stops at this sample, and the later ones are not older.
          have hyoung : ∀ t ∈ s :: samples, (!isExpired now t) = true := by
            rw [List.forall_mem_cons, hs]
            refine ⟨rfl, fun t ht => ?_⟩
            rw [isExpired_eq_false_iff] at hs
            have hle := hfirst t ht
            rw [Bool.not_eq_true', isExpired_eq_false_iff]
            omega
          rw [List.dropWhile_cons_of_neg (by simp [hs]), List.filter_eq_self.mpr hyoung]

/-- A push onto what is retained leaves all that is not expired at its instant. -/
theorem Retains.samples_push (hkept : h.Retains pushes) {s : Sample}
    (horder : InOrder (pushes ++ [s])) :
    (h.push s.instant s.load).samples = (pushes ++ [s]).filter (!isExpired s.instant ·) := by
  obtain ⟨dropped, hpushes, hdropped⟩ := hkept.exists_dropped
  have hbefore : ∀ t ∈ pushes, t.instant ≤ s.instant := fun t ht =>
    (List.pairwise_append.mp horder).2.2 t ht s (List.mem_singleton_self s)
  have hgone : dropped.filter (!isExpired s.instant ·) = [] := by
    rw [List.filter_eq_nil_iff]
    intro t ht
    obtain ⟨other, hother, hexpired⟩ := hdropped t ht
    simp [isExpired_mono (hbefore other hother) hexpired]
  have hall : pushes ++ [s] = dropped ++ (h.samples ++ [s]) := by
    rw [hpushes, List.append_assoc]
  have hstored : InOrder (h.samples ++ [s]) := by
    rw [hall] at horder
    exact horder.sublist (List.sublist_append_right dropped _)
  rw [hall, List.filter_append, hgone, List.nil_append, LoadHistory.push]
  exact hstored.dropWhile_isExpired s.instant

theorem samples_ofPushes_of_inOrder {newest : Sample} (horder : InOrder (pushes ++ [newest])) :
    (ofPushes (pushes ++ [newest])).samples =
      (pushes ++ [newest]).filter fun s => newest.instant - s.instant ≤ retention.nanoseconds := by
  rw [ofPushes_append]
  refine ((retains_ofPushes pushes).samples_push horder).trans ?_
  refine List.filter_congr fun s _ => ?_
  rw [Bool.eq_iff_iff, Bool.not_eq_true', isExpired_eq_false_iff, decide_eq_true_iff]

/-- After each push the stored samples end the sequence of all pushes, with the newest one, and of
later pushes and these only the front is dropped.  If the instants never go back, just the pushes of
the last quarter of an hour are stored. -/
theorem samples_ofPushes_concat (pushes : List Sample) (newest : Sample) :
    let all := pushes ++ [newest]
    let stored := (ofPushes all).samples
    stored <:+ all ∧ stored ≠ [] ∧ stored.getLast? = some newest ∧
    (∀ more, (ofPushes (all ++ more)).samples <:+ stored ++ more) ∧
    (all.Pairwise (fun a b => a.instant ≤ b.instant) →
      let recent := all.filter fun s =>
        newest.instant - s.instant ≤ (Duration.ofSeconds 900).nanoseconds
      stored = recent ∧ (ofPushes all).length = recent.length) := by
  intro all stored
  have hlast : stored.getLast? = some newest :=
    (retains_ofPushes all).getLast?_eq.trans List.getLast?_concat
  refine ⟨foldl_push_suffix {} all, ?_, hlast, fun more => ?_, fun horder => ?_⟩
  · intro hnone
    rw [hnone] at hlast
    cases hlast
  · rw [ofPushes_append]
    exact foldl_push_suffix (ofPushes all) more
  · have hrecent := samples_ofPushes_of_inOrder horder
    exact ⟨hrecent, congrArg List.length hrecent⟩

/-- The second sample is just as old as is allowed, and the first is older by a nanosecond. -/
theorem samples_ofPushes_concat_boundary :
    let pushes : List Sample := [⟨-1, 10⟩, ⟨0, 20⟩, ⟨0, 30⟩]
    let newest : Sample := ⟨900000000000, 40⟩
    (pushes ++ [newest]).Pairwise (fun a b => a.instant ≤ b.instant) ∧
    (ofPushes (pushes ++ [newest])).samples = [⟨0, 20⟩, ⟨0, 30⟩, newest] := by
  intro pushes newest
  have horder : (pushes ++ [newest]).Pairwise (fun a b => a.instant ≤ b.instant) := by
    simp [pushes, newest]
  obtain ⟨-, -, -, -, hrecent⟩ := samples_ofPushes_concat pushes newest
  exact ⟨horder, (hrecent horder).1⟩

end LoadHistory
end Host
end MonitorAgent
