/-!
# Character classes by their boundaries

A class of characters is written as the increasing list of the code points at
which membership changes, the first of them being its least member.
-/

namespace MonitorAgent
namespace Text

/-- An odd number of boundaries stand at or below the code point. -/
def withinRanges (point : Nat) : List Nat → Bool
  | [] => false
  | bound :: bounds => if point < bound then false else !withinRanges point bounds

theorem withinRanges_of_lt {point bound : Nat} (bounds : List Nat) (h : point < bound) :
    withinRanges point (bound :: bounds) = false := by
  simp [withinRanges, h]

theorem withinRanges_of_le {point bound : Nat} (bounds : List Nat) (h : bound ≤ point) :
    withinRanges point (bound :: bounds) = !withinRanges point bounds := by
  simp [withinRanges, Nat.not_lt.mpr h]

/-- The letters of ASCII by their code points. -/
theorem toNat_of_isAlpha {c : Char} (h : c.isAlpha = true) :
    (0x41 ≤ c.toNat ∧ c.toNat < 0x5B) ∨ (0x61 ≤ c.toNat ∧ c.toNat < 0x7B) := by
  rcases (Bool.or_eq_true _ _).mp h with hupper | hlower
  · obtain ⟨hlow, hhigh⟩ : 'A'.val ≤ c.val ∧ c.val ≤ 'Z'.val := of_decide_eq_true hupper
    exact .inl ⟨UInt32.le_iff_toNat_le.mp hlow, Nat.lt_succ_of_le (UInt32.le_iff_toNat_le.mp hhigh)⟩
  · obtain ⟨hlow, hhigh⟩ := (Bool.and_eq_true _ _).mp hlower
    exact .inr ⟨UInt32.le_iff_toNat_le.mp (of_decide_eq_true hlow),
      Nat.lt_succ_of_le (UInt32.le_iff_toNat_le.mp (of_decide_eq_true hhigh))⟩

/-- The digits of ASCII by their code points. -/
theorem isDigit_iff {c : Char} : c.isDigit = true ↔ 0x30 ≤ c.toNat ∧ c.toNat < 0x3A := by
  have hbounds : c.isDigit = (decide (48 ≤ c.val) && decide (c.val ≤ 57)) := rfl
  rw [hbounds, Bool.and_eq_true, decide_eq_true_eq, decide_eq_true_eq, UInt32.le_iff_toNat_le,
    UInt32.le_iff_toNat_le]
  exact and_congr_right fun _ => Nat.lt_succ_iff.symm

end Text
end MonitorAgent
