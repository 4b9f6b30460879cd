/-!
# ASCII letter case

Letter case is ignored for the letters `A` to `Z` only; every other character
stands for itself.
-/

namespace MonitorAgent
namespace Text

def lower (s : List Char) : List Char :=
  s.map Char.toLower

def upper (s : List Char) : List Char :=
  s.map Char.toUpper

/-- The two texts differ in the case of ASCII letters at most. -/
def sameLetters (s t : List Char) : Bool :=
  lower s == lower t

theorem sameLetters_iff (s t : List Char) : sameLetters s t = true ↔ lower s = lower t := by
  simp [sameLetters]

theorem isAlpha_of_toLower {c : Char} (h : c.toLower.isAlpha = true) : c.isAlpha = true := by
  by_cases hupper : 'A'.val ≤ c.val ∧ c.val ≤ 'Z'.val
  · exact (Bool.or_eq_true _ _).mpr (.inl (decide_eq_true hupper))
  · have hsame : c.toLower = c := dif_neg hupper
    rwa [hsame] at h

theorem isAlpha_of_toUpper {c : Char} (h : c.toUpper.isAlpha = true) : c.isAlpha = true := by
  by_cases hlower : 'a'.val ≤ c.val ∧ c.val ≤ 'z'.val
  · have hisLower := (Bool.and_eq_true _ _).mpr (hlower.imp decide_eq_true decide_eq_true)
    exact (Bool.or_eq_true _ _).mpr (.inr hisLower)
  · have hsame : c.toUpper = c := dif_neg hlower
    rwa [hsame] at h

end Text
end MonitorAgent
