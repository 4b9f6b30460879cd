import MonitorAgent.Nrpe.Policy

/-!
# Refused arguments

There are two rules for arguments, and the one on having any is looked at first.
Each answer of `refusal?` is put in terms of the arguments and their characters.
-/

namespace MonitorAgent
namespace Nrpe
namespace Policy

variable {p : Policy} {args : List String}

theorem isNasty_iff {arg : String} :
    isNasty arg = true ↔ ∃ c ∈ arg.toList, c ∈ nastyCharacters := by
  simp only [isNasty, List.any_eq_true, List.contains_iff_mem]

theorem breaksArguments_iff :
    (!args.isEmpty && !p.allowArguments) = true ↔ args ≠ [] ∧ p.allowArguments = false := by
  simp only [Bool.and_eq_true, Bool.not_eq_true', List.isEmpty_eq_false_iff, ne_eq]

theorem breaksNasty_iff :
    (!p.allowNastyCharacters && args.any isNasty) = true ↔
      p.allowNastyCharacters = false ∧ ∃ arg ∈ args, ∃ c ∈ arg.toList, c ∈ nastyCharacters := by
  simp only [Bool.and_eq_true, Bool.not_eq_true', List.any_eq_true, isNasty_iff]

theorem refusal?_of_arguments (hargs : args ≠ []) (hpolicy : p.allowArguments = false) :
    p.refusal? args = some .arguments := by
  rw [refusal?, if_pos (breaksArguments_iff.2 ⟨hargs, hpolicy⟩)]

theorem not_breaksArguments (h : args = [] ∨ p.allowArguments = true) :
    ¬(!args.isEmpty && !p.allowArguments) = true := by
  intro hbroken
  obtain ⟨hargs, hpolicy⟩ := breaksArguments_iff.1 hbroken
  rcases h with hempty | hallowed
  · exact hargs hempty
  · rw [hpolicy] at hallowed
    cases hallowed

theorem refusal?_of_nasty (hargs : args = [] ∨ p.allowArguments = true)
    (hpolicy : p.allowNastyCharacters = false)
    (hnasty : ∃ arg ∈ args, ∃ c ∈ arg.toList, c ∈ nastyCharacters) :
    p.refusal? args = some .nastyCharacters := by
  rw [refusal?, if_neg (not_breaksArguments hargs), if_pos (breaksNasty_iff.2 ⟨hpolicy, hnasty⟩)]

/-- What passes keeps both rules, and what keeps both rules passes. -/
theorem refusal?_eq_none_iff :
    p.refusal? args = none ↔
      (args = [] ∨ p.allowArguments = true) ∧
        (p.allowNastyCharacters = true ∨
          ∀ arg ∈ args, ∀ c ∈ arg.toList, c ∉ nastyCharacters) := by
  constructor
  · intro h
    by_cases hbroken : args ≠ [] ∧ p.allowArguments = false
    · rw [refusal?_of_arguments hbroken.1 hbroken.2] at h
      cases h
    have hargs : args = [] ∨ p.allowArguments = true := by
      by_cases hempty : args = []
      · exact Or.inl hempty
      · exact Or.inr (Bool.of_not_eq_false fun hforbidden => hbroken ⟨hempty, hforbidden⟩)
    refine ⟨hargs, ?_⟩
    cases hpolicy : p.allowNastyCharacters with
    | true => exact Or.inl rfl
    | false =>
        right
        intro arg harg c hc hnasty
        rw [refusal?_of_nasty hargs hpolicy ⟨arg, harg, c, hc, hnasty⟩] at h
        cases h
  · rintro ⟨hargs, hharmless⟩
    have hkept : ¬(!p.allowNastyCharacters && args.any isNasty) = true := by
      intro hbroken
      obtain ⟨hpolicy, arg, harg, c, hc, hnasty⟩ := breaksNasty_iff.1 hbroken
      rcases hharmless with hallowed | hplain
      · rw [hpolicy] at hallowed
        cases hallowed
      · exact hplain arg harg c hc hnasty
    rw [refusal?, if_neg (not_breaksArguments hargs), if_neg hkept]

end Policy
end Nrpe
end MonitorAgent
