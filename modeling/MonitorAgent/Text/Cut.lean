/-!
# Cutting texts at a character

`cut` parts a text at the first occurrence of a character, `fields` at all of
them.  A text always has a first field, so the first field and the list of the
later ones are returned side by side; `joinFields` puts them together again.
-/

namespace MonitorAgent
namespace Text

/-- What stands before the first `sep` and what stands after it. -/
def cut (sep : Char) : List Char → Option (List Char × List Char)
  | [] => none
  | c :: s =>
    if c = sep then some ([], s)
    else (cut sep s).map fun (before, after) => (c :: before, after)

def fields (sep : Char) : List Char → List Char × List (List Char)
  | [] => ([], [])
  | c :: s =>
    let (first, later) := fields sep s
    if c = sep then ([], first :: later) else (c :: first, later)

def joinFields (sep : Char) (first : List Char) : List (List Char) → List Char
  | [] => first
  | next :: later => first ++ sep :: joinFields sep next later

/-- The fields as one list, which is never empty. -/
def split (sep : Char) (s : List Char) : List (List Char) :=
  (fields sep s).1 :: (fields sep s).2

/-- The pattern stands somewhere in the text. -/
def occursIn (pattern : List Char) : List Char → Bool
  | [] => pattern.isEmpty
  | c :: s => pattern.isPrefixOf (c :: s) || occursIn pattern s

variable {sep : Char} {s before after : List Char}

theorem cut_eq_none_iff : cut sep s = none ↔ sep ∉ s := by
  induction s with
  | nil => simp [cut]
  | cons c s ih =>
      rw [cut]
      split
      next heq => simp [heq]
      next hne =>
        rw [Option.map_eq_none_iff, ih, List.mem_cons, not_or, and_iff_right (Ne.symm hne)]

theorem cut_append (h : sep ∉ before) (after : List Char) :
    cut sep (before ++ sep :: after) = some (before, after) := by
  induction before with
  | nil => simp [cut]
  | cons c before ih =>
      obtain ⟨hc, hbefore⟩ := not_or.mp (mt List.mem_cons.mpr h)
      rw [List.cons_append, cut, if_neg (Ne.symm hc), ih hbefore]
      rfl

theorem eq_of_cut (h : cut sep s = some (before, after)) :
    s = before ++ sep :: after ∧ sep ∉ before := by
  induction s generalizing before with
  | nil => cases h
  | cons c s ih =>
      rw [cut] at h
      split at h
      next heq =>
        cases h
        exact ⟨congrArg (· :: _) heq, List.not_mem_nil⟩
      next hne =>
        obtain ⟨⟨first, rest⟩, hrest, heq⟩ := Option.map_eq_some_iff.mp h
        cases heq
        obtain ⟨rfl, hfirst⟩ := ih hrest
        exact ⟨rfl, List.not_mem_cons_of_ne_of_not_mem (Ne.symm hne) hfirst⟩

theorem cut_length (h : cut sep s = some (before, after)) : after.length < s.length := by
  obtain ⟨rfl, -⟩ := eq_of_cut h
  rw [List.length_append, List.length_cons]
  omega

theorem joinFields_fields (sep : Char) (s : List Char) :
    joinFields sep (fields sep s).1 (fields sep s).2 = s := by
  induction s with
  | nil => rfl
  | cons c s ih =>
    by_cases h : c = sep
    · simp [fields, h, joinFields, ih]
    · cases hf : (fields sep s).2 <;> simp_all [fields, joinFields]

end Text
end MonitorAgent
