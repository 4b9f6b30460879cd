import MonitorAgent.Nrpe.Command

/-!
# Commands and their texts

Fields without the separator are found again in the text that joins them, and the
text holds no other characters.  The fields of a text have no separator and join to it.
So every text is written from what it is read as, and just the commands whose name and
arguments are free of exclamation marks are read back from what they are written as.
-/

namespace MonitorAgent
namespace Text

variable {sep : Char}

@[simp] theorem fields_nil : fields sep [] = ([], []) := rfl

theorem fields_cons_sep (s : List Char) :
    fields sep (sep :: s) = ([], (fields sep s).1 :: (fields sep s).2) := by
  simp [fields]

theorem fields_cons_ne {c : Char} (h : c ≠ sep) (s : List Char) :
    fields sep (c :: s) = (c :: (fields sep s).1, (fields sep s).2) := by
  simp [fields, h]

/-- What stands before the first separator is the first field. -/
theorem fields_append {first : List Char} (h : sep ∉ first) (s : List Char) :
    fields sep (first ++ s) = (first ++ (fields sep s).1, (fields sep s).2) := by
  induction first with
  | nil => rfl
  | cons c first ih =>
      obtain ⟨hc, hfirst⟩ := not_or.1 (mt List.mem_cons.2 h)
      rw [List.cons_append, fields_cons_ne (Ne.symm hc), ih hfirst]
      rfl

theorem notMem_fields (sep : Char) (s : List Char) :
    ∀ field ∈ (fields sep s).1 :: (fields sep s).2, sep ∉ field := by
  induction s with
  | nil => simp
  | cons c s ih =>
      by_cases hc : c = sep
      · rw [hc, fields_cons_sep]
        exact List.forall_mem_cons.2 ⟨List.not_mem_nil, ih⟩
      · obtain ⟨hfirst, hlater⟩ := List.forall_mem_cons.1 ih
        have hnext := List.not_mem_cons_of_ne_of_not_mem (Ne.symm hc) hfirst
        rw [fields_cons_ne hc]
        exact List.forall_mem_cons.2 ⟨hnext, hlater⟩

theorem fields_joinFields {first : List Char} {later : List (List Char)} (hfirst : sep ∉ first)
    (hlater : ∀ field ∈ later, sep ∉ field) :
    fields sep (joinFields sep first later) = (first, later) := by
  induction later generalizing first with
  | nil => simpa [joinFields] using fields_append hfirst []
  | cons next later ih =>
      have hnext : sep ∉ next := hlater next List.mem_cons_self
      have hrest : ∀ field ∈ later, sep ∉ field :=
        fun field hfield => hlater field (List.mem_cons_of_mem next hfield)
      rw [joinFields, fields_append hfirst, fields_cons_sep, ih hnext hrest, List.append_nil]

theorem mem_joinFields {c : Char} {first : List Char} {later : List (List Char)}
    (h : c ∈ joinFields sep first later) : c = sep ∨ ∃ field ∈ first :: later, c ∈ field := by
  induction later generalizing first with
  | nil => exact Or.inr ⟨first, List.mem_cons_self, h⟩
  | cons next later ih =>
      rcases List.mem_append.1 h with hfirst | hrest
      · exact Or.inr ⟨first, List.mem_cons_self, hfirst⟩
      rcases List.mem_cons.1 hrest with hsep | hjoined
      · exact Or.inl hsep
      rcases ih hjoined with hsep | ⟨field, hfield, hc⟩
      · exact Or.inl hsep
      · exact Or.inr ⟨field, List.mem_cons_of_mem first hfield, hc⟩

end Text

namespace Nrpe
namespace Command

theorem decode_encode {c : Command} (hname : separator ∉ c.name.toList)
    (hargs : ∀ arg ∈ c.args, separator ∉ arg.toList) : decode c.encode = c := by
  have hlater : ∀ field ∈ c.args.map String.toList, separator ∉ field := by
    intro field hfield
    obtain ⟨arg, harg, rfl⟩ := List.mem_map.1 hfield
    exact hargs arg harg
  rw [decode, encode, String.toList_ofList, Text.fields_joinFields hname hlater]
  simp

/-- No character of the text comes from elsewhere. -/
theorem mem_encode {c : Command} {x : Char} (hx : x ∈ c.encode.toList) (hsep : x ≠ separator) :
    ∃ field ∈ c.name :: c.args, x ∈ field.toList := by
  rw [encode, String.toList_ofList] at hx
  rcases Text.mem_joinFields hx with hx | ⟨field, hfield, hx⟩
  · exact absurd hx hsep
  · rw [← List.map_cons (f := String.toList)] at hfield
    obtain ⟨text, htext, rfl⟩ := List.mem_map.1 hfield
    exact ⟨text, htext, hx⟩

theorem encode_decode (payload : String) : (decode payload).encode = payload := by
  have hargs : (decode payload).args.map String.toList =
      (Text.fields separator payload.toList).2 := by simp [decode]
  rw [encode, hargs, decode, String.toList_ofList, Text.joinFields_fields, String.ofList_toList]

theorem notMem_decode (payload : String) :
    ∀ text ∈ (decode payload).name :: (decode payload).args, separator ∉ text.toList := by
  obtain ⟨hfirst, hlater⟩ := List.forall_mem_cons.1 (Text.notMem_fields separator payload.toList)
  rw [List.forall_mem_cons]
  constructor
  · rwa [decode, String.toList_ofList]
  · intro arg harg
    obtain ⟨field, hfield, rfl⟩ := List.mem_map.1 harg
    rw [String.toList_ofList]
    exact hlater field hfield

/-- Writing undoes reading for every text, and reading undoes writing for just the commands without
the mark. -/
theorem encode_decode_inverse :
    (∀ payload : String, (decode payload).encode = payload) ∧
    ∀ c : Command, decode c.encode = c ↔ ∀ text ∈ c.name :: c.args, '!' ∉ text.toList := by
  refine ⟨encode_decode, fun c => ⟨fun h => ?_, fun hplain => ?_⟩⟩
  · rw [← h]
    exact notMem_decode c.encode
  · obtain ⟨hname, hargs⟩ := List.forall_mem_cons.1 hplain
    exact decode_encode hname hargs

example : decode "!a!!" = ⟨"", ["a", "", ""]⟩ := by decide

end Command
end Nrpe
end MonitorAgent
