import MonitorAgent.Proofs.NumberReading

/-!
# Errors of thresholds

An error carries the whole text, with one exception.  The words of operators are found with
the long s and the kelvin sign for their letters, but the table of operators has letters of
ASCII only.  So just an operator with one of the two characters is found and then not known,
and that error carries the text of the operator alone.
-/

namespace MonitorAgent

variable {s text rest : List Char}

/-! ## Words of a text -/

namespace Text

theorem length_span (p : Char → Bool) (s : List Char) :
    (s.takeWhile p).length + (s.dropWhile p).length = s.length := by
  rw [← List.length_append, List.takeWhile_append_dropWhile]

theorem trim_sublist (s : List Char) : (trim s).Sublist s := by
  have hend : (trimEnd (trimStart s)).reverse.Sublist (trimStart s).reverse := by
    rw [trimEnd, List.reverse_reverse]
    exact List.dropWhile_sublist isSpace
  exact (List.reverse_sublist.mp hend).trans (List.dropWhile_sublist isSpace)

theorem exists_mem_kept {c : Char} {word : List Char} {later : List (List Char)}
    (h : ∃ w ∈ word :: later, c ∈ w) :
    ∃ w ∈ if word.isEmpty then later else word :: later, c ∈ w := by
  split
  next hempty =>
    obtain ⟨w, hw, hc⟩ := h
    rcases List.mem_cons.mp hw with rfl | hlater
    · rw [List.isEmpty_iff.mp hempty] at hc
      cases hc
    · exact ⟨w, hlater, hc⟩
  next => exact h

theorem exists_mem_wordsFrom {c : Char} (hc : isSpace c = false) (h : c ∈ s) :
    ∃ word ∈ (wordsFrom s).1 :: (wordsFrom s).2, c ∈ word := by
  induction s with
  | nil => cases h
  | cons x s ih =>
      rw [wordsFrom]
      simp only
      split
      next hx =>
        -- White space ends the word under the scan, which is dropped if it is empty.
        have hne : c ≠ x := by
          rintro rfl
          rw [hx] at hc
          cases hc
        obtain ⟨word, hword, hmem⟩ := exists_mem_kept (ih ((List.mem_cons.mp h).resolve_left hne))
        exact ⟨word, List.mem_cons_of_mem [] hword, hmem⟩
      next =>
        rcases List.mem_cons.mp h with rfl | hafter
        · exact ⟨_, List.mem_cons_self, List.mem_cons_self⟩
        · obtain ⟨word, hword, hmem⟩ := ih hafter
          rcases List.mem_cons.mp hword with rfl | hlater
          · exact ⟨_, List.mem_cons_self, List.mem_cons_of_mem x hmem⟩
          · exact ⟨word, List.mem_cons_of_mem _ hlater, hmem⟩

theorem exists_mem_words {c : Char} (hc : isSpace c = false) (h : c ∈ s) :
    ∃ word ∈ words s, c ∈ word :=
  exists_mem_kept (exists_mem_wordsFrom hc h)

theorem mem_joinFields_of_mem {sep c : Char} {first : List Char} {later : List (List Char)}
    {field : List Char} (hfield : field ∈ first :: later) (hc : c ∈ field) :
    c ∈ joinFields sep first later := by
  induction later generalizing first with
  | nil =>
      obtain rfl := List.mem_singleton.mp hfield
      exact hc
  | cons next later ih =>
      rcases List.mem_cons.mp hfield with rfl | hlater
      · exact List.mem_append_left _ hc
      · exact List.mem_append_right _ (List.mem_cons_of_mem sep (ih hlater))

end Text

namespace Threshold

open Grammar

/-! ## Operators that are known -/

theorem mem_normalize {c : Char} (hspace : Text.isSpace c = false) (hlower : c.toLower = c)
    (h : c ∈ s) : c ∈ Operator.normalize s := by
  obtain ⟨word, hword, hc⟩ := Text.exists_mem_words hspace h
  rw [Operator.normalize]
  cases hwords : Text.words s with
  | nil =>
      rw [hwords] at hword
      cases hword
  | cons first later =>
      rw [hwords] at hword
      rw [← hlower]
      exact List.mem_map_of_mem (Text.mem_joinFields_of_mem hword hc)

theorem unmistaken_of_read? {op : Operator} (h : Operator.read? s = some op) : Unmistaken s := by
  -- The table is in letters of ASCII, and normal forms keep the two characters.
  have hspellings : ∀ entry ∈ Operator.spellings,
      entry.1.toList.all (fun c => c != '\u017f' && c != '\u212a') = true := by decide
  have hnormal : Unmistaken (Operator.normalize s) := by
    obtain ⟨before, after, htable, -⟩ := List.lookup_eq_some_iff.mp h
    have hmem : (String.ofList (Operator.normalize s), op) ∈ Operator.spellings := by
      rw [htable]
      exact List.mem_append_right before List.mem_cons_self
    have hentry := hspellings _ hmem
    rw [String.toList_ofList] at hentry
    intro c hc
    have hclear := List.all_eq_true.mp hentry c hc
    rwa [Bool.and_eq_true, bne_iff_ne, bne_iff_ne] at hclear
  intro c hc
  refine ⟨?_, ?_⟩
  · rintro rfl
    exact (hnormal _ (mem_normalize (by decide) (by decide) hc)).1 rfl
  · rintro rfl
    exact (hnormal _ (mem_normalize (by decide) (by decide) hc)).2 rfl

/-! ## Operators that are found -/

theorem spelled?_sound {word : List Char} (h : spelled? word s = some (text, rest)) :
    s = text ++ rest ∧ (Unmistaken text → Text.lower text = word) := by
  induction word generalizing s text with
  | nil =>
      cases h
      exact ⟨rfl, fun _ => rfl⟩
  | cons letter word ih =>
      cases s with
      | nil => cases h
      | cons c s =>
          rw [spelled?] at h
          split at h
          next hletter =>
            obtain ⟨⟨w, rest'⟩, hw, heq⟩ := Option.map_eq_some_iff.mp h
            cases heq
            obtain ⟨rfl, hlower⟩ := ih hw
            refine ⟨rfl, fun hclear => ?_⟩
            obtain ⟨hc, hrest⟩ := List.forall_mem_cons.mp hclear
            rw [spells_eq letter hc, beq_iff_eq] at hletter
            rw [← hletter, ← hlower hrest]
            rfl
          next => cases h

theorem word?_sound {word : List Char} (h : word? word s = some (text, rest)) :
    s = text ++ rest ∧ (Unmistaken text → Text.lower text = word) :=
  spelled?_sound (Option.filter_eq_some_iff.mp h).1

theorem singleWord?_isWord (h : singleWord? s = some (text, rest)) :
    s = text ++ rest ∧ (Unmistaken text → ∃ op, IsWord text op) := by
  have hread {word : String} (op : Operator) (hword : (word, op) ∈ words)
      (h : word? word.toList s = some (text, rest)) :
      s = text ++ rest ∧ (Unmistaken text → ∃ op, IsWord text op) := by
    obtain ⟨hs, hlower⟩ := word?_sound h
    exact ⟨hs, fun hclear => ⟨op, .single hword (hlower hclear)⟩⟩
  rcases Option.or_eq_some_iff.mp h with h | ⟨-, h⟩
  · rcases Option.or_eq_some_iff.mp h with h | ⟨-, h⟩
    · exact hread .unequal (by decide) h
    · exact hread .equal (by decide) h
  · exact hread .like (by decide) h

theorem notLike?_isWord (h : notLike? s = some (text, rest)) :
    s = text ++ rest ∧ (Unmistaken text → ∃ op, IsWord text op) := by
  rw [notLike?] at h
  split at h
  · cases h
  next first after hnot =>
    obtain ⟨rfl, hfirst⟩ := spelled?_sound hnot
    simp only at h
    split at h
    · cases h
    next hblank =>
      obtain ⟨⟨second, rest'⟩, hlike, heq⟩ := Option.map_eq_some_iff.mp h
      cases heq
      obtain ⟨hafter, hsecond⟩ := word?_sound hlike
      have hparts : after.takeWhile Text.isSpace ++ after.dropWhile Text.isSpace = after :=
        List.takeWhile_append_dropWhile
      rw [hafter] at hparts
      rw [List.isEmpty_iff] at hblank
      rw [List.append_assoc first]
      refine ⟨?_, fun hclear => ⟨.notLike, .notLike (hfirst ?_) (Text.all_takeWhile _ _) hblank
        (hsecond ?_)⟩⟩
      · simp only [List.append_assoc, hparts]
      · exact fun c hc => hclear c (List.mem_append_left _ hc)
      · exact hclear.append_right.append_right

theorem wordOperator?_isWord (h : wordOperator? s = some (text, rest)) :
    s = text ++ rest ∧ (Unmistaken text → ∃ op, IsWord text op) := by
  rw [wordOperator?_eq] at h
  rcases Option.or_eq_some_iff.mp h with hnotLike | ⟨-, hsingle⟩
  · exact notLike?_isWord hnotLike
  · exact singleWord?_isWord hsingle

/-- Of the operators that are found just those without the two characters are known. -/
theorem read?_of_operator? (h : operator? s = some (text, rest)) :
    ((∃ op, Operator.read? text = some op) ↔ Unmistaken text) ∧ text.length ≤ s.length := by
  have hlength := Text.length_span Text.isSpace s
  have hknown : (∃ op, Operator.read? text = some op) → Unmistaken text := fun ⟨op, hop⟩ =>
    unmistaken_of_read? hop
  rw [operator?] at h
  cases hsymbol : symbolOperator? (s.dropWhile Text.isSpace) with
  | some found =>
      simp only [hsymbol] at h
      cases h
      obtain ⟨hdrop, op, hlongest⟩ := symbolOperator?_eq_some_iff.mp hsymbol
      rw [hdrop, List.length_append] at hlength
      exact ⟨⟨hknown, fun _ => ⟨op, read?_symbols (text, op) hlongest.fits⟩⟩, by omega⟩
  | none =>
      simp only [hsymbol] at h
      cases hlast : (s.takeWhile Text.isSpace).getLast? with
      | none =>
          rw [hlast] at h
          cases h
      | some c =>
          rw [hlast] at h
          obtain ⟨⟨word, rest'⟩, hword, heq⟩ := Option.map_eq_some_iff.mp h
          cases heq
          obtain ⟨hdrop, hisWord⟩ := wordOperator?_isWord hword
          have hmem := List.mem_of_getLast? hlast
          have hblank := List.length_pos_of_mem hmem
          rw [hdrop, List.length_append] at hlength
          refine ⟨⟨hknown, fun hclear => ?_⟩, by simp only [List.length_cons]; omega⟩
          obtain ⟨op, hop⟩ := hisWord (List.forall_mem_cons.mp hclear).2
          exact ⟨op, read?_word (Text.all_takeWhile Text.isSpace s c hmem) hop⟩

/-! ## Errors -/

theorem operator_of_read? {c : Clause} (h : Clause.read? s = some c) :
    ((∃ op, Operator.read? c.operator = some op) ↔ Unmistaken c.operator) ∧
      c.operator.length < s.length := by
  have hlength := Text.length_span isNameChar s
  obtain ⟨hname, hne, -, rest, hoperator, -⟩ := clause_eq_some_iff.mp h
  obtain ⟨hknown, hle⟩ := read?_of_operator? hoperator
  have hpos := List.length_pos_iff.mpr hne
  rw [← hname] at hlength
  exact ⟨hknown, by omega⟩

theorem fault_of_readValue {op : Operator} {fault : Fault} (h : readValue op s = .error fault) :
    fault ≠ .unknownOperator := by
  rw [readValue] at h
  split at h
  next number unit _ =>
    split at h
    · cases h
    · split at h
      · cases h
        rintro ⟨⟩
      · cases h
  next =>
    split at h
    · cases h
      rintro ⟨⟩
    · cases h

theorem toThreshold_error {c : Clause} {raw : String} {e : Error}
    (hknown : ∃ op, Operator.read? c.operator = some op) (h : c.toThreshold raw = .error e) :
    e.raw = raw ∧ e.fault ≠ .unknownOperator := by
  obtain ⟨op, hop⟩ := hknown
  simp only [Clause.toThreshold, hop] at h
  split at h
  · cases h
    exact ⟨rfl, by rintro ⟨⟩⟩
  · split at h
    next fault hfault =>
      cases h
      exact ⟨rfl, fault_of_readValue hfault⟩
    next => cases h

/-- Every error carries the whole text, but for an operator that is found with one of the two
characters: it is not known, and its text alone is in the error. -/
theorem read_error (raw : String) :
    (∀ s c, Clause.read? s = some c →
      ((∃ op, Operator.read? c.operator = some op) ↔ Unmistaken c.operator)) ∧
    (∀ c, Clause.read? (Text.trim raw.toList) = some c → ¬Unmistaken c.operator →
      read raw = .error ⟨String.ofList c.operator, .unknownOperator⟩ ∧
        String.ofList c.operator ≠ raw) ∧
    ∀ e, read raw = .error e →
      (∀ c, Clause.read? (Text.trim raw.toList) = some c → Unmistaken c.operator) →
      e.raw = raw ∧ e.fault ≠ .unknownOperator := by
  refine ⟨fun s c h => (operator_of_read? h).1, fun c h hmistaken => ⟨?_, fun heq => ?_⟩, ?_⟩
  · have hunknown : Operator.read? c.operator = none :=
      Option.eq_none_iff_forall_ne_some.mpr fun op hop =>
        hmistaken ((operator_of_read? h).1.mp ⟨op, hop⟩)
    rw [read_of_clause h]
    simp only [Clause.toThreshold, hunknown]
  · -- The name stands before the operator, so that the operator is not the whole text.
    have hshorter := (operator_of_read? h).2
    have htrim := (Text.trim_sublist raw.toList).length_le
    rw [← heq, String.toList_ofList] at htrim hshorter
    omega
  · intro e h hclear
    by_cases hoff : TurnsOff (Text.trim raw.toList)
    · rw [read_disabled hoff] at h
      cases h
    · rw [read_clause hoff] at h
      cases hclause : Clause.read? (Text.trim raw.toList) with
      | none =>
          rw [hclause] at h
          cases h
          exact ⟨rfl, by rintro ⟨⟩⟩
      | some c =>
          rw [hclause] at h
          exact toThreshold_error ((operator_of_read? hclause).1.mpr (hclear c hclause)) h

/-- A unit that is not known, and the word `is` with the long s. -/
theorem read_error_unit :
    (∃ e, read "load > 5x" = .error e ∧ e.raw = "load > 5x" ∧ e.fault ≠ .unknownOperator) ∧
    read "load iſ 5" = .error ⟨" iſ", .unknownOperator⟩ := by
  have hread : read "load > 5x" = .error ⟨"load > 5x", .unknownUnit "x"⟩ := rfl
  refine ⟨⟨_, hread, (read_error "load > 5x").2.2 _ hread fun c hc => ?_⟩, ?_⟩
  · have hclause : Clause.read? (Text.trim "load > 5x".toList) =
        some ⟨['l', 'o', 'a', 'd'], ['>'], ['5', 'x']⟩ := rfl
    rw [hclause] at hc
    cases hc
    intro x hx
    rw [List.mem_singleton.mp hx]
    decide
  · have hmistaken : ¬Unmistaken [' ', 'i', 'ſ'] := fun h => (h 'ſ' (by simp)).1 rfl
    have hclause : Clause.read? (Text.trim "load iſ 5".toList) =
        some ⟨['l', 'o', 'a', 'd'], [' ', 'i', 'ſ'], ['5']⟩ := rfl
    exact ((read_error "load iſ 5").2.1 _ hclause hmistaken).1

/-- An operator that is found and not known, and the blank before it with it in the error. -/
theorem read_error_long_s :
    Clause.read? "load iſ 5".toList = some ⟨['l', 'o', 'a', 'd'], [' ', 'i', 'ſ'], ['5']⟩ ∧
    Operator.read? [' ', 'i', 'ſ'] = none ∧
    ¬∀ raw e, read raw = .error e → e.raw = raw := by
  have hread : read "load iſ 5" = .error ⟨" iſ", .unknownOperator⟩ := rfl
  refine ⟨rfl, rfl, fun hall => ?_⟩
  have hraw := hall "load iſ 5" _ hread
  revert hraw
  decide

end Threshold
end MonitorAgent
