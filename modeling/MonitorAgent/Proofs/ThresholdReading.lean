import MonitorAgent.Proofs.OperatorReading
import MonitorAgent.Proofs.QuantityReading

/-!
# Reading thresholds

The reader takes just the texts of the grammar: what it finds are parts that fit, and
parts that fit are what it finds.
-/

namespace MonitorAgent
namespace Threshold

open Grammar

variable {s : List Char} {op : Operator} {p : Parts} {number unit : String}

/-! ## Values -/

theorem isUnquoted_unquote (s : List Char) : IsUnquoted s (unquote s) := by
  cases s with
  | nil => exact .bare (by rintro inner ⟨⟩) (by rintro inner ⟨⟩)
  | cons quote rest =>
      rw [unquote]
      split
      next hquoted =>
        obtain ⟨hquote, hlast⟩ := (Bool.and_eq_true _ _).mp hquoted
        obtain ⟨inner, rfl⟩ := List.getLast?_eq_some_iff.mp (beq_iff_eq.mp hlast)
        rw [List.dropLast_concat]
        rcases (Bool.or_eq_true _ _).mp hquote with h | h
        · rw [beq_iff_eq.mp h]
          exact .single inner
        · rw [beq_iff_eq.mp h]
          exact .double inner
      next hbare =>
        have hne (mark : Char) (hmark : isQuote mark = true) (inner : List Char) :
            quote :: rest ≠ mark :: (inner ++ [mark]) := by
          rintro h
          obtain ⟨rfl, rfl⟩ := List.cons.inj h
          exact hbare (by simp [hmark])
        exact .bare (hne '\'' (by decide)) (hne '"' (by decide))

theorem readValue_quantity (op : Operator) (h : IsQuantity s number unit) :
    readValue op s = .ok (number, unit) := by
  obtain ⟨hquantity, hknown⟩ := quantity?_iff.mpr h
  simp only [readValue, hquantity, if_pos hknown]

/-- What is no quantity is a text, which an operator that orders does not take. -/
theorem readValue_text (op : Operator) (h : ∀ number unit, ¬IsQuantity s number unit) :
    if op.isOrdering then ∃ fault, readValue op s = .error fault
    else readValue op s = .ok (String.ofList (unquote s), "") := by
  rw [readValue]
  cases hquantity : quantity? s with
  | none =>
      cases op.isOrdering with
      | true => exact ⟨_, rfl⟩
      | false => rfl
  | some found =>
      obtain ⟨number, unit⟩ := found
      have hunknown : ¬isKnownUnit unit = true := fun hknown =>
        h number unit (quantity?_iff.mp ⟨hquantity, hknown⟩)
      simp only [if_neg hunknown]
      cases op.isOrdering with
      | true => exact ⟨_, rfl⟩
      | false => rfl

theorem isOrdering_iff :
    op.isOrdering = true ↔ op ∈ [.lower, .lowerEqual, .greater, .greaterEqual] := by
  cases op <;> decide

theorem isQuantity_of_readValue (hop : op.isOrdering = true)
    (h : readValue op s = .ok (number, unit)) : IsQuantity s number unit := by
  by_cases hquantity : ∃ number unit, IsQuantity s number unit
  · obtain ⟨number', unit', hquantity⟩ := hquantity
    obtain ⟨rfl, rfl⟩ := Prod.mk.inj (Except.ok.inj ((readValue_quantity op hquantity).symm.trans h))
    exact hquantity
  · have htext := readValue_text op fun number unit h => hquantity ⟨number, unit, h⟩
    rw [if_pos hop] at htext
    obtain ⟨fault, hfault⟩ := htext
    rw [hfault] at h
    cases h

/-! ## Clauses -/

/-- The name is the longest one at the start, and the value is on one line. -/
theorem clause_eq_some_iff {c : Clause} : Clause.read? s = some c ↔
    c.name = s.takeWhile isNameChar ∧ c.name ≠ [] ∧ '\n' ∉ c.value ∧
      ∃ rest, operator? (s.dropWhile isNameChar) = some (c.operator, rest) ∧
        c.value = rest.dropWhile Text.isSpace := by
  constructor
  · intro h
    rw [Clause.read?] at h
    split at h
    · cases h
    next hname =>
      split at h
      · cases h
      next text rest hoperator =>
        simp only at h
        split at h
        · cases h
        next hline =>
          cases h
          rw [List.isEmpty_iff] at hname
          rw [List.contains_iff_mem] at hline
          exact ⟨rfl, hname, hline, rest, hoperator, rfl⟩
  · obtain ⟨name, operator, value⟩ := c
    rintro ⟨rfl, hname, hline, rest, hoperator, rfl⟩
    rw [Ne, ← List.isEmpty_iff] at hname
    rw [← List.contains_iff_mem] at hline
    simp only [Clause.read?, if_neg hname, hoperator, if_neg hline]

theorem toThreshold_eq_ok_iff {c : Clause} {raw : String} {t : Threshold} :
    c.toThreshold raw = .ok t ↔
      Operator.read? c.operator = some t.operator ∧ c.value ≠ [] ∧
        readValue t.operator c.value = .ok (t.value, t.unit) ∧
        t.name = if t.unit = "%" then withPercentMark (String.ofList c.name)
          else String.ofList c.name := by
  constructor
  · intro h
    rw [Clause.toThreshold] at h
    split at h
    · cases h
    next op hop =>
      split at h
      · cases h
      next hvalue =>
        split at h
        · cases h
        next value unit hread =>
          cases h
          rw [List.isEmpty_iff] at hvalue
          exact ⟨hop, hvalue, hread, rfl⟩
  · rintro ⟨hop, hvalue, hread, hname⟩
    rw [Ne, ← List.isEmpty_iff] at hvalue
    simp only [Clause.toThreshold, hop, if_neg hvalue, hread, ← hname]

/-! ## Parts -/

theorem isNameChar_iff {c : Char} (h : c ≠ '\u017f' ∧ c ≠ '\u212a') :
    isNameChar c = true ↔ IsPlain c := by
  rw [isNameChar, isLongS, isKelvin, beq_false_of_ne h.1, beq_false_of_ne h.2, Bool.or_false,
    Bool.or_false, Bool.or_eq_true, Bool.or_eq_true, Bool.or_eq_true, beq_iff_eq, beq_iff_eq,
    beq_iff_eq, IsPlain, or_assoc, or_assoc]

theorem name_span (hs : Unmistaken s) :
    (∀ c ∈ s.takeWhile isNameChar, IsPlain c) ∧
      ∀ c ∈ (s.dropWhile isNameChar).head?, ¬IsPlain c := by
  constructor
  · intro c hc
    have hmem := (List.takeWhile_sublist isNameChar).mem hc
    exact (isNameChar_iff (hs c hmem)).mp (Text.all_takeWhile isNameChar s c hc)
  · intro c hc
    have hmem := (List.dropWhile_sublist isNameChar).mem (List.mem_of_mem_head? hc)
    rw [← isNameChar_iff (hs c hmem), Text.stops_dropWhile isNameChar s c hc]
    exact Bool.false_ne_true

/-- The parts that are found fit if there is a value. -/
theorem clause_sound {c : Clause} (hs : Unmistaken s) (h : Clause.read? s = some c) :
    ∃ (p : Parts) (op : Operator), p.text = s ∧ p.name = c.name ∧ p.value = c.value ∧
      Operator.read? c.operator = some op ∧ (c.value ≠ [] → p.Fits op) := by
  have hparts : s.takeWhile isNameChar ++ s.dropWhile isNameChar = s :=
    List.takeWhile_append_dropWhile
  have hafter : Unmistaken (s.dropWhile isNameChar) := by
    rw [← hparts] at hs
    exact hs.append_right
  obtain ⟨hname, hne, hline, rest, hoperator, hvalue⟩ := clause_eq_some_iff.mp h
  obtain ⟨blank, word, op, hdrop, hblank, hop, hread⟩ := operator?_sound hafter hoperator
  have hrest : rest.takeWhile Text.isSpace ++ c.value = rest := by
    rw [hvalue, List.takeWhile_append_dropWhile]
  refine ⟨⟨c.name, blank, word, rest.takeWhile Text.isSpace, c.value⟩, op, ?_, rfl, rfl, hread,
    fun hsome => ?_⟩
  · rw [Parts.text, hrest, ← hdrop, hname, hparts]
  · obtain ⟨hplain, hlongest⟩ := name_span hs
    constructor
    · exact hne
    · rwa [hname]
    · rwa [hrest, ← hdrop]
    · exact hblank
    · rwa [hrest]
    · exact Text.all_takeWhile Text.isSpace rest
    · exact hsome
    · rw [hvalue]
      exact Text.stops_dropWhile Text.isSpace rest
    · exact hline

theorem clause_complete (hs : Unmistaken p.text) (h : p.Fits op) :
    ∃ operator, Clause.read? p.text = some ⟨p.name, operator, p.value⟩ ∧
      Operator.read? operator = some op := by
  have hname : ∀ c ∈ p.name, isNameChar c = true := fun c hc =>
    (isNameChar_iff (hs c (List.mem_append_left _ hc))).mpr (h.name_plain c hc)
  have hstops : Text.Stops isNameChar (p.blank ++ (p.operator ++ (p.gap ++ p.value))) := by
    intro c hc
    have hmem := List.mem_append_right p.name (List.mem_of_mem_head? hc)
    rw [← Bool.not_eq_true, isNameChar_iff (hs c hmem)]
    exact h.name_longest c hc
  obtain ⟨operator, hfound, hread⟩ := operator?_complete hs.append_right h.blank h.operator
  refine ⟨operator, clause_eq_some_iff.mpr ⟨?_, h.name_ne, h.value_line, p.gap ++ p.value, ?_, ?_⟩,
    hread⟩
  · exact (Text.takeWhile_span hname hstops).symm
  · rwa [Parts.text, Text.dropWhile_span hname hstops]
  · exact (Text.dropWhile_span h.gap h.value_start).symm

/-! ## Thresholds -/

theorem toThreshold_complete {operator : List Char} (raw : String)
    (hread : Operator.read? operator = some op) (h : p.IsThreshold op) :
    ∃ t, Clause.toThreshold ⟨p.name, operator, p.value⟩ raw = .ok t ∧ p.StandsFor op t := by
  have hname (unit : String) :
      (if unit = "%" then withPercentMark (String.ofList p.name) else String.ofList p.name) =
        String.ofList p.name ++ if unit = "%" then "_pct" else "" := by
    split
    · rfl
    · rw [String.append_empty]
  have hok {value unit : String} (hvalue : readValue op p.value = .ok (value, unit))
      (hdenotes : Denotes p.value value unit) :
      ∃ t, Clause.toThreshold ⟨p.name, operator, p.value⟩ raw = .ok t ∧ p.StandsFor op t :=
    ⟨⟨_, op, value, unit⟩, toThreshold_eq_ok_iff.mpr ⟨hread, h.1.value_ne, hvalue, rfl⟩, rfl,
      hdenotes, hname unit⟩
  by_cases hquantity : ∃ number unit, IsQuantity p.value number unit
  · obtain ⟨number, unit, hquantity⟩ := hquantity
    exact hok (readValue_quantity op hquantity) (.quantity hquantity)
  · have hnot : ∀ number unit, ¬IsQuantity p.value number unit := fun number unit h =>
      hquantity ⟨number, unit, h⟩
    have htext := readValue_text op hnot
    rw [if_neg fun hordering => hquantity (h.2 (isOrdering_iff.mp hordering))] at htext
    exact hok htext (.text hnot (isUnquoted_unquote p.value))

theorem toThreshold_sound {operator : List Char} {raw : String} {t : Threshold}
    (hread : Operator.read? operator = some op) (hfits : p.value ≠ [] → p.Fits op)
    (h : Clause.toThreshold ⟨p.name, operator, p.value⟩ raw = .ok t) : p.IsThreshold op := by
  obtain ⟨hop, hvalue, hok, -⟩ := toThreshold_eq_ok_iff.mp h
  obtain rfl : op = t.operator := Option.some.inj (hread.symm.trans hop)
  exact ⟨hfits hvalue, fun hordering =>
    ⟨_, _, isQuantity_of_readValue (isOrdering_iff.mpr hordering) hok⟩⟩

theorem turnsOff_iff : (s.isEmpty || saysNone s) = true ↔ TurnsOff s := by
  rw [Bool.or_eq_true, List.isEmpty_iff, saysNone, Text.sameLetters_iff]
  exact Iff.rfl

theorem read_disabled {raw : String} (h : TurnsOff (Text.trim raw.toList)) :
    read raw = .ok disabled := by
  rw [read, if_pos (turnsOff_iff.mpr h)]

theorem read_clause {raw : String} (h : ¬TurnsOff (Text.trim raw.toList)) :
    read raw = match Clause.read? (Text.trim raw.toList) with
      | none => .error ⟨raw, .shape⟩
      | some clause => clause.toThreshold raw :=
  if_neg (mt turnsOff_iff.mp h)

theorem not_turnsOff_of_read? {c : Clause} (h : Clause.read? s = some c) : ¬TurnsOff s := by
  rintro (rfl | hnone)
  · cases h
  · -- The word is a name with nothing behind it.
    have hletters := isLetters_of_spelled hnone (by decide) (by decide)
    have hname : ∀ c ∈ s, isNameChar c = true := by
      intro c hc
      have hplain : c.isAlphanum = true := (Bool.or_eq_true _ _).mpr (.inl (hletters.2 c hc))
      simp only [isNameChar, hplain, Bool.true_or]
    have hrest := Text.dropWhile_span hname Text.stops_nil
    rw [List.append_nil] at hrest
    rw [Clause.read?, hrest] at h
    split at h
    · cases h
    · cases h

theorem read_of_clause {raw : String} {c : Clause} (h : Clause.read? (Text.trim raw.toList) = some c) :
    read raw = c.toThreshold raw := by
  rw [read_clause (not_turnsOff_of_read? h), h]

theorem exists_clause_of_read {raw : String} {t : Threshold}
    (hon : ¬TurnsOff (Text.trim raw.toList)) (h : read raw = .ok t) :
    ∃ c, Clause.read? (Text.trim raw.toList) = some c ∧ c.toThreshold raw = .ok t := by
  rw [read_clause hon] at h
  split at h
  · cases h
  next c hclause => exact ⟨c, hclause, h⟩

theorem unmistaken_trim (h : Unmistaken s) : Unmistaken (Text.trim s) := by
  intro c hc
  have hreverse := List.mem_reverse.mp hc
  have hstart := List.mem_reverse.mp ((List.dropWhile_sublist Text.isSpace).mem hreverse)
  exact h c ((List.dropWhile_sublist Text.isSpace).mem hstart)

theorem read_complete {raw : String} (hraw : Unmistaken raw.toList)
    (htext : p.text = Text.trim raw.toList) (h : p.IsThreshold op) :
    ∃ t, read raw = .ok t ∧ p.StandsFor op t := by
  have hs := unmistaken_trim hraw
  rw [← htext] at hs
  obtain ⟨operator, hclause, hread⟩ := clause_complete hs h.1
  rw [htext] at hclause
  rw [read_of_clause hclause]
  exact toThreshold_complete raw hread h

theorem read_sound {raw : String} {t : Threshold} (hraw : Unmistaken raw.toList)
    (hon : ¬TurnsOff (Text.trim raw.toList)) (h : read raw = .ok t) :
    ∃ (p : Parts) (op : Operator), p.text = Text.trim raw.toList ∧ p.IsThreshold op := by
  obtain ⟨⟨name, operator, value⟩, hclause, hok⟩ := exists_clause_of_read hon h
  obtain ⟨p, op, htext, rfl, rfl, hread, hfits⟩ := clause_sound (unmistaken_trim hraw) hclause
  exact ⟨p, op, htext, toThreshold_sound hread hfits hok⟩

theorem disabled_not_standsFor (hp : p.name ≠ []) : ¬p.StandsFor op disabled := by
  intro h
  have hname := congrArg String.toList h.name
  rw [String.toList_append, String.toList_ofList] at hname
  exact hp (List.append_eq_nil_iff.mp hname.symm).1

/-- Just nothing and `none` give the disabled threshold, and just the texts of the grammar give one,
which is what their parts stand for. -/
theorem read_iff_grammar (raw : String) (hraw : ∀ c ∈ raw.toList, c ≠ '\u017f' ∧ c ≠ '\u212a') :
    (read raw = .ok disabled ↔ TurnsOff (Text.trim raw.toList)) ∧
    (¬TurnsOff (Text.trim raw.toList) →
      ((∃ t, read raw = .ok t) ↔
        ∃ (p : Parts) (op : Operator), p.text = Text.trim raw.toList ∧ p.IsThreshold op) ∧
      ∀ (t : Threshold) (p : Parts) (op : Operator), read raw = .ok t →
        p.text = Text.trim raw.toList → p.IsThreshold op → p.StandsFor op t) := by
  have hstands (t : Threshold) (p : Parts) (op : Operator) (h : read raw = .ok t)
      (htext : p.text = Text.trim raw.toList) (hp : p.IsThreshold op) : p.StandsFor op t := by
    obtain ⟨t', h', hstands⟩ := read_complete hraw htext hp
    obtain rfl : t' = t := Except.ok.inj (h'.symm.trans h)
    exact hstands
  refine ⟨⟨fun h => ?_, read_disabled⟩, fun hon => ⟨⟨?_, ?_⟩, hstands⟩⟩
  · by_cases hoff : TurnsOff (Text.trim raw.toList)
    · exact hoff
    · -- What the grammar takes has a name, and the disabled threshold has none.
      obtain ⟨p, op, htext, hp⟩ := read_sound hraw hoff h
      exact absurd (hstands disabled p op h htext hp) (disabled_not_standsFor hp.1.name_ne)
  · rintro ⟨t, h⟩
    exact read_sound hraw hon h
  · rintro ⟨p, op, htext, hp⟩
    obtain ⟨t, h, -⟩ := read_complete hraw htext hp
    exact ⟨t, h⟩

/-- A value that begins with a word for an operator: the operator ends where its word does. -/
theorem read_iff_grammar_likely :
    ∃ p : Parts, p.text = "load Not likely".toList ∧ p.IsThreshold .unequal ∧
      p.StandsFor .unequal ⟨"load", .unequal, "likely", ""⟩ := by
  have hread : read "load Not likely" = .ok ⟨"load", .unequal, "likely", ""⟩ := rfl
  have hon : ¬TurnsOff (Text.trim "load Not likely".toList) := by
    rw [← turnsOff_iff]
    decide
  have hascii : "load Not likely".toList.all (fun c => c != '\u017f' && c != '\u212a') = true := by
    decide
  have hraw : ∀ c ∈ "load Not likely".toList, c ≠ '\u017f' ∧ c ≠ '\u212a' := by
    intro c hc
    have hone := List.all_eq_true.mp hascii c hc
    rwa [Bool.and_eq_true, bne_iff_ne, bne_iff_ne] at hone
  obtain ⟨-, hgrammar⟩ := read_iff_grammar "load Not likely" hraw
  obtain ⟨hiff, hstands⟩ := hgrammar hon
  obtain ⟨p, op, htext, hp⟩ := hiff.mp ⟨_, hread⟩
  have hfor := hstands _ p op hread htext hp
  obtain rfl : .unequal = op := hfor.operator
  exact ⟨p, htext, hp, hfor⟩

end Threshold
end MonitorAgent
