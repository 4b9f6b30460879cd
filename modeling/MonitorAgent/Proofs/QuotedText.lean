import MonitorAgent.Proofs.Rounding

/-!
# Quoted texts in thresholds

A value in quotes is taken as it is, whatever it looks like: a quote begins no number, so
that the reader never finds a quantity, and only the outer quotes are dropped.  Equality
still compares numbers where both texts are such.  A text then equals itself unless it spells
what is not a number.
-/

namespace MonitorAgent

variable {s before behind : List Char}

/-! ## Texts without white space -/

namespace Text

def IsSolid (s : List Char) : Prop :=
  ∀ c ∈ s, isSpace c = false

theorem isSolid_cons {c : Char} : IsSolid (c :: s) ↔ isSpace c = false ∧ IsSolid s :=
  List.forall_mem_cons

theorem IsSolid.append (hbefore : IsSolid before) (hbehind : IsSolid behind) :
    IsSolid (before ++ behind) := by
  intro c hc
  exact (List.mem_append.mp hc).elim (hbefore c) (hbehind c)

theorem isSolid_of_lower (h : (lower s).all Char.isAlpha = true) : IsSolid s := by
  intro c hc
  have hletter := List.all_eq_true.mp h c.toLower (List.mem_map_of_mem hc)
  exact isSpace_of_isAlpha (isAlpha_of_toLower hletter)

theorem trim_eq_self (hfirst : Stops isSpace s) (hlast : Stops isSpace s.reverse) : trim s = s := by
  rw [trim, trimStart, dropWhile_of_stops hfirst, trimEnd, dropWhile_of_stops hlast,
    List.reverse_reverse]

theorem IsSolid.trim (h : IsSolid s) : Text.trim s = s :=
  trim_eq_self (fun c hc => h c (List.mem_of_mem_head? hc))
    fun c hc => h c (List.mem_reverse.mp (List.mem_of_mem_head? hc))

theorem occursIn_iff {pattern : List Char} : occursIn pattern s = true ↔ pattern <:+: s := by
  induction s with
  | nil => rw [occursIn, List.isEmpty_iff, List.infix_nil]
  | cons c s ih =>
      rw [occursIn, Bool.or_eq_true, List.isPrefixOf_iff_prefix, ih, List.infix_cons_iff]

end Text

open Text (IsSolid)

namespace Decimal

theorem isSolid_spanDigits (s : List Char) : IsSolid (spanDigits s).1 ∧
    ((spanDigits s).2 = [] → IsSolid s) := by
  have hdigits : IsSolid (spanDigits s).1 := fun c hc =>
    Text.isSpace_of_isDigit (Text.all_takeWhile Char.isDigit s c hc)
  refine ⟨hdigits, fun hrest => ?_⟩
  rwa [← spanDigits_append s, hrest, List.append_nil]

theorem isSolid_of_readSign (h : IsSolid (readSign s).2) : IsSolid s := by
  rcases readSign_word (s := s) rfl with hs | hs | hs
  · rwa [hs]
  · rw [hs]
    exact Text.isSolid_cons.mpr ⟨by decide, h⟩
  · rw [hs]
    exact Text.isSolid_cons.mpr ⟨by decide, h⟩

theorem isSolid_of_readExponent? (h : (readExponent? s).isSome = true) : IsSolid s := by
  cases s with
  | nil =>
      rintro c ⟨⟩
  | cons c s =>
      rw [readExponent?] at h
      split at h
      next hmark =>
        have hletter : Text.isSpace c = false := by
          rcases hmark with rfl | rfl <;> decide
        simp only at h
        split at h
        · cases h
        next hdigits =>
          have hrest : (spanDigits (readSign s).2).2 = [] := by
            simp only [Bool.or_eq_true, not_or, Bool.not_eq_true', Bool.not_eq_false,
              List.isEmpty_iff] at hdigits
            exact hdigits.2
          have hafter := (isSolid_spanDigits (readSign s).2).2 hrest
          exact Text.isSolid_cons.mpr ⟨hletter, isSolid_of_readSign hafter⟩
      next => cases h

theorem isSolid_of_readUnsigned? (h : (readUnsigned? s).isSome = true) : IsSolid s := by
  -- With a point there are two spans of digits before the exponent, without it one.
  obtain ⟨hbefore, -⟩ := isSolid_spanDigits s
  rw [← spanDigits_append s]
  refine hbefore.append ?_
  simp only [readUnsigned?] at h
  split at h
  next after hrest =>
    obtain ⟨hbehind, -⟩ := isSolid_spanDigits after
    split at h
    · cases h
    · rw [Option.isSome_map] at h
      rw [hrest, ← spanDigits_append after]
      exact Text.isSolid_cons.mpr ⟨by decide, hbehind.append (isSolid_of_readExponent? h)⟩
  next =>
    split at h
    · cases h
    · rw [Option.isSome_map] at h
      exact isSolid_of_readExponent? h

theorem isSolid_of_readMagnitude? (h : (readMagnitude? s).isSome = true) : IsSolid s := by
  have hword {word : String} (hall : word.toList.all Char.isAlpha = true)
      (heq : String.ofList (Text.lower s) = word) : IsSolid s := by
    refine Text.isSolid_of_lower ?_
    rwa [← String.toList_ofList (l := Text.lower s), heq]
  rw [readMagnitude?] at h
  cases hdigits : readUnsigned? s with
  | some found =>
      refine isSolid_of_readUnsigned? ?_
      rw [hdigits]
      rfl
  | none =>
      simp only [hdigits] at h
      split at h
      next hinfinity =>
        rcases hinfinity with hinf | hinfinity
        · exact hword (by decide) hinf
        · exact hword (by decide) hinfinity
      next =>
        split at h
        next hnan => exact hword (by decide) hnan
        next => cases h

theorem isSolid_of_read? {x : Float} (h : read? s = some x) : IsSolid s := by
  obtain ⟨y, hy, -⟩ := Option.map_eq_some_iff.mp h
  exact isSolid_of_readSign (isSolid_of_readMagnitude? (Option.isSome_of_eq_some hy))

end Decimal

/-! ## Reading -/

namespace Threshold

open Decimal (SpellsNaN)
open Grammar (IsPlain IsSpelled)

variable {name v : String}

/-- The operators that take texts. -/
def forTexts : List Operator :=
  [.equal, .unequal, .like, .notLike]

/-- A threshold on a text in single quotes. -/
def quoted (name : String) (op : Operator) (v : String) : String :=
  name ++ " " ++ op.symbol ++ " '" ++ v ++ "'"

theorem isPlain_of_isAlphanum (h : s.all Char.isAlphanum = true) : ∀ c ∈ s, IsPlain c :=
  fun c hc => .inl (List.all_eq_true.mp h c hc)

theorem isNameChar_of_isPlain {c : Char} (h : IsPlain c) : isNameChar c = true := by
  rcases h with h | rfl | rfl | rfl
  · simp only [isNameChar, h, Bool.true_or]
  · decide
  · decide
  · decide

theorem isSpace_of_isNameChar {c : Char} (h : isNameChar c = true) : Text.isSpace c = false := by
  simp only [isNameChar, isLongS, isKelvin, Bool.or_eq_true, beq_iff_eq] at h
  rcases h with ((((h | rfl) | rfl) | rfl) | rfl) | rfl
  · rcases (Bool.or_eq_true _ _).mp h with halpha | hdigit
    · exact Text.isSpace_of_isAlpha halpha
    · exact Text.isSpace_of_isDigit hdigit
  · decide
  · decide
  · decide
  · decide
  · decide

theorem readValue_quoted {op : Operator} (hop : op ∈ forTexts) (s : List Char) :
    readValue op ('\'' :: (s ++ ['\''])) = .ok (String.ofList s, "") := by
  have hquantity : quantity? ('\'' :: (s ++ ['\''])) = none := rfl
  have hordering : op.isOrdering = false := by
    revert op
    decide
  have hunquote : unquote ('\'' :: (s ++ ['\''])) = s := by
    simp [unquote, isQuote]
  rw [readValue, hquantity]
  simp only [hordering, Bool.false_eq_true, if_false, hunquote]

theorem operator?_symbol (op : Operator) (s : List Char) :
    ∃ text, operator? (' ' :: (op.symbol.toList ++ ' ' :: s)) = some (text, ' ' :: s) ∧
      Operator.read? text = some op := by
  have hsymbol := Operator.read?_symbol op
  cases op with
  | lower | lowerEqual | greater | greaterEqual | equal | unequal => exact ⟨_, rfl, hsymbol⟩
  -- A word is found together with the blank before it.
  | like => exact ⟨[' ', 'l', 'i', 'k', 'e'], rfl, by decide +kernel⟩
  | notLike => exact ⟨[' ', 'n', 'o', 't', ' ', 'l', 'i', 'k', 'e'], rfl, by decide +kernel⟩

/-- A name, the symbol of an operator and a value are read with single blanks between them. -/
theorem read_written {raw : String} {t : Threshold} {name value : List Char}
    (hraw : raw.toList = name ++ ' ' :: (t.operator.symbol.toList ++ ' ' :: value))
    (hchars : ∀ c ∈ name, isNameChar c = true) (hne : name ≠ [])
    (hstart : Text.Stops Text.isSpace value) (hend : Text.Stops Text.isSpace value.reverse)
    (hvalue : value ≠ []) (hline : '\n' ∉ value)
    (hread : readValue t.operator value = .ok (t.value, t.unit))
    (hname : t.name = if t.unit = "%" then withPercentMark (String.ofList name)
      else String.ofList name) :
    read raw = .ok t := by
  have hblank (s : List Char) : Text.Stops isNameChar (' ' :: s) :=
    Text.stops_cons.mpr (by decide)
  have htrim : Text.trim raw.toList = raw.toList := by
    refine Text.trim_eq_self ?_ ?_
    · rw [hraw]
      refine Text.stops_append (fun c hc => ?_) fun hnil => absurd hnil hne
      exact isSpace_of_isNameChar (hchars c (List.mem_of_mem_head? hc))
    · have hreverse : raw.toList.reverse =
          value.reverse ++ (name ++ ' ' :: (t.operator.symbol.toList ++ [' '])).reverse := by
        rw [hraw]
        simp
      rw [hreverse]
      exact Text.stops_append hend fun hnil => absurd (List.reverse_eq_nil_iff.mp hnil) hvalue
  obtain ⟨text, hfound, hop⟩ := operator?_symbol t.operator value
  have hgap : value = (' ' :: value).dropWhile Text.isSpace := (Text.dropWhile_of_stops hstart).symm
  have hclause : Clause.read? (Text.trim raw.toList) = some ⟨name, text, value⟩ := by
    rw [htrim, hraw]
    refine clause_eq_some_iff.mpr ⟨?_, hne, hline, ' ' :: value, ?_, hgap⟩
    · exact (Text.takeWhile_span hchars (hblank _)).symm
    · rwa [Text.dropWhile_span hchars (hblank _)]
  rw [read_of_clause hclause]
  exact toThreshold_eq_ok_iff.mpr ⟨hop, hvalue, hread, hname⟩

theorem read_quoted (hname : name ≠ "") (hplain : ∀ c ∈ name.toList, IsPlain c)
    (hline : '\n' ∉ v.toList) {op : Operator} (hop : op ∈ forTexts) :
    read (quoted name op v) = .ok ⟨name, op, v, ""⟩ := by
  have hraw : (quoted name op v).toList =
      name.toList ++ ' ' :: (op.symbol.toList ++ ' ' :: '\'' :: (v.toList ++ ['\''])) := by
    simp [quoted]
  have hne : name.toList ≠ [] := by simpa using hname
  have hquote (s : List Char) : Text.Stops Text.isSpace ('\'' :: s) :=
    Text.stops_cons.mpr (by decide)
  refine read_written hraw (fun c hc => isNameChar_of_isPlain (hplain c hc)) hne (hquote _) ?_
    (List.cons_ne_nil _ _) ?_ ?_ String.ofList_toList.symm
  · simpa using hquote _
  · simpa using hline
  · rw [readValue_quoted hop, String.ofList_toList]

/-! ## Comparing -/

theorem fieldNumber?_of_read? {x : Float} (h : Decimal.read? v.toList = some x) :
    fieldNumber? v = some x := by
  rw [fieldNumber?, (Decimal.isSolid_of_read? h).trim, h]

/-- A text equals itself unless it is compared as what is not a number. -/
theorem equals_self_iff (t : Threshold) (hunit : t.unit = "") :
    t.equals t.value = true ↔ ¬SpellsNaN t.value.toList := by
  rw [equals, number?_of_unit_none t hunit, ← Decimal.isNaN_read?_iff]
  cases hread : Decimal.read? t.value.toList with
  | none =>
      cases fieldNumber? t.value <;> simp
  | some x =>
      rw [fieldNumber?_of_read? hread, Option.any_some]
      exact Decimal.beq_self_iff

theorem isMet_iff {t : Threshold} {fields : Fields} {text : String} (hon : t.isDisabled = false)
    (htext : fields.lookup t.name = some text) : t.isMet fields = t.holds text := by
  rw [isMet, hon, htext]
  rfl

theorem isDisabled_quoted (hname : name ≠ "") (hnone : ¬IsSpelled "none" v.toList) (op : Operator) :
    isDisabled ⟨name, op, v, ""⟩ = false := by
  rw [isDisabled, Bool.or_eq_false_iff, ← Bool.not_eq_true, ← Bool.not_eq_true, saysNone,
    Text.sameLetters_iff]
  exact ⟨by simpa using hname, hnone⟩

/-- A text in quotes is taken literally by the four operators for texts. -/
theorem isMet_quoted (hname : name ≠ "") (hplain : ∀ c ∈ name.toList, IsPlain c)
    (hline : '\n' ∉ v.toList) (hnone : ¬IsSpelled "none" v.toList) :
    (∀ op ∈ forTexts, read (quoted name op v) = .ok ⟨name, op, v, ""⟩) ∧
    ∀ fields : Fields,
      (fields.lookup name = some v →
        (isMet ⟨name, .equal, v, ""⟩ fields = true ↔ ¬SpellsNaN v.toList) ∧
        (isMet ⟨name, .unequal, v, ""⟩ fields = true ↔ SpellsNaN v.toList)) ∧
      (∀ x, fields.lookup name = some x →
        (isMet ⟨name, .like, v, ""⟩ fields = true ↔ v.toList <:+: x.toList) ∧
        (isMet ⟨name, .notLike, v, ""⟩ fields = true ↔ ¬v.toList <:+: x.toList)) ∧
      (fields.lookup name = none → ∀ op ∈ forTexts, isMet ⟨name, op, v, ""⟩ fields = false) := by
  have hon := isDisabled_quoted hname hnone
  refine ⟨fun op hop => read_quoted hname hplain hline hop, fun fields => ⟨?_, ?_, ?_⟩⟩
  · intro hself
    have hequals (op : Operator) := equals_self_iff ⟨name, op, v, ""⟩ rfl
    rw [isMet_iff (hon .equal) hself, isMet_iff (hon .unequal) hself]
    refine ⟨hequals .equal, ?_⟩
    rw [holds, Bool.not_eq_true', ← Bool.not_eq_true, hequals .unequal, Classical.not_not]
  · intro x hx
    rw [isMet_iff (hon .like) hx, isMet_iff (hon .notLike) hx, ← Text.occursIn_iff]
    refine ⟨Iff.rfl, ?_⟩
    rw [holds, contains, Bool.not_eq_true', Bool.not_eq_true]
  · intro hmissing op hop
    exact isMet_of_lookup_eq_none hmissing

/-- A text that looks like a number with a unit: the item that has it, and one that has it as a
part. -/
theorem isMet_quoted_percent :
    read (quoted "used" .equal "95%") = .ok ⟨"used", .equal, "95%", ""⟩ ∧
    isMet ⟨"used", .equal, "95%", ""⟩ [("used", "95%")] = true ∧
    isMet ⟨"used", .like, "95%", ""⟩ [("used", "195% full")] = true := by
  have hplain : ∀ c ∈ "used".toList, IsPlain c := isPlain_of_isAlphanum (by decide)
  have hnone : ¬IsSpelled "none" "95%".toList := by
    rw [IsSpelled]
    decide
  have hnumber : Decimal.read? "95%".toList = none :=
    Option.isNone_iff_eq_none.mp (by decide +kernel)
  have hword : ¬SpellsNaN "95%".toList := by
    rw [← Decimal.isNaN_read?_iff, hnumber, Option.any_none]
    exact Bool.false_ne_true
  have hname : "used" ≠ "" := by decide
  have hline : '\n' ∉ "95%".toList := by decide
  have hpart : "95%".toList <:+: "195% full".toList := ⟨['1'], " full".toList, by decide⟩
  obtain ⟨hread, hmet⟩ := isMet_quoted hname hplain hline hnone
  exact ⟨hread .equal (by decide), ((hmet _).1 rfl).1.mpr hword,
    ((hmet _).2.1 "195% full" rfl).1.mpr hpart⟩

/-- The word for what is not a number does not equal itself, quoted or not. -/
theorem isMet_quoted_nan :
    let t : Threshold := ⟨"name", .equal, "nan", ""⟩
    read "name = 'nan'" = .ok t ∧ t.isMet [("name", "nan")] = false ∧
    ¬∀ name v : String, name ≠ "" → (∀ c ∈ name.toList, IsPlain c) → '\n' ∉ v.toList →
      ¬IsSpelled "none" v.toList → ∃ t, read (quoted name .equal v) = .ok t ∧
        ∀ fields : Fields, fields.lookup name = some v → t.isMet fields = true := by
  intro t
  have hread : read "name = 'nan'" = .ok t := rfl
  have hmet : t.isMet [("name", "nan")] = false := by decide +kernel
  have hplain : ∀ c ∈ "name".toList, IsPlain c := isPlain_of_isAlphanum (by decide)
  have hnone : ¬IsSpelled "none" "nan".toList := by
    rw [IsSpelled]
    decide
  refine ⟨hread, hmet, fun hall => ?_⟩
  obtain ⟨t', hread', hmet'⟩ := hall "name" "nan" (by decide) hplain (by decide) hnone
  obtain rfl : t' = t := Except.ok.inj (hread'.symm.trans hread)
  rw [hmet' [("name", "nan")] rfl] at hmet
  cases hmet

end Threshold

end MonitorAgent
