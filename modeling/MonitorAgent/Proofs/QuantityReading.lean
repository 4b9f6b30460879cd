import MonitorAgent.Threshold.Grammar

/-!
# Reading quantities

The reader takes the longest number and what it leaves is white space and a unit.
Neither of these begins with a digit or a point, so the number of a quantity is the
longest one.
-/

namespace MonitorAgent
namespace Threshold

open Grammar

variable {s number rest : List Char}

/-! ## Characters -/

theorem isDecimalDigit_of_isSpace {c : Char} (h : Text.isSpace c = true) :
    Text.isDecimalDigit c = false := by
  have hspaces : ∀ n ∈ List.range' 9 5 ++ [0x20, 0x85, 0xA0, 0x1680] ++ List.range' 0x2000 11 ++
      [0x2028, 0x2029, 0x202F, 0x205F, 0x3000],
    Text.withinRanges n Text.decimalDigitBounds = false := by decide
  refine hspaces c.toNat ?_
  simp only [Text.isSpace, Bool.or_eq_true, Bool.and_eq_true, decide_eq_true_eq, beq_iff_eq] at h
  simp only [List.mem_append, List.mem_range'_1, List.mem_cons, List.not_mem_nil, or_false]
  omega

/-- A number may go on with the character. -/
def continuesNumber (c : Char) : Bool :=
  Text.isDecimalDigit c || c == '.'

theorem continuesNumber_of_isSpace {c : Char} (h : Text.isSpace c = true) :
    continuesNumber c = false := by
  have hpoint : c ≠ '.' := by
    rintro rfl
    cases h
  rw [continuesNumber, isDecimalDigit_of_isSpace h, beq_false_of_ne hpoint, Bool.or_false]

theorem continuesNumber_of_isUnitChar {c : Char} (h : isUnitChar c = true) :
    continuesNumber c = false := by
  rcases (Bool.or_eq_true _ _).mp h with halpha | hpercent
  · have hpoint : c ≠ '.' := by
      rintro rfl
      cases halpha
    rw [continuesNumber, Text.isDecimalDigit_of_isAlpha halpha, beq_false_of_ne hpoint,
      Bool.or_false]
  · rw [beq_iff_eq.mp hpercent]
    decide

theorem isSpace_of_isUnitChar {c : Char} (h : isUnitChar c = true) : Text.isSpace c = false := by
  rcases (Bool.or_eq_true _ _).mp h with halpha | hpercent
  · exact Text.isSpace_of_isAlpha halpha
  · rw [beq_iff_eq.mp hpercent]
    decide

/-! ## Units -/

theorem isUnit_iff {unit : String} : IsUnit unit ↔ isKnownUnit unit = true := by
  have hseconds : (seconds? unit).isSome = true ↔ unit ∈ ["s", "m", "h", "d", "w"] := by
    simp [seconds?, List.lookup_isSome_iff]
  have hbytes : (bytes? unit).isSome = true ↔
      String.ofList (Text.upper unit.toList) ∈ ["B", "KB", "MB", "GB", "TB", "PB"] := by
    simp [bytes?, List.lookup_isSome_iff]
  rw [isKnownUnit, Bool.or_eq_true, Bool.or_eq_true, String.isEmpty_iff, beq_iff_eq, multiplier?,
    Option.isSome_or, Bool.or_eq_true, hseconds, hbytes]
  constructor
  · intro h
    cases h with
    | none => exact .inl (.inl rfl)
    | percent => exact .inl (.inr rfl)
    | time h => exact .inr (.inl h)
    | size h => exact .inr (.inr h)
  · rintro ((rfl | rfl) | h | h)
    · exact .none
    · exact .percent
    · exact .time h
    · exact .size h

theorem isUnitChar_of_isUnit {unit : String} (h : IsUnit unit) :
    ∀ c ∈ unit.toList, isUnitChar c = true := by
  cases h with
  | none => exact List.all_eq_true.mp (by decide)
  | percent => exact List.all_eq_true.mp (by decide)
  | time h =>
      have hall : ∀ unit ∈ ["s", "m", "h", "d", "w"], unit.toList.all isUnitChar = true := by decide
      exact List.all_eq_true.mp (hall unit h)
  | size h =>
      have hall : ∀ unit ∈ ["B", "KB", "MB", "GB", "TB", "PB"],
        unit.toList.all Char.isAlpha = true := by decide
      intro c hc
      have hmem : c.toUpper ∈ (String.ofList (Text.upper unit.toList)).toList := by
        rw [String.toList_ofList]
        exact List.mem_map_of_mem hc
      have hupper := List.all_eq_true.mp (hall _ h) c.toUpper hmem
      rw [isUnitChar, Text.isAlpha_of_toUpper hupper, Bool.true_or]

/-! ## Numbers -/

theorem unsigned?_sound (h : unsigned? s = some (number, rest)) :
    s = number ++ rest ∧ IsUnsigned number := by
  have hparts : s.takeWhile Text.isDecimalDigit ++ s.dropWhile Text.isDecimalDigit = s :=
    List.takeWhile_append_dropWhile
  have hbefore := Text.all_takeWhile Text.isDecimalDigit s
  rw [unsigned?] at h
  split at h
  next after hdrop =>
    have hafter : after.takeWhile Text.isDecimalDigit ++ after.dropWhile Text.isDecimalDigit =
        after := List.takeWhile_append_dropWhile
    have hbehind := Text.all_takeWhile Text.isDecimalDigit after
    rw [hdrop] at hparts
    simp only at h
    split at h
    · cases h
    next hne =>
      cases h
      rw [List.isEmpty_iff] at hne
      refine ⟨?_, ?_⟩
      · rw [List.append_assoc, List.cons_append, hafter, hparts]
      by_cases hnil : s.takeWhile Text.isDecimalDigit = []
      · rw [hnil]
        exact .fraction ⟨hne, hbehind⟩
      · exact .decimal ⟨hnil, hbefore⟩ ⟨hne, hbehind⟩
  next =>
    split at h
    · cases h
    next hne =>
      cases h
      rw [List.isEmpty_iff] at hne
      exact ⟨hparts.symm, .whole ⟨hne, hbefore⟩⟩

theorem unsigned?_fraction {before digits : List Char}
    (hbefore : ∀ c ∈ before, Text.isDecimalDigit c = true) (h : IsDigits digits)
    (hrest : Text.Stops Text.isDecimalDigit rest) :
    unsigned? (before ++ '.' :: (digits ++ rest)) = some (before ++ '.' :: digits, rest) := by
  have hpoint : Text.Stops Text.isDecimalDigit ('.' :: (digits ++ rest)) :=
    Text.stops_cons.mpr (by decide)
  have hne : ¬digits.isEmpty = true := by rw [List.isEmpty_iff]; exact h.1
  simp only [unsigned?, Text.takeWhile_span hbefore hpoint, Text.dropWhile_span hbefore hpoint,
    Text.takeWhile_span h.2 hrest, Text.dropWhile_span h.2 hrest, if_neg hne]

theorem unsigned?_complete (h : IsUnsigned number) (hrest : Text.Stops continuesNumber rest) :
    unsigned? (number ++ rest) = some (number, rest) := by
  have hdigit : Text.Stops Text.isDecimalDigit rest := by
    intro c hc
    exact (Bool.or_eq_false_iff.mp (hrest c hc)).1
  cases h with
  | whole h =>
      have hne : ¬number.isEmpty = true := by rw [List.isEmpty_iff]; exact h.1
      simp only [unsigned?, Text.takeWhile_span h.2 hdigit, Text.dropWhile_span h.2 hdigit]
      cases rest with
      | nil => simp only [if_neg hne]
      | cons c rest =>
          have hc : c ≠ '.' := by
            rintro rfl
            exact absurd (Text.stops_cons.mp hrest) (by decide)
          split
          next heq => exact absurd (List.cons.inj heq).1 hc
          next => rw [if_neg hne]
  | decimal hwhole hfraction =>
      rw [List.append_assoc]
      exact unsigned?_fraction hwhole.2 hfraction hdigit
  | fraction h =>
      have hnone : ∀ c ∈ ([] : List Char), Text.isDecimalDigit c = true := by
        rintro c ⟨⟩
      exact unsigned?_fraction hnone h hdigit

theorem signed?_sound (h : signed? s = some (number, rest)) :
    s = number ++ rest ∧ IsNumber number := by
  unfold signed? at h
  split at h
  next after =>
    obtain ⟨⟨digits, rest'⟩, hdigits, heq⟩ := Option.map_eq_some_iff.mp h
    cases heq
    obtain ⟨rfl, hunsigned⟩ := unsigned?_sound hdigits
    exact ⟨rfl, .negative hunsigned⟩
  next =>
    obtain ⟨hs, hunsigned⟩ := unsigned?_sound h
    exact ⟨hs, .unsigned hunsigned⟩

theorem head_of_digits (h : IsDigits s) : ∃ c after, s = c :: after ∧ continuesNumber c = true := by
  cases s with
  | nil => exact absurd rfl h.1
  | cons c after =>
      refine ⟨c, after, rfl, ?_⟩
      rw [continuesNumber, h.2 c List.mem_cons_self, Bool.true_or]

theorem head_of_unsigned (h : IsUnsigned s) :
    ∃ c after, s = c :: after ∧ continuesNumber c = true := by
  cases h with
  | whole h => exact head_of_digits h
  | @decimal whole fraction hwhole hfraction =>
      obtain ⟨c, after, rfl, hc⟩ := head_of_digits hwhole
      exact ⟨c, after ++ '.' :: fraction, rfl, hc⟩
  | @fraction digits h => exact ⟨'.', digits, rfl, by decide⟩

theorem signed?_complete (h : IsNumber number) (hrest : Text.Stops continuesNumber rest) :
    signed? (number ++ rest) = some (number, rest) := by
  cases h with
  | unsigned h =>
      obtain ⟨c, after, rfl, hc⟩ := head_of_unsigned h
      rw [List.cons_append, signed?]
      · exact unsigned?_complete h hrest
      · intro s heq
        obtain rfl : c = '-' := (List.cons.inj heq).1
        exact absurd hc (by decide)
  | negative h =>
      rw [List.cons_append, signed?, unsigned?_complete h hrest]
      rfl

/-! ## Quantities -/

/-- A quantity is read as its number and its unit, and only a quantity is read with a known unit. -/
theorem quantity?_iff {number unit : String} :
    quantity? s = some (number, unit) ∧ isKnownUnit unit = true ↔ IsQuantity s number unit := by
  constructor
  · rintro ⟨h, hknown⟩
    rw [quantity?] at h
    cases hsigned : signed? s with
    | none =>
        rw [hsigned] at h
        cases h
    | some found =>
        obtain ⟨digits, after⟩ := found
        obtain ⟨rfl, hnumber⟩ := signed?_sound hsigned
        rw [hsigned] at h
        simp only at h
        split at h
        next =>
          cases h
          refine ⟨after.takeWhile Text.isSpace, ?_, ?_, Text.all_takeWhile Text.isSpace after,
            isUnit_iff.mpr hknown⟩
          · rw [String.toList_ofList, String.toList_ofList, List.takeWhile_append_dropWhile]
          · rwa [String.toList_ofList]
        next => cases h
  · rintro ⟨blank, rfl, hnumber, hblank, hunit⟩
    have hchars := isUnitChar_of_isUnit hunit
    have hspace : Text.Stops Text.isSpace unit.toList := fun c hc =>
      isSpace_of_isUnitChar (hchars c (List.mem_of_mem_head? hc))
    have hstops : Text.Stops continuesNumber (blank ++ unit.toList) := by
      intro c hc
      rcases List.mem_append.mp (List.mem_of_mem_head? hc) with hmem | hmem
      · exact continuesNumber_of_isSpace (hblank c hmem)
      · exact continuesNumber_of_isUnitChar (hchars c hmem)
    refine ⟨?_, isUnit_iff.mp hunit⟩
    have hall : unit.toList.all isUnitChar = true := List.all_eq_true.mpr hchars
    simp only [quantity?, signed?_complete hnumber hstops, Text.dropWhile_span hblank hspace,
      if_pos hall, String.ofList_toList]

end Threshold
end MonitorAgent
