import MonitorAgent.Proofs.ThresholdReading
import MonitorAgent.Threshold.Compare

/-!
# Numbers of thresholds

A threshold is read with digits of any script, but its value is a number only in
those of ASCII.  So an operator that orders decides by two numbers just where all
digits are such, and a threshold with any others is taken and never met.
-/

namespace MonitorAgent

variable {s before behind : List Char}

/-! ## Digits of ASCII -/

namespace Text

/-- There are characters of ASCII only. -/
def IsAscii (s : List Char) : Prop :=
  ∀ c ∈ s, c.toNat < 128

theorem IsAscii.append (ha : IsAscii before) (hb : IsAscii behind) : IsAscii (before ++ behind) := by
  intro c hc
  exact (List.mem_append.mp hc).elim (ha c) (hb c)

theorem isAscii_cons {c : Char} : IsAscii (c :: s) ↔ c.toNat < 128 ∧ IsAscii s :=
  List.forall_mem_cons

theorem isDigit_of_isDecimalDigit {c : Char} (h : isDecimalDigit c = true) (hc : c.toNat < 128) :
    c.isDigit = true :=
  isDigit_iff.mpr ((isDecimalDigit_of_lt (by omega)).mp h)

theorem isAscii_of_isDigit (h : ∀ c ∈ s, c.isDigit = true) : IsAscii s := by
  intro c hc
  have hdigit := isDigit_iff.mp (h c hc)
  omega

end Text

theorem Text.lower_ne_of_mem {word : List Char} {c : Char} (hc : c ∈ s) (h : c.isAlpha = false)
    (hword : word.all Char.isAlpha = true) : Text.lower s ≠ word := by
  rintro rfl
  have hlower := List.all_eq_true.mp hword c.toLower (List.mem_map_of_mem hc)
  rw [Text.isAlpha_of_toLower hlower] at h
  cases h

open Text (IsAscii)
open Threshold (continuesNumber)
open Threshold.Grammar (IsDigits IsUnsigned IsNumber)

theorem isDigit_of_isDigits (h : IsDigits s) (hs : IsAscii s) : ∀ c ∈ s, c.isDigit = true :=
  fun c hc => Text.isDigit_of_isDecimalDigit (h.2 c hc) (hs c hc)

/-! ## Reading numbers -/

namespace Decimal

theorem spanDigits_eq (hbefore : ∀ c ∈ before, c.isDigit = true)
    (hbehind : Text.Stops Char.isDigit behind) :
    spanDigits (before ++ behind) = (before, behind) := by
  rw [spanDigits, Text.takeWhile_span hbefore hbehind, Text.dropWhile_span hbefore hbehind]

theorem readUnsigned?_whole (h : ∀ c ∈ s, c.isDigit = true) (hne : s ≠ []) :
    ∃ found, readUnsigned? s = some found := by
  have hspan := spanDigits_eq h Text.stops_nil
  rw [List.append_nil] at hspan
  have hsome : s.isEmpty = false := List.isEmpty_eq_false_iff.mpr hne
  simp only [readUnsigned?, hspan, hsome]
  exact ⟨_, rfl⟩

theorem readUnsigned?_fraction (hbefore : ∀ c ∈ before, c.isDigit = true)
    (hbehind : ∀ c ∈ behind, c.isDigit = true) (hne : behind ≠ []) :
    ∃ found, readUnsigned? (before ++ '.' :: behind) = some found := by
  have hpoint : Text.Stops Char.isDigit ('.' :: behind) := Text.stops_cons.mpr (by decide)
  have hspan := spanDigits_eq hbehind Text.stops_nil
  rw [List.append_nil] at hspan
  have hsome : behind.isEmpty = false := List.isEmpty_eq_false_iff.mpr hne
  simp only [readUnsigned?, spanDigits_eq hbefore hpoint, hspan, hsome, Bool.and_false]
  exact ⟨_, rfl⟩

theorem exists_readUnsigned? (h : IsUnsigned s) (hs : IsAscii s) :
    ∃ found, readUnsigned? s = some found := by
  cases h with
  | whole h => exact readUnsigned?_whole (isDigit_of_isDigits h hs) h.1
  | @decimal whole fraction hwhole hfraction =>
      have hfirst : IsAscii whole := fun c hc => hs c (List.mem_append_left _ hc)
      have hlast : IsAscii fraction := fun c hc =>
        hs c (List.mem_append_right _ (List.mem_cons_of_mem _ hc))
      exact readUnsigned?_fraction (isDigit_of_isDigits hwhole hfirst)
        (isDigit_of_isDigits hfraction hlast) hfraction.1
  | fraction h =>
      have hnone : ∀ c ∈ ([] : List Char), c.isDigit = true := by
        rintro c ⟨⟩
      exact readUnsigned?_fraction hnone (isDigit_of_isDigits h (Text.isAscii_cons.mp hs).2) h.1

theorem eq_nil_of_readExponent? (h : ∀ c ∈ s, continuesNumber c = true)
    (hsome : (readExponent? s).isSome = true) : s = [] := by
  cases s with
  | nil => rfl
  | cons c s =>
      have hmark : ¬(c = 'e' ∨ c = 'E') := by
        rintro (rfl | rfl)
        · exact absurd (h 'e' List.mem_cons_self) (by decide)
        · exact absurd (h 'E' List.mem_cons_self) (by decide)
      rw [readExponent?, if_neg hmark] at hsome
      cases hsome

theorem exists_spanDigits (s : List Char) :
    ∃ before behind, spanDigits s = (before, behind) ∧ s = before ++ behind ∧ IsAscii before :=
  ⟨_, _, rfl, (spanDigits_append s).symm,
    Text.isAscii_of_isDigit (Text.all_takeWhile Char.isDigit s)⟩

theorem isAscii_of_readUnsigned? (h : ∀ c ∈ s, continuesNumber c = true)
    (hsome : (readUnsigned? s).isSome = true) : IsAscii s := by
  obtain ⟨before, rest, hspan, rfl, hbefore⟩ := exists_spanDigits s
  have hrest : ∀ c ∈ rest, continuesNumber c = true := fun c hc => h c (List.mem_append_right _ hc)
  -- What is left behind the digits of ASCII would have to be an exponent.
  simp only [readUnsigned?, hspan] at hsome
  split at hsome
  next after =>
    obtain ⟨behind, last, hbehind, rfl, hascii⟩ := exists_spanDigits after
    have hlast : ∀ c ∈ last, continuesNumber c = true := fun c hc =>
      hrest c (List.mem_cons_of_mem _ (List.mem_append_right _ hc))
    simp only [hbehind] at hsome
    split at hsome
    · cases hsome
    · rw [Option.isSome_map] at hsome
      obtain rfl := eq_nil_of_readExponent? hlast hsome
      rw [List.append_nil]
      exact hbefore.append (Text.isAscii_cons.mpr ⟨by decide, hascii⟩)
  next =>
    split at hsome
    · cases hsome
    · rw [Option.isSome_map] at hsome
      obtain rfl := eq_nil_of_readExponent? hrest hsome
      rwa [List.append_nil]

theorem continuesNumber_of_isDigits (h : IsDigits s) : ∀ c ∈ s, continuesNumber c = true := by
  intro c hc
  rw [continuesNumber, h.2 c hc, Bool.true_or]

theorem continuesNumber_of_isUnsigned (h : IsUnsigned s) : ∀ c ∈ s, continuesNumber c = true := by
  have hfraction {digits : List Char} (h : IsDigits digits) :
      ∀ c ∈ '.' :: digits, continuesNumber c = true :=
    List.forall_mem_cons.mpr ⟨by decide, continuesNumber_of_isDigits h⟩
  cases h with
  | whole h => exact continuesNumber_of_isDigits h
  | decimal hwhole hdigits =>
      intro c hc
      exact (List.mem_append.mp hc).elim (continuesNumber_of_isDigits hwhole c)
        (hfraction hdigits c)
  | fraction h => exact hfraction h

theorem exists_not_isAlpha (h : IsUnsigned s) : ∃ c ∈ s, c.isAlpha = false := by
  obtain ⟨c, after, rfl, hc⟩ := Threshold.head_of_unsigned h
  refine ⟨c, List.mem_cons_self, ?_⟩
  cases halpha : c.isAlpha with
  | false => rfl
  | true =>
      have hunit : Threshold.isUnitChar c = true := by
        rw [Threshold.isUnitChar, halpha, Bool.true_or]
      rw [Threshold.continuesNumber_of_isUnitChar hunit] at hc
      cases hc

theorem isSome_readMagnitude?_iff (h : IsUnsigned s) :
    (readMagnitude? s).isSome = true ↔ IsAscii s := by
  have hword {word : String} (hall : word.toList.all Char.isAlpha = true) :
      String.ofList (Text.lower s) ≠ word := by
    intro heq
    obtain ⟨c, hc, halpha⟩ := exists_not_isAlpha h
    refine Text.lower_ne_of_mem hc halpha hall ?_
    rw [← heq, String.toList_ofList]
  -- The words for numbers have letters only, and there is a digit or a point.
  have hmagnitude : (readMagnitude? s).isSome = (readUnsigned? s).isSome := by
    rw [readMagnitude?]
    cases readUnsigned? s with
    | some found => rfl
    | none =>
        have hinf : String.ofList (Text.lower s) ≠ "inf" := hword (by decide)
        have hinfinity : String.ofList (Text.lower s) ≠ "infinity" := hword (by decide)
        have hnan : String.ofList (Text.lower s) ≠ "nan" := hword (by decide)
        simp only [hinf, hinfinity, hnan, or_self, if_false]
        rfl
  rw [hmagnitude]
  constructor
  · exact isAscii_of_readUnsigned? (continuesNumber_of_isUnsigned h)
  · intro hs
    obtain ⟨found, hfound⟩ := exists_readUnsigned? h hs
    rw [hfound]
    rfl

theorem readSign_of_isUnsigned (h : IsUnsigned s) : readSign s = (false, s) := by
  obtain ⟨c, after, rfl, hc⟩ := Threshold.head_of_unsigned h
  unfold readSign
  split
  next heq =>
    obtain rfl := (List.cons.inj heq).1
    exact absurd hc (by decide)
  next heq =>
    obtain rfl := (List.cons.inj heq).1
    exact absurd hc (by decide)
  next => rfl

/-- What is written like a number reads as one just if it is written in ASCII. -/
theorem isSome_read?_iff (h : IsNumber s) : (read? s).isSome = true ↔ IsAscii s := by
  cases h with
  | unsigned h =>
      simp only [read?, readSign_of_isUnsigned h, Option.isSome_map]
      exact isSome_readMagnitude?_iff h
  | negative h =>
      simp only [read?, readSign, Option.isSome_map]
      rw [isSome_readMagnitude?_iff h, Text.isAscii_cons]
      exact (and_iff_right (by decide)).symm

end Decimal

/-! ## Thresholds that order -/

namespace Threshold

variable {raw : String} {t : Threshold}

theorem name_ne_of_toThreshold {c : Clause} (hne : c.name ≠ []) (h : c.toThreshold raw = .ok t) :
    t.name ≠ "" := by
  obtain ⟨-, -, -, hname⟩ := toThreshold_eq_ok_iff.mp h
  have hplain : String.ofList c.name ≠ "" := by simpa using hne
  rw [hname]
  split
  · exact fun heq => hplain (String.append_eq_empty_iff.mp heq).1
  · exact hplain

theorem exists_clause_of_isOrdering (h : read raw = .ok t) (hop : t.operator.isOrdering = true) :
    ∃ c, Clause.read? (Text.trim raw.toList) = some c ∧ c.toThreshold raw = .ok t := by
  refine exists_clause_of_read (fun hoff => ?_) h
  rw [read_disabled hoff] at h
  cases h
  cases hop

/-- The value that is read for an operator that orders is written like a number. -/
theorem isNumber_of_read (h : read raw = .ok t) (hop : t.operator.isOrdering = true) :
    t.name ≠ "" ∧ IsNumber t.value.toList := by
  obtain ⟨c, hclause, hok⟩ := exists_clause_of_isOrdering h hop
  obtain ⟨-, hne, -⟩ := clause_eq_some_iff.mp hclause
  obtain ⟨-, -, hvalue, -⟩ := toThreshold_eq_ok_iff.mp hok
  obtain ⟨blank, -, hnumber, -⟩ := isQuantity_of_readValue hop hvalue
  exact ⟨name_ne_of_toThreshold hne hok, hnumber⟩

theorem isDisabled_of_isNumber (hname : t.name ≠ "") (h : IsNumber t.value.toList) :
    t.isDisabled = false := by
  have hother : ∃ c ∈ t.value.toList, c.isAlpha = false := by
    generalize t.value.toList = value at h
    cases h with
    | unsigned h => exact Decimal.exists_not_isAlpha h
    | negative h => exact ⟨'-', List.mem_cons_self, by decide⟩
  obtain ⟨c, hc, halpha⟩ := hother
  have hnone : ¬saysNone t.value.toList = true := by
    rw [saysNone, Text.sameLetters_iff]
    exact Text.lower_ne_of_mem hc halpha (by decide)
  rw [isDisabled, Bool.eq_false_iff.mpr hnone, Bool.or_false]
  simpa using hname

theorem holds_of_isOrdering (hop : t.operator.isOrdering = true) (text : String) :
    t.holds text = t.inOrder text := by
  rw [holds]
  cases hoperator : t.operator <;> rw [hoperator] at hop <;> first | rfl | cases hop

/-- A threshold with an operator that orders has a number just if its value is written in ASCII.
With a number it is decided by that and the number of the field, and without one it is not met,
whatever there is in the field. -/
theorem isMet_of_ordering (h : read raw = .ok t)
    (hop : t.operator ∈ [.lower, .lowerEqual, .greater, .greaterEqual]) :
    (t.number?.isSome = true ↔ ∀ c ∈ t.value.toList, c.toNat < 128) ∧
    (∀ y, t.number? = some y → ∀ (fields : Fields) text x, fields.lookup t.name = some text →
      fieldNumber? text = some x → t.isMet fields = ordered t.operator x y) ∧
    (t.number? = none → ∀ fields, t.isMet fields = false) := by
  have hordering := isOrdering_iff.mpr hop
  obtain ⟨hname, hnumber⟩ := isNumber_of_read h hordering
  have henabled := isDisabled_of_isNumber hname hnumber
  refine ⟨?_, fun y hy fields text x htext hx => ?_, fun hnone fields => ?_⟩
  · rw [number?, Option.isSome_map]
    exact Decimal.isSome_read?_iff hnumber
  · simp only [isMet, henabled, htext, holds_of_isOrdering hordering, inOrder, hx, hy,
      Bool.not_false, Bool.true_and]
  · rw [isMet, henabled]
    cases fields.lookup t.name with
    | none => rfl
    | some text =>
        simp only [holds_of_isOrdering hordering, inOrder, hnone]
        cases fieldNumber? text <;> rfl

theorem isMet_of_ordering_half :
    let t : Threshold := ⟨"load", .greater, ".5", ""⟩
    ∃ x y, t.number? = some y ∧ t.isMet [("load", " 0.75")] = decide (y < x) := by
  intro t
  have hread : read "load > .5" = .ok t := rfl
  have hascii : t.value.toList.all (fun c => c.toNat < 128) = true := by decide
  obtain ⟨hnumber, hmet, -⟩ := isMet_of_ordering hread (by decide)
  obtain ⟨y, hy⟩ := Option.isSome_iff_exists.mp
    (hnumber.mpr fun c hc => of_decide_eq_true (List.all_eq_true.mp hascii c hc))
  exact ⟨_, y, hy, hmet y hy _ " 0.75" _ rfl rfl⟩

/-- A digit of another script is taken for a number that the threshold then does not have. -/
theorem isMet_of_ordering_arabic :
    let t : Threshold := ⟨"load", .greater, "٣", ""⟩
    read "load > ٣" = .ok t ∧ t.number? = none ∧ t.isMet [("load", "5")] = false ∧
    ¬∀ raw t, read raw = .ok t →
      t.operator ∈ [Operator.lower, .lowerEqual, .greater, .greaterEqual] →
      t.number?.isSome = true := by
  intro t
  have hread : read "load > ٣" = .ok t := rfl
  have hnone : t.number? = none := Option.isNone_iff_eq_none.mp (by decide +kernel)
  refine ⟨hread, hnone, by decide +kernel, fun hall => ?_⟩
  have hsome := hall "load > ٣" t hread (by decide)
  rw [hnone] at hsome
  cases hsome

end Threshold

end MonitorAgent
