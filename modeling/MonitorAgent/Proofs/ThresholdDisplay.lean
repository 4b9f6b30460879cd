import MonitorAgent.Proofs.QuotedText

/-!
# Showing thresholds

A threshold is shown by its three parts with single blanks between them.  Its unit stands
right behind the value, and where that is percent the name is shown without the mark that
reading gave to it.  Only that one mark is dropped, so a name that ends in such a mark by
itself keeps its own.  Where the value was written as a number with a unit, or with none, the
reader finds in what is shown just the parts that it was shown from.
-/

namespace MonitorAgent
namespace Threshold

open Text (IsSolid)
open Grammar (IsUnsigned IsNumber IsUnit IsQuantity)

variable {s : List Char} {number unit raw : String} {t : Threshold} {c : Clause}

/-! ## Quantities without white space -/

theorem isSolid_of_isUnsigned (h : IsUnsigned s) : IsSolid s := by
  intro c hc
  have hdigit := Decimal.continuesNumber_of_isUnsigned h c hc
  cases hspace : Text.isSpace c with
  | false => rfl
  | true =>
      rw [continuesNumber_of_isSpace hspace] at hdigit
      cases hdigit

theorem isSolid_of_isNumber (h : IsNumber s) : IsSolid s := by
  cases h with
  | unsigned h => exact isSolid_of_isUnsigned h
  | negative h => exact Text.isSolid_cons.mpr ⟨by decide, isSolid_of_isUnsigned h⟩

theorem isSolid_of_isUnit (h : IsUnit unit) : IsSolid unit.toList :=
  fun c hc => isSpace_of_isUnitChar (isUnitChar_of_isUnit h c hc)

theorem ne_nil_of_isNumber (h : IsNumber s) : s ≠ [] := by
  cases h with
  | unsigned h =>
      obtain ⟨c, after, rfl, -⟩ := head_of_unsigned h
      exact List.cons_ne_nil c after
  | negative h => exact List.cons_ne_nil _ _

/-! ## Names and their marks -/

theorem dropPercentMark_withPercentMark (name : String) :
    dropPercentMark (withPercentMark name) = name := by
  have htext : (withPercentMark name).toList = name.toList ++ percentMark := by
    rw [withPercentMark, String.toList_append, String.toList_ofList]
  have hmark : percentMark.isSuffixOf (withPercentMark name).toList = true := by
    rw [htext, List.isSuffixOf_iff_suffix]
    exact List.suffix_append name.toList percentMark
  rw [dropPercentMark, if_pos hmark, htext, List.length_append, Nat.add_sub_cancel,
    List.take_left, String.ofList_toList]

theorem shownName_eq {name : String}
    (h : t.name = if t.unit = "%" then withPercentMark name else name) : t.shownName = name := by
  rw [shownName, h]
  split
  · exact dropPercentMark_withPercentMark name
  · rfl

/-! ## Showing and reading -/

theorem toList_display (henabled : t.isDisabled = false) :
    t.display.toList = t.shownName.toList ++
      ' ' :: (t.operator.symbol.toList ++ ' ' :: (t.value.toList ++ t.unit.toList)) := by
  simp [display, henabled]

theorem read_display_of_clause (hclause : Clause.read? s = some c) (hok : c.toThreshold raw = .ok t)
    (h : IsQuantity c.value number unit) :
    t.value = number ∧ t.unit = unit ∧ read t.display = .ok t := by
  obtain ⟨hchars, hne, -⟩ := clause_eq_some_iff.mp hclause
  obtain ⟨-, -, hvalue, hname⟩ := toThreshold_eq_ok_iff.mp hok
  obtain ⟨rfl, rfl⟩ := Prod.mk.inj (Except.ok.inj (hvalue.symm.trans (readValue_quantity _ h)))
  obtain ⟨-, -, hnumber, -, hunit⟩ := h
  have henabled := isDisabled_of_isNumber (name_ne_of_toThreshold hne hok) hnumber
  -- Number and unit are shown without the white space that may have been between them.
  have hshown : IsQuantity (t.value.toList ++ t.unit.toList) t.value t.unit :=
    ⟨[], rfl, hnumber, by rintro c ⟨⟩, hunit⟩
  have hsolid : IsSolid (t.value.toList ++ t.unit.toList) :=
    (isSolid_of_isNumber hnumber).append (isSolid_of_isUnit hunit)
  have hraw := toList_display henabled
  rw [shownName_eq hname, String.toList_ofList] at hraw
  refine ⟨rfl, rfl, ?_⟩
  apply read_written hraw
  · rw [hchars]
    exact Text.all_takeWhile isNameChar s
  · exact hne
  · exact fun c hc => hsolid c (List.mem_of_mem_head? hc)
  · exact fun c hc => hsolid c (List.mem_reverse.mp (List.mem_of_mem_head? hc))
  · exact List.append_ne_nil_of_left_ne_nil (ne_nil_of_isNumber hnumber) _
  · intro hline
    cases hsolid _ hline
  · exact readValue_quantity t.operator hshown
  · exact hname

/-- What is shown of a threshold is read as that threshold, if its value is written as a number with
a known unit or with none.  An operator that orders takes no other values. -/
theorem read_display (h : read raw = .ok t) :
    (∀ (c : Clause) (number unit : String), Clause.read? (Text.trim raw.toList) = some c →
      IsQuantity c.value number unit →
        t.value = number ∧ t.unit = unit ∧ read t.display = .ok t) ∧
    (t.operator ∈ [.lower, .lowerEqual, .greater, .greaterEqual] → read t.display = .ok t) := by
  constructor
  · intro c number unit hclause hquantity
    rw [read_of_clause hclause] at h
    exact read_display_of_clause hclause h hquantity
  · intro hop
    have hordering := isOrdering_iff.mpr hop
    obtain ⟨c, hclause, hok⟩ := exists_clause_of_isOrdering h hordering
    obtain ⟨-, -, hvalue, -⟩ := toThreshold_eq_ok_iff.mp hok
    obtain ⟨-, -, hshown⟩ :=
      read_display_of_clause hclause hok (isQuantity_of_readValue hordering hvalue)
    exact hshown

/-- Names that end in the mark already, a word for the operator and a blank before the unit. -/
theorem read_display_marked :
    let t : Threshold := ⟨"ſize_pct_pct", .notLike, "-.5", "%"⟩
    read "ſize_pct  NOT\tLIKE -.5 %" = .ok t ∧ t.display = "ſize_pct not like -.5%" ∧
    read t.display = .ok t ∧
    read (display ⟨"used_pct", .greaterEqual, "80", "Mb"⟩) =
      .ok ⟨"used_pct", .greaterEqual, "80", "Mb"⟩ := by
  intro t
  have hread : read "ſize_pct  NOT\tLIKE -.5 %" = .ok t := rfl
  have hclause : Clause.read? (Text.trim "ſize_pct  NOT\tLIKE -.5 %".toList) =
      some ⟨"ſize_pct".toList, " NOT\tLIKE".toList, "-.5 %".toList⟩ := rfl
  have hquantity : IsQuantity "-.5 %".toList "-.5" "%" :=
    quantity?_iff.mp ⟨rfl, by decide⟩
  have hordered : read "used_pct>=80 Mb" = .ok ⟨"used_pct", .greaterEqual, "80", "Mb"⟩ := rfl
  obtain ⟨-, -, hshown⟩ := (read_display hread).1 _ _ _ hclause hquantity
  exact ⟨hread, by decide +kernel, hshown, (read_display hordered).2 (by decide)⟩

end Threshold
end MonitorAgent
