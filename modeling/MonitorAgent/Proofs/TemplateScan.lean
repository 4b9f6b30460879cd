import MonitorAgent.Proofs.TallyReport

/-!
# Templates as scans

A template is scanned once from left to right: a marker is taken as a whole where its closer
occurs anywhere behind it, up to the first one, and any other character is copied.  What the
fields say has no part in the scan.  So it is never scanned itself, neither in the line of an
item nor in the template that the lines are put into.
-/

namespace MonitorAgent

variable {s : List Char}

namespace Check
namespace Template

/-- The four openers, each with the character that closes it. -/
def openers : List (Char × Char × Char) :=
  [('$', '(', ')'), ('$', '\x7b', '\x7d'), ('%', '(', ')'), ('%', '\x7b', '\x7d')]

/-- What the scan takes at a place: one character, or a marker with the name in it. -/
inductive Piece where
  | copied (c : Char)
  | marker (name : List Char)

/-- A copied character stands for itself, and a marker for the field of its name. -/
def Piece.shown (fields : Fields) : Piece → List Char
  | copied c => [c]
  | marker name => ((fields.lookup (String.ofList (Text.trim name))).getD "").toList

inductive Scans : List Char → List Piece → Prop where
  | done : Scans [] []
  | marker {mark bracket close : Char} {name rest : List Char} {pieces : List Piece}
    (hopener : (mark, bracket, close) ∈ openers) (hname : close ∉ name) (h : Scans rest pieces) :
    Scans (mark :: bracket :: (name ++ close :: rest)) (.marker name :: pieces)
  | copied {c : Char} {s : List Char} {pieces : List Piece}
    (hopen : ∀ bracket close behind, (c, bracket, close) ∈ openers → s = bracket :: behind →
      close ∉ behind) (h : Scans s pieces) :
    Scans (c :: s) (.copied c :: pieces)

variable {pieces pieces' : List Piece} {mark bracket close : Char} {name rest : List Char}

/-! ## The scan -/

theorem closer?_eq_some_iff :
    closer? mark bracket = some close ↔ (mark, bracket, close) ∈ openers := by
  simp only [openers, List.mem_cons, List.not_mem_nil, or_false, Prod.mk.injEq]
  constructor
  · intro h
    rw [closer?] at h
    split at h
    next hmark =>
      split at h
      next hbracket =>
        cases h
        rcases hmark with rfl | rfl <;> simp [hbracket]
      next =>
        split at h
        next hbracket =>
          cases h
          rcases hmark with rfl | rfl <;> simp [hbracket]
        next => cases h
    next => cases h
  · rintro (⟨rfl, rfl, rfl⟩ | ⟨rfl, rfl, rfl⟩ | ⟨rfl, rfl, rfl⟩ | ⟨rfl, rfl, rfl⟩) <;> decide

theorem marker?_of_mem (hopener : (mark, bracket, close) ∈ openers) (s : List Char) :
    marker? mark bracket s = Text.cut close s := by
  rw [marker?, closer?_eq_some_iff.mpr hopener]

theorem marker?_eq_none_iff : marker? mark bracket s = none ↔
    ∀ close, (mark, bracket, close) ∈ openers → close ∉ s := by
  constructor
  · intro h close hopener
    rw [marker?_of_mem hopener] at h
    exact Text.cut_eq_none_iff.mp h
  · intro h
    rw [marker?]
    split
    · rfl
    next close hclose =>
      apply Text.cut_eq_none_iff.mpr
      exact h close (closer?_eq_some_iff.mp hclose)

theorem marker?_of_closed (hopener : (mark, bracket, close) ∈ openers) (hname : close ∉ name)
    (rest : List Char) : marker? mark bracket (name ++ close :: rest) = some (name, rest) := by
  rw [marker?_of_mem hopener, Text.cut_append hname]

theorem exists_opener (h : marker? mark bracket s = some (name, rest)) :
    ∃ close, (mark, bracket, close) ∈ openers ∧ close ∉ name ∧ s = name ++ close :: rest := by
  rw [marker?] at h
  split at h
  · cases h
  next close hclose =>
    obtain ⟨hs, hname⟩ := Text.eq_of_cut h
    exact ⟨close, closer?_eq_some_iff.mp hclose, hname, hs⟩

/-- At a place with two characters the scan takes the marker that is found there. -/
theorem Scans.cons_cases (h : Scans (mark :: bracket :: s) pieces) :
    (∃ name rest others, marker? mark bracket s = some (name, rest) ∧
      pieces = .marker name :: others ∧ Scans rest others) ∨
    marker? mark bracket s = none ∧ ∃ others, pieces = .copied mark :: others ∧
      Scans (bracket :: s) others := by
  generalize htext : mark :: bracket :: s = text at h
  cases h with
  | done => cases htext
  | marker hopener hname h =>
      cases htext
      exact .inl ⟨_, _, _, marker?_of_closed hopener hname _, rfl, h⟩
  | copied hopen h =>
      cases htext
      refine .inr ⟨marker?_eq_none_iff.mpr fun close hopener => ?_, _, rfl, h⟩
      exact hopen bracket close s hopener rfl

theorem Scans.unique (h : Scans s pieces) (h' : Scans s pieces') : pieces = pieces' := by
  -- What the second scan takes is settled by `marker?`, which finds what the first one took.
  induction h generalizing pieces' with
  | done =>
      cases h'
      rfl
  | @marker mark bracket close name rest pieces hopener hname h ih =>
      have hfound := marker?_of_closed hopener hname rest
      rcases h'.cons_cases with ⟨name', rest', others, hmarker, rfl, hrest⟩ | ⟨hnone, -⟩
      · cases hfound.symm.trans hmarker
        rw [ih hrest]
      · rw [hnone] at hfound
        cases hfound
  | @copied c s pieces hopen h ih =>
      cases s with
      | nil =>
          cases h' with
          | copied hopen' h' =>
              cases h
              cases h'
              rfl
      | cons bracket s =>
          have hnone : marker? c bracket s = none :=
            marker?_eq_none_iff.mpr fun close hopener => hopen bracket close s hopener rfl
          rcases h'.cons_cases with ⟨name', rest', others, hmarker, -⟩ | ⟨-, others, rfl, hrest⟩
          · rw [hnone] at hmarker
            cases hmarker
          · rw [ih hrest]

theorem fill_of_scans (h : Scans s pieces) (fields : Fields) :
    fill fields s = pieces.flatMap (Piece.shown fields) := by
  induction h with
  | done => exact fill_nil fields
  | @marker mark bracket close name rest pieces hopener hname h ih =>
      rw [fill_marker (marker?_of_closed hopener hname rest), ih]
      rfl
  | @copied c s pieces hopen h ih =>
      cases s with
      | nil =>
          cases h
          simp [fill, Piece.shown]
      | cons bracket s =>
          have hnone : marker? c bracket s = none :=
            marker?_eq_none_iff.mpr fun close hopener => hopen bracket close s hopener rfl
          rw [fill_plain hnone, ih]
          rfl

theorem exists_scans (s : List Char) : ∃ pieces, Scans s pieces := by
  -- The cases of filling are those of a scan, whatever the fields are.
  fun_induction fill [] s with
  | case1 mark bracket s name rest hmarker ih =>
      obtain ⟨close, hopener, hname, rfl⟩ := exists_opener hmarker
      obtain ⟨pieces, h⟩ := ih
      exact ⟨_, .marker hopener hname h⟩
  | case2 mark bracket s hnone ih =>
      obtain ⟨pieces, h⟩ := ih
      refine ⟨_, .copied (fun bracket' close behind hopener heq => ?_) h⟩
      cases heq
      exact marker?_eq_none_iff.mp hnone close hopener
  | case3 c => exact ⟨_, .copied (by rintro bracket close behind - ⟨⟩) .done⟩
  | case4 => exact ⟨_, .done⟩

theorem toList_render {template : String} (h : Scans template.toList pieces) (fields : Fields) :
    (render template fields).toList = pieces.flatMap (Piece.shown fields) := by
  rw [render, String.toList_ofList, fill_of_scans h]

theorem scans_copied (h : ∀ before mark bracket close behind,
    s = before ++ mark :: bracket :: behind → (mark, bracket, close) ∈ openers →
    close ∉ behind) : Scans s (s.map .copied) := by
  induction s with
  | nil => exact .done
  | cons c s ih =>
      refine .copied (fun bracket close behind hopener hs => ?_) (ih ?_)
      · exact h [] c bracket close behind (congrArg (c :: ·) hs) hopener
      · intro before mark bracket close behind hs
        exact h (c :: before) mark bracket close behind (congrArg (c :: ·) hs)

theorem flatMap_shown_copied (fields : Fields) (s : List Char) :
    (s.map .copied).flatMap (Piece.shown fields) = s := by
  rw [List.flatMap_map]
  exact List.flatMap_singleton' s

/-! ## Templates of texts and names -/

/-- A part of a template as it is written down. -/
inductive Part where
  | text (s : String)
  | field (name : String)

namespace Part

def written : Part → List Char
  | text s => s.toList
  | field name => '%' :: '(' :: (name.toList ++ [')'])

def shown (fields : Fields) : Part → String
  | text s => s
  | field name => fields.text name

/-- A text has no mark of an opener in it, and a name ends at its closer. -/
def isPlain : Part → Bool
  | text s => s.toList.all fun c => c != '$' && c != '%'
  | field name => !name.toList.contains ')' && Text.trim name.toList == name.toList

end Part

theorem scans_text_append {text : List Char} (htext : ∀ c ∈ text, c ≠ '$' ∧ c ≠ '%')
    (h : Scans rest pieces) : Scans (text ++ rest) (text.map .copied ++ pieces) := by
  induction text with
  | nil => exact h
  | cons c text ih =>
      obtain ⟨hc, htext⟩ := List.forall_mem_cons.mp htext
      refine .copied (fun bracket close behind hopener => ?_) (ih htext)
      simp [openers, hc] at hopener

theorem exists_scans_parts {parts : List Part} (h : ∀ p ∈ parts, p.isPlain = true)
    (fields : Fields) :
    ∃ pieces, Scans (parts.flatMap Part.written) pieces ∧
      pieces.flatMap (Piece.shown fields) =
        parts.flatMap fun p => (p.shown fields).toList := by
  induction parts with
  | nil => exact ⟨[], .done, rfl⟩
  | cons p parts ih =>
      obtain ⟨hp, hparts⟩ := List.forall_mem_cons.mp h
      obtain ⟨pieces, hscans, hshown⟩ := ih hparts
      rw [List.flatMap_cons, List.flatMap_cons, ← hshown]
      cases p with
      | text s =>
          refine ⟨s.toList.map .copied ++ pieces, scans_text_append ?_ hscans, ?_⟩
          · simpa [Part.isPlain, Part.written] using hp
          · rw [List.flatMap_append, flatMap_shown_copied]
            rfl
      | field name =>
          simp only [Part.isPlain, Bool.and_eq_true, Bool.not_eq_true', beq_iff_eq,
            List.contains_eq_mem, decide_eq_false_iff_not] at hp
          refine ⟨.marker name.toList :: pieces, ?_, ?_⟩
          · have hopener : ('%', '(', ')') ∈ openers := by decide
            have hmarker := Scans.marker hopener hp.1 hscans
            simpa [Part.written] using hmarker
          · rw [List.flatMap_cons, Piece.shown, hp.2, String.ofList_toList]
            rfl

/-- A template of plain parts shows the texts as they are and the fields by their names. -/
theorem render_of_parts {template : String} {parts : List Part}
    (htemplate : template.toList = parts.flatMap Part.written)
    (h : parts.all Part.isPlain = true) (fields : Fields) :
    render template fields = String.join (parts.map (Part.shown fields)) := by
  obtain ⟨pieces, hscans, hshown⟩ := exists_scans_parts (List.all_eq_true.mp h) fields
  rw [← htemplate] at hscans
  rw [← String.toList_inj, toList_render hscans, hshown, String.toList_join, List.flatMap_map]

end Template

/-! ## Templates in templates -/

namespace Tally

open Template (Piece Scans render)

variable {s : Settings} {items : List Fields}

/-- The lists that the line of an item of the state is in. -/
def listsOf : State → List String
  | .ok => ["ok_list", "list"]
  | .warning => ["warn_list", "problem_list", "list"]
  | .critical => ["crit_list", "problem_list", "list"]
  | .unknown => []

theorem infix_intercalate {sep line : String} {lines : List String} (h : line ∈ lines) :
    line.toList <:+: (sep.intercalate lines).toList := by
  rw [String.toList_intercalate]
  obtain ⟨i, hi⟩ := List.mem_iff_getElem?.mp (List.mem_map_of_mem h)
  refine List.infix_of_mem_flatten (List.mem_of_getElem? (i := 2 * i) ?_)
  rw [List.getElem?_intersperse_two_mul]
  exact hi

theorem infix_flatMap {α : Type} {f : α → List Char} {l : List α} {a : α} (h : a ∈ l) :
    f a <:+: l.flatMap f :=
  List.infix_of_mem_flatten (List.mem_map_of_mem h)

theorem exists_list (t : Tally) {state : State} {name : String} (hname : name ∈ listsOf state) :
    ∃ lines, (name, listed lines) ∈ t.summary ∧ ∀ line ∈ t.linesOf state, line ∈ lines := by
  cases state with
  | ok =>
      simp only [listsOf, List.mem_cons, List.not_mem_nil, or_false] at hname
      rcases hname with rfl | rfl
      · exact ⟨t.ok, by simp [summary], fun line h => h⟩
      · exact ⟨t.lines, by simp [summary], fun line h => List.mem_append_right _ h⟩
  | warning =>
      have hproblem : ∀ line ∈ t.warning, line ∈ t.problems := fun line h =>
        List.mem_append_right _ h
      simp only [listsOf, List.mem_cons, List.not_mem_nil, or_false] at hname
      rcases hname with rfl | rfl | rfl
      · exact ⟨t.warning, by simp [summary], fun line h => h⟩
      · exact ⟨t.problems, by simp [summary], hproblem⟩
      · exact ⟨t.lines, by simp [summary], fun line h => List.mem_append_left _ (hproblem line h)⟩
  | critical =>
      have hproblem : ∀ line ∈ t.critical, line ∈ t.problems := fun line h =>
        List.mem_append_left _ h
      simp only [listsOf, List.mem_cons, List.not_mem_nil, or_false] at hname
      rcases hname with rfl | rfl | rfl
      · exact ⟨t.critical, by simp [summary], fun line h => h⟩
      · exact ⟨t.problems, by simp [summary], hproblem⟩
      · exact ⟨t.lines, by simp [summary], fun line h => List.mem_append_left _ (hproblem line h)⟩
  | unknown => cases hname

/-- What the scan of the inner template takes is shown by the scan of the outer one, wherever a
list with the line stands. -/
theorem infix_shown {detail outer : List Piece} (hdetail : Scans s.detail.toList detail)
    {item : Fields} (hitem : item ∈ items) {part : Piece} (hpart : part ∈ detail)
    {name : List Char} (hmarker : .marker name ∈ outer)
    (hname : String.ofList (Text.trim name) ∈ listsOf (s.classify item)) (extra : Fields) :
    part.shown item <:+:
      outer.flatMap (Piece.shown ((ofItems s items).summary.override extra)) := by
  obtain ⟨lines, hlist, hlines⟩ := exists_list (ofItems s items) hname
  have hline : render s.detail item ∈ lines := by
    apply hlines
    rw [linesOf_ofItems]
    exact List.mem_map_of_mem (List.mem_filter.mpr ⟨hitem, decide_eq_true rfl⟩)
  have hinner : part.shown item <:+: (render s.detail item).toList := by
    rw [Template.toList_render hdetail]
    exact infix_flatMap hpart
  have hshown : (Piece.marker name).shown ((ofItems s items).summary.override extra) =
      (listed lines).toList := by
    have hoverrides := Fields.overrides_override (nodup_summary (ofItems s items)) extra
    rw [Piece.shown, hoverrides.mem_own _ hlist]
    rfl
  -- The part stands in its line, the line in its list, and the list where its marker was.
  apply hinner.trans
  apply (infix_intercalate hline).trans
  change (listed lines).toList <:+: _
  rw [← hshown]
  exact infix_flatMap hmarker

end Tally

open Template (Piece Scans render openers)
open Tally (ofItems listsOf)

/-- A template is rendered by one scan that the fields have no part in.  The report of a tally is
such a scan over lines that are scans themselves, and has what these show of an item as it is. -/
theorem render_scans :
    (∀ template : String, ∃ pieces, Scans template.toList pieces ∧
      (∀ others, Scans template.toList others → others = pieces) ∧
      (∀ fields, (render template fields).toList = pieces.flatMap (Piece.shown fields)) ∧
      ((∀ before mark bracket close behind,
          template.toList = before ++ mark :: bracket :: behind →
          (mark, bracket, close) ∈ openers → close ∉ behind) →
        ∀ fields, render template fields = template)) ∧
    ∀ (s : Settings) (items : List Fields) (extra : Fields), items ≠ [] →
      ∃ detail outer, Scans s.detail.toList detail ∧
        Scans (if (ofItems s items).state = .ok then s.ok else s.top).toList outer ∧
        ((ofItems s items).finish s extra).2.toList =
          outer.flatMap (Piece.shown ((ofItems s items).summary.override extra)) ∧
        ∀ item ∈ items, ∀ part ∈ detail, ∀ name, .marker name ∈ outer →
          String.ofList (Text.trim name) ∈ listsOf (s.classify item) →
          part.shown item <:+: ((ofItems s items).finish s extra).2.toList := by
  constructor
  · intro template
    obtain ⟨pieces, h⟩ := Template.exists_scans template.toList
    refine ⟨pieces, h, fun others h' => h'.unique h, Template.toList_render h, ?_⟩
    intro hcopied fields
    apply String.toList_inj.mp
    rw [Template.toList_render (Template.scans_copied hcopied), Template.flatMap_shown_copied]
  · intro s items extra hne
    obtain ⟨detail, hdetail⟩ := Template.exists_scans s.detail.toList
    obtain ⟨outer, houter⟩ := Template.exists_scans
      (if (ofItems s items).state = .ok then s.ok else s.top).toList
    have hshown : ((ofItems s items).finish s extra).2.toList =
        outer.flatMap (Piece.shown ((ofItems s items).summary.override extra)) := by
      rw [Tally.finish, if_neg (Tally.count_ofItems_ne_zero s hne)]
      exact Template.toList_render houter _
    refine ⟨detail, outer, hdetail, houter, hshown, ?_⟩
    intro item hitem part hpart name hmarker hname
    rw [hshown]
    exact Tally.infix_shown hdetail hitem hpart hmarker hname extra

/-- A name that looks like a marker, and a template of openers that are not closed. -/
theorem render_scans_status :
    let s : Settings := { detail := "%(name)", ok := "<%(list)>" }
    "%(status)".toList <:+: ((ofItems s [[("name", "%(status)")]]).finish s).2.toList ∧
    render "$(a\x7d %(b" [("a", "x")] = "$(a\x7d %(b" := by
  intro s
  have hlist : (if (ofItems s [[("name", "%(status)")]]).state = .ok then s.ok else s.top).toList =
      '<' :: '%' :: '(' :: (['l', 'i', 's', 't'] ++ ')' :: ['>']) := by decide +kernel
  have hname : s.detail.toList = '%' :: '(' :: (['n', 'a', 'm', 'e'] ++ ')' :: []) := by decide
  have hdetail : Scans s.detail.toList [.marker ['n', 'a', 'm', 'e']] := by
    rw [hname]
    exact .marker (by decide) (by decide) .done
  have houter : Scans ('<' :: '%' :: '(' :: (['l', 'i', 's', 't'] ++ ')' :: ['>']))
      [.copied '<', .marker ['l', 'i', 's', 't'], .copied '>'] := by
    refine .copied (by simp [openers]) (.marker (by decide) (by decide) ?_)
    exact .copied (by simp [openers]) .done
  obtain ⟨hscan, hreport⟩ := render_scans
  constructor
  · obtain ⟨detail, outer, hdetail', houter', -, hinfix⟩ :=
      hreport s [[("name", "%(status)")]] [] (List.cons_ne_nil _ _)
    rw [hlist] at houter'
    obtain rfl := hdetail'.unique hdetail
    obtain rfl := houter'.unique houter
    exact hinfix _ List.mem_cons_self _ List.mem_cons_self ['l', 'i', 's', 't'] (by simp)
      (by decide +kernel)
  · obtain ⟨pieces, -, -, -, hcopied⟩ := hscan "$(a\x7d %(b"
    have hopeners : openers.all (fun opener =>
        !("$(a\x7d %(b".toList.contains opener.2.1 && "$(a\x7d %(b".toList.contains opener.2.2)) =
          true := by decide
    refine hcopied (fun before mark bracket close behind hs hopener hclose => ?_) _
    have hnone := List.all_eq_true.mp hopeners _ hopener
    simp [hs, hclose] at hnone

end Check
end MonitorAgent
