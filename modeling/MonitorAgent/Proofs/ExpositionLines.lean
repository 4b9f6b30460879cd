import MonitorAgent.Telemetry.Exposition
import Mathlib.Data.List.Basic
import Mathlib.Data.String.Basic

/-!
# Lines of the exposition

The text of the metrics is made of lines: two that introduce a family, and one to each
of its samples.  A line of a sample begins with the name of its family, and neither a
label nor a value breaks it, so that the lines that begin with a name are just those of
the samples under this name.
-/

namespace MonitorAgent
namespace Telemetry

/-! ## Texts of numbers -/

/-- What a number is written with. -/
def isNumeral (c : Char) : Bool :=
  c.isDigit || ['.', '-', 'i', 'n', 'f', 'N', 'a'].contains c

theorem isDigit_of_mem_ofScaled {n : Nat} {scale : Int} {c : Char}
    (h : c ∈ (Decimal.Digits.ofScaled n scale).digits) : c.isDigit = true := by
  have hdigits : c ∈ Nat.toDigits 10 n :=
    List.mem_reverse.mp ((List.dropWhile_sublist _).subset (List.mem_reverse.mp h))
  exact Nat.isDigit_of_mem_toDigits (by decide) (by decide) hdigits

theorem isDigit_of_mem_search {span : Decimal.Digits.Span} {tie : Decimal.Tie} {more : Nat}
    {scale : Int} {c : Char} (h : c ∈ (span.search tie more scale).digits) : c.isDigit = true := by
  induction more generalizing scale with
  | zero => exact isDigit_of_mem_ofScaled h
  | succ more ih =>
      rw [Decimal.Digits.Span.search] at h
      cases hgrid : span.onGrid? tie scale with
      | none =>
          rw [hgrid] at h
          exact ih h
      | some n =>
          rw [hgrid] at h
          exact isDigit_of_mem_ofScaled h

theorem isNumeral_of_mem_positional {d : Decimal.Digits} {c : Char}
    (hdigits : ∀ x ∈ d.digits, x.isDigit = true) (h : c ∈ d.positional) : isNumeral c = true := by
  have hdigit {x : Char} (hx : x ∈ d.digits) : isNumeral x = true := by
    rw [isNumeral, hdigits x hx, Bool.true_or]
  have hzero {n : Nat} (hc : c ∈ Decimal.zeros n) : isNumeral c = true := by
    rw [List.eq_of_mem_replicate hc]
    rfl
  rw [Decimal.Digits.positional] at h
  split at h
  · rcases List.mem_cons.mp h with rfl | h
    · rfl
    rcases List.mem_cons.mp h with rfl | h
    · rfl
    exact (List.mem_append.mp h).elim hzero hdigit
  · split at h
    · exact (List.mem_append.mp h).elim hdigit hzero
    · rcases List.mem_append.mp h with h | h
      · exact hdigit (List.mem_of_mem_take h)
      rcases List.mem_cons.mp h with rfl | h
      · rfl
      exact hdigit (List.mem_of_mem_drop h)

theorem isNumeral_of_mem_plain {x : Float} {c : Char} (h : c ∈ (Decimal.plain x).toList) :
    isNumeral c = true := by
  have hsign {negative : Bool} {s : List Char} (hs : ∀ x ∈ s, isNumeral x = true)
      (hc : c ∈ (String.ofList (Decimal.withSign negative s)).toList) : isNumeral c = true := by
    rw [String.toList_ofList] at hc
    cases negative with
    | false => exact hs c hc
    | true => exact (List.mem_cons.mp hc).elim (fun heq => heq ▸ rfl) (hs c)
  rw [Decimal.plain] at h
  cases hvalue : Decimal.Binary64.ofFloat x with
  | nan =>
      rw [hvalue] at h
      exact List.all_eq_true.mp (by decide : "NaN".toList.all isNumeral = true) c h
  | infinite negative =>
      rw [hvalue] at h
      exact hsign (List.all_eq_true.mp rfl) h
  | finite negative m e =>
      simp only [hvalue] at h
      split at h
      · exact hsign (List.all_eq_true.mp rfl) h
      · exact hsign (fun x => isNumeral_of_mem_positional fun _ => isDigit_of_mem_search) h

theorem not_mem_plain {x : Float} {c : Char} (hc : isNumeral c = false) :
    c ∉ (Decimal.plain x).toList := by
  intro h
  rw [isNumeral_of_mem_plain h] at hc
  cases hc

/-! ## Texts of labels -/

theorem escapedLabel_cases (c : Char) :
    (∃ d, escapedLabel c = ['\\', d] ∧ d ≠ '\n') ∨
      escapedLabel c = [c] ∧ c ≠ '\\' ∧ c ≠ '\n' ∧ c ≠ '"' := by
  unfold escapedLabel
  split_ifs with hslash hbreak hquote
  · exact .inl ⟨'\\', rfl, by decide⟩
  · exact .inl ⟨'n', rfl, by decide⟩
  · exact .inl ⟨'"', rfl, by decide⟩
  · exact .inr ⟨rfl, hslash, hbreak, hquote⟩

theorem not_mem_escapedLabel (c : Char) : '\n' ∉ escapedLabel c := by
  rcases escapedLabel_cases c with ⟨d, heq, hd⟩ | ⟨heq, -, hc, -⟩ <;> rw [heq]
  · simp [Ne.symm hd]
  · simp [Ne.symm hc]

/-- What stands for a character tells the character, whatever follows. -/
theorem escapedLabel_append_inj {c d : Char} {s t : List Char}
    (h : escapedLabel c ++ s = escapedLabel d ++ t) : c = d ∧ s = t := by
  unfold escapedLabel at h
  split_ifs at h <;> grind

theorem escapedLabel_append_ne (c : Char) (s t : List Char) :
    escapedLabel c ++ s ≠ '"' :: t := by
  rcases escapedLabel_cases c with ⟨d, heq, -⟩ | ⟨heq, -, -, hc⟩ <;> rw [heq]
  · simp
  · simp [hc]

/-- The first quote that is not escaped ends a value. -/
theorem escaped_quote_inj {k l s t : List Char}
    (h : k.flatMap escapedLabel ++ '"' :: s = l.flatMap escapedLabel ++ '"' :: t) :
    k = l ∧ s = t := by
  induction k generalizing l with
  | nil =>
      cases l with
      | nil => exact ⟨rfl, (List.cons.inj h).2⟩
      | cons d l =>
          rw [List.flatMap_cons, List.append_assoc] at h
          exact absurd h.symm (escapedLabel_append_ne d _ _)
  | cons c k ih =>
      cases l with
      | nil =>
          rw [List.flatMap_cons, List.append_assoc] at h
          exact absurd h (escapedLabel_append_ne c _ _)
      | cons d l =>
          rw [List.flatMap_cons, List.flatMap_cons, List.append_assoc, List.append_assoc] at h
          obtain ⟨rfl, hrest⟩ := escapedLabel_append_inj h
          obtain ⟨rfl, rfl⟩ := ih hrest
          exact ⟨rfl, rfl⟩

theorem toList_labelText (key value : String) : (labelText (key, value)).toList =
    key.toList ++ '=' :: '"' :: (value.toList.flatMap escapedLabel ++ ['"']) := by
  simp [labelText]

theorem not_mem_labelText {label : String × String} (h : '\n' ∉ label.1.toList) :
    '\n' ∉ (labelText label).toList := by
  obtain ⟨key, value⟩ := label
  simp [toList_labelText, h, not_mem_escapedLabel]

theorem not_mem_intercalate {labels : List (String × String)}
    (h : ∀ label ∈ labels, '\n' ∉ label.1.toList) :
    '\n' ∉ (",".intercalate (labels.map labelText)).toList := by
  rw [String.toList_intercalate]
  induction labels with
  | nil => exact List.not_mem_nil
  | cons label labels ih =>
      obtain ⟨hlabel, hlabels⟩ := List.forall_mem_cons.mp h
      cases labels with
      | nil => simpa using not_mem_labelText hlabel
      | cons next labels =>
          have hrest := ih hlabels
          simp only [List.map_cons, List.intercalate_cons_cons, List.mem_append, not_or] at hrest ⊢
          exact ⟨⟨not_mem_labelText hlabel, by decide⟩, hrest⟩

/-- Labels of the same names are told apart by their values. -/
theorem intercalate_inj {labels labels' : List (String × String)} {s t : List Char}
    (hnames : labels.map Prod.fst = labels'.map Prod.fst)
    (h : (",".intercalate (labels.map labelText)).toList ++ '\x7d' :: s =
      (",".intercalate (labels'.map labelText)).toList ++ '\x7d' :: t) : labels = labels' := by
  rw [String.toList_intercalate, String.toList_intercalate] at h
  induction labels generalizing labels' with
  | nil => exact (List.map_eq_nil_iff.mp hnames.symm).symm
  | cons label labels ih =>
      obtain ⟨⟨key', value'⟩, rest, rfl, hkey, hrest⟩ := List.map_eq_cons_iff.mp hnames.symm
      obtain ⟨key, value⟩ := label
      obtain rfl : key' = key := hkey
      simp only [List.map_cons] at h
      cases labels with
      | nil =>
          obtain rfl := List.map_eq_nil_iff.mp hrest
          simp only [List.map_nil, List.intercalate_singleton, toList_labelText,
            List.append_assoc, List.append_cancel_left_eq, List.cons_append, List.nil_append,
            List.cons.injEq, true_and] at h
          rw [String.toList_inj.mp (escaped_quote_inj h).1]
      | cons next labels =>
          obtain ⟨next', rest, rfl, -, -⟩ := List.map_eq_cons_iff.mp hrest
          simp only [List.map_cons, List.intercalate_cons_cons, toList_labelText,
            List.append_assoc, List.append_cancel_left_eq, List.cons_append, List.nil_append,
            List.cons.injEq, true_and] at h
          obtain ⟨hvalue, hmore⟩ := escaped_quote_inj h
          rw [String.toList_inj.mp hvalue, ih hrest.symm (List.cons.inj hmore).2]

/-! ## Lines -/

/-- The lines of a text that ends each of them. -/
def textLines (text : String) : List String :=
  (text.toList.splitOn '\n').dropLast.map String.ofList

theorem textLines_join {lines : List String} (h : ∀ line ∈ lines, '\n' ∉ line.toList) :
    textLines (String.join (lines.map (· ++ "\n"))) = lines := by
  have hsplit : (String.join (lines.map (· ++ "\n"))).toList.splitOn '\n' =
      lines.map String.toList ++ [[]] := by
    induction lines with
    | nil => rfl
    | cons line lines ih =>
        obtain ⟨hline, hlines⟩ := List.forall_mem_cons.mp h
        have hfirst : line.toList.splitOn '\n' = [line.toList] := by
          rw [List.splitOn_eq_splitOnP]
          exact List.splitOnP_eq_singleton fun c hc => beq_eq_false_iff_ne.mpr (hline <| · ▸ hc)
        rw [List.map_cons, String.join_cons, String.toList_append, String.toList_append,
          List.append_assoc, List.map_cons, List.cons_append, ← ih hlines,
          ← List.singleton_append, ← hfirst]
        exact List.splitOnP_append_cons _ _ (beq_self_eq_true '\n')
  rw [textLines, hsplit, List.dropLast_concat, List.map_map]
  simp only [Function.comp_def, String.ofList_toList, List.map_id']

/-- The line of a sample of the family with the name. -/
def Sample.line (name : String) (s : Sample) : String :=
  name ++ labelsText s.labels ++ " " ++ Decimal.plain s.value

/-- What does not end the name that a line begins with. -/
def isNameChar (c : Char) : Bool :=
  c ≠ '\x7b' && c ≠ ' '

/-- What a line is about. -/
def lineName (line : String) : String :=
  String.ofList (line.toList.takeWhile isNameChar)

def Family.lines (f : Family) : List String :=
  if f.samples.isEmpty then []
  else
    ("# HELP " ++ f.name ++ " " ++ f.help) :: ("# TYPE " ++ f.name ++ " " ++ f.kind.name) ::
      f.samples.map (Sample.line f.name)

theorem Family.text_eq (f : Family) : f.text = String.join (f.lines.map (· ++ "\n")) := by
  rw [Family.text, Family.lines]
  cases f.samples.isEmpty with
  | true => rfl
  | false =>
      have htext : Sample.text f.name = fun s => s.line f.name ++ "\n" := rfl
      simp [← String.toList_inj, htext, Function.comp_def]

/-- A word that ends where a line of a sample goes on. -/
def isWord (s : String) : Bool :=
  s.toList.all fun c => isNameChar c && c ≠ '\n'

/-- No break of a line is in the texts of a family that are not escaped. -/
structure Family.Written (f : Family) : Prop where
  name : isWord f.name = true
  help : '\n' ∉ f.help.toList
  labels : ∀ s ∈ f.samples, ∀ label ∈ s.labels, '\n' ∉ label.1.toList

variable {name : String} {s : Sample}

theorem not_mem_of_isWord (hname : isWord name = true) : '\n' ∉ name.toList := by
  intro hmem
  have hbreak := List.all_eq_true.mp hname '\n' hmem
  cases hbreak

theorem toList_line : (s.line name).toList =
    name.toList ++ ((labelsText s.labels).toList ++ ' ' :: (Decimal.plain s.value).toList) := by
  simp [Sample.line]

theorem lineName_append (hname : isWord name = true) {line : String} {rest : List Char}
    (hline : line.toList = name.toList ++ rest)
    (hrest : rest.head? = some '\x7b' ∨ rest.head? = some ' ') : lineName line = name := by
  have hword : ∀ x ∈ name.toList, isNameChar x = true :=
    fun x hx => (Bool.and_eq_true_iff.mp (List.all_eq_true.mp hname x hx)).1
  have hend : rest.takeWhile isNameChar = [] := by
    rcases hrest with h | h <;> obtain ⟨more, rfl⟩ := List.head?_eq_some_iff.mp h <;> rfl
  rw [lineName, hline, List.takeWhile_append_of_pos hword, hend, List.append_nil,
    String.ofList_toList]

theorem lineName_sample (hname : isWord name = true) : lineName (s.line name) = name := by
  apply lineName_append hname toList_line
  rw [labelsText]
  split
  · exact .inr rfl
  · rw [String.toList_append, String.toList_append]
    exact .inl rfl

theorem labels_of_line {s t : Sample} (hnames : s.labels.map Prod.fst = t.labels.map Prod.fst)
    (h : s.line name = t.line name) : s.labels = t.labels := by
  have hlists := congrArg String.toList h
  rw [toList_line, toList_line, List.append_cancel_left_eq, labelsText, labelsText] at hlists
  cases hs : s.labels with
  | nil =>
      rw [hs] at hnames
      exact (List.map_eq_nil_iff.mp hnames.symm).symm
  | cons label labels =>
      rw [hs] at hnames
      obtain ⟨label', labels', ht, -, -⟩ := List.map_eq_cons_iff.mp hnames.symm
      rw [hs, ht, List.isEmpty_cons, List.isEmpty_cons, if_neg Bool.false_ne_true,
        if_neg Bool.false_ne_true] at hlists
      rw [ht] at hnames ⊢
      apply intercalate_inj hnames
      simpa using hlists

/-! ## What the families are written with -/

theorem not_mem_line (hname : isWord name = true)
    (hlabels : ∀ label ∈ s.labels, '\n' ∉ label.1.toList) : '\n' ∉ (s.line name).toList := by
  have hname' := not_mem_of_isWord hname
  have hvalue : '\n' ∉ (Decimal.plain s.value).toList := not_mem_plain rfl
  have hjoined := not_mem_intercalate hlabels
  rw [toList_line, labelsText]
  split
  · simp [hname', hvalue]
  · simp only [String.toList_append, List.mem_append, List.mem_cons, not_or]
    exact ⟨hname', ⟨⟨by decide, hjoined⟩, by decide⟩, by decide, hvalue⟩

theorem Family.Written.not_mem_lines {f : Family} (h : f.Written) :
    ∀ line ∈ f.lines, '\n' ∉ line.toList := by
  have hname := not_mem_of_isWord h.name
  intro line hline
  rw [Family.lines] at hline
  split at hline
  · cases hline
  · rcases List.mem_cons.mp hline with rfl | hline
    · simp [hname, h.help]
    rcases List.mem_cons.mp hline with rfl | hline
    · cases f.kind <;> simp [hname, Kind.name]
    obtain ⟨s, hs, rfl⟩ := List.mem_map.mp hline
    exact not_mem_line h.name (h.labels s hs)

theorem single_written {kind : Kind} {name help : String} {value : Float}
    (hname : isWord name = true) (hhelp : '\n' ∉ help.toList) :
    (single kind name help value).Written where
  name := hname
  help := hhelp
  labels := by
    intro s hs label hlabel
    rw [List.mem_singleton.mp hs] at hlabel
    cases hlabel

theorem counted_written {name help : String} {labels : List String} {counts : Counts}
    (hname : isWord name = true) (hhelp : '\n' ∉ help.toList)
    (hlabels : ∀ label ∈ labels, '\n' ∉ label.toList) :
    (counted name help labels counts).Written where
  name := hname
  help := hhelp
  labels := by
    intro s hs label hlabel
    obtain ⟨entry, -, rfl⟩ := List.mem_map.mp hs
    exact hlabels label.1 (List.of_mem_zip hlabel).1

theorem keyed_written {name help label : String} {readings : Readings} (hname : isWord name = true)
    (hhelp : '\n' ∉ help.toList) (hlabel : '\n' ∉ label.toList) :
    (keyed name help label readings).Written where
  name := hname
  help := hhelp
  labels := by
    intro s hs l hl
    obtain ⟨entry, -, rfl⟩ := List.mem_map.mp hs
    rw [List.mem_singleton.mp hl]
    exact hlabel

variable (g : Gauges) (c : Counters)

theorem families_written : ∀ f ∈ families g c, f.Written := by
  unfold families
  simp only [List.forall_mem_cons, List.not_mem_nil, IsEmpty.forall_iff, implies_true, and_true]
  repeat' apply And.intro
  all_goals first
    | exact single_written (by decide) (by decide)
    | exact counted_written (by decide) (by decide) (by decide)
    | exact keyed_written (by decide) (by decide) (by decide)

/-! ## Lines of the samples -/

theorem Family.Written.filter_lines {f : Family} (h : f.Written) {name : String}
    (hname : name ≠ "#") :
    f.lines.filter (lineName · = name) =
      if f.name = name then f.samples.map (Sample.line f.name) else [] := by
  have hmark {rest : List Char} {line : String} (hline : line.toList = "#".toList ++ ' ' :: rest) :
      lineName line ≠ name := by
    rw [lineName_append (by decide) hline (.inr rfl)]
    exact hname.symm
  have hhelp : lineName ("# HELP " ++ f.name ++ " " ++ f.help) ≠ name := by
    apply hmark
    simp only [String.toList_append]
    rfl
  have htype : lineName ("# TYPE " ++ f.name ++ " " ++ f.kind.name) ≠ name := by
    apply hmark
    simp only [String.toList_append]
    rfl
  have hsamples : (f.samples.map (Sample.line f.name)).filter (lineName · = name) =
      if f.name = name then f.samples.map (Sample.line f.name) else [] := by
    rw [List.filter_map]
    simp only [Function.comp_def, lineName_sample h.name]
    split_ifs with heq <;> simp [heq]
  rw [Family.lines]
  cases hempty : f.samples.isEmpty with
  | true => simp [List.isEmpty_iff.mp hempty]
  | false =>
      rw [if_neg Bool.false_ne_true, List.filter_cons_of_neg (by simpa using hhelp),
        List.filter_cons_of_neg (by simpa using htype), hsamples]

/-- What is shown under the name of a family. -/
def samples (name : String) (g : Gauges) (c : Counters) : List Sample :=
  ((families g c).filter (·.name = name)).flatMap (·.samples)

/-- The lines of the text that begin with a name are those of the samples under the name. -/
def Exposes (text : String) (shown : String → List Sample) : Prop :=
  ∀ name, name ≠ "#" →
    (textLines text).filter (lineName · = name) = (shown name).map (Sample.line name)

theorem textLines_exposition :
    textLines (exposition g c) = (families g c).flatMap Family.lines := by
  have hjoin (fs : List Family) :
      String.join (fs.map Family.text) =
        String.join ((fs.flatMap Family.lines).map (· ++ "\n")) := by
    induction fs with
    | nil => rfl
    | cons f fs ih =>
        rw [List.map_cons, String.join_cons, ih, List.flatMap_cons, List.map_append,
          String.join_append, f.text_eq]
  rw [exposition, hjoin]
  apply textLines_join
  intro line hline
  obtain ⟨f, hf, hline⟩ := List.mem_flatMap.mp hline
  exact (families_written g c f hf).not_mem_lines line hline

theorem exposition_exposes : Exposes (exposition g c) (samples · g c) := by
  have hlines {name : String} (hname : name ≠ "#") {fs : List Family}
      (h : ∀ f ∈ fs, f.Written) : (fs.flatMap Family.lines).filter (lineName · = name) =
        ((fs.filter (·.name = name)).flatMap (·.samples)).map (Sample.line name) := by
    induction fs with
    | nil => rfl
    | cons f fs ih =>
        obtain ⟨hf, hfs⟩ := List.forall_mem_cons.mp h
        rw [List.flatMap_cons, List.filter_append, hf.filter_lines hname, ih hfs]
        by_cases heq : f.name = name <;> simp [heq]
  intro name hname
  rw [textLines_exposition]
  exact hlines hname (families_written g c)

end Telemetry
end MonitorAgent
