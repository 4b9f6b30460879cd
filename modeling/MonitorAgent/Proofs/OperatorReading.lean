import MonitorAgent.Threshold.Grammar

/-!
# Reading operators

The reader finds the longest symbol or, after white space, the longest word that ends
where a word does.  Of the words only `not like` and `not` can stand at one place, so
the order in which they are tried is that of their lengths.
-/

namespace MonitorAgent
namespace Threshold

open Grammar

variable {s text rest : List Char} {op : Operator}

/-! ## Symbols -/

theorem length_symbol_le : ∀ entry ∈ symbols, entry.1.length ≤ 2 := by
  decide

theorem read?_symbols : ∀ entry ∈ symbols, Operator.read? entry.1 = some entry.2 := by
  decide +kernel

/-- A sign that no second one follows is the longest symbol. -/
theorem longest_single {sign : Char} (hfits : ([sign], op) ∈ symbols)
    (hrest : ∀ after, rest ≠ '=' :: after) : Longest FitsSymbol [sign] op rest := by
  refine ⟨hfits, fun s' op' after hs hfits' => Nat.le_of_not_lt fun hlong => ?_⟩
  -- All symbols of two signs end in the same one, so a longer one would have it in `rest`.
  have hdouble : ∀ entry ∈ symbols, 1 < entry.1.length → entry.1.drop 1 = ['='] := by decide
  have hdrop : s'.drop 1 = ['='] := hdouble (s', op') hfits' hlong
  obtain ⟨c, rfl⟩ : ∃ c, s' = [c, '='] := by
    cases s' with
    | nil => cases hdrop
    | cons c s' => exact ⟨c, congrArg (c :: ·) hdrop⟩
  exact hrest after (List.cons.inj hs).2.symm

theorem longest_double {first second : Char} (hfits : ([first, second], op) ∈ symbols) :
    Longest FitsSymbol [first, second] op rest :=
  ⟨hfits, fun s' op' _ _ hfits' => length_symbol_le (s', op') hfits'⟩

theorem symbolOperator?_single {sign : Char} (hsign : sign = '<' ∨ sign = '>' ∨ sign = '=')
    (hrest : ∀ after, rest ≠ '=' :: after) :
    symbolOperator? (sign :: rest) = some ([sign], rest) := by
  cases rest with
  | nil => rcases hsign with rfl | rfl | rfl <;> rfl
  | cons c rest =>
      have hc : c ≠ '=' := fun hc => hrest rest (by rw [hc])
      rcases hsign with rfl | rfl | rfl <;> simp [symbolOperator?]

/-- Where a sign is the longest symbol no second one follows it. -/
theorem ne_equal_of_longest {sign : Char} {op' : Operator} (h : Longest FitsSymbol [sign] op rest)
    (hdouble : ([sign, '='], op') ∈ symbols) (after : List Char) : rest ≠ '=' :: after := by
  rintro rfl
  exact absurd (h.longest [sign, '='] op' after rfl hdouble) (Nat.not_succ_le_self 1)

theorem symbolOperator?_eq_some_iff :
    symbolOperator? s = some (text, rest) ↔
      s = text ++ rest ∧ ∃ op, Longest FitsSymbol text op rest := by
  constructor
  · fun_cases symbolOperator? s with
    | case1 after =>
        rintro ⟨⟩
        exact ⟨rfl, .lowerEqual, longest_double (by decide)⟩
    | case2 after =>
        rintro ⟨⟩
        exact ⟨rfl, .greaterEqual, longest_double (by decide)⟩
    | case3 after =>
        rintro ⟨⟩
        exact ⟨rfl, .unequal, longest_double (by decide)⟩
    | case4 after =>
        rintro ⟨⟩
        exact ⟨rfl, .equal, longest_double (by decide)⟩
    | case5 after hafter =>
        rintro ⟨⟩
        exact ⟨rfl, .lower, longest_single (by decide) hafter⟩
    | case6 after hafter =>
        rintro ⟨⟩
        exact ⟨rfl, .greater, longest_single (by decide) hafter⟩
    | case7 after hafter =>
        rintro ⟨⟩
        exact ⟨rfl, .equal, longest_single (by decide) hafter⟩
    | case8 => rintro ⟨⟩
  · rintro ⟨rfl, op, hlongest⟩
    have hfits := hlongest.fits
    simp only [FitsSymbol, symbols, List.mem_cons, List.not_mem_nil, or_false,
      Prod.mk.injEq] at hfits
    rcases hfits with ⟨rfl, -⟩ | ⟨rfl, -⟩ | ⟨rfl, -⟩ | ⟨rfl, -⟩ | ⟨rfl, -⟩ | ⟨rfl, -⟩ | ⟨rfl, -⟩
    · rfl
    · rfl
    · rfl
    · rfl
    · have hdouble : (['<', '='], Operator.lowerEqual) ∈ symbols := by decide
      exact symbolOperator?_single (.inl rfl) (ne_equal_of_longest hlongest hdouble)
    · have hdouble : (['>', '='], Operator.greaterEqual) ∈ symbols := by decide
      exact symbolOperator?_single (.inr (.inl rfl)) (ne_equal_of_longest hlongest hdouble)
    · have hdouble : (['=', '='], Operator.equal) ∈ symbols := by decide
      exact symbolOperator?_single (.inr (.inr rfl)) (ne_equal_of_longest hlongest hdouble)

/-! ## Spelled words -/

/-- No character is the long s or the kelvin sign. -/
def Unmistaken (s : List Char) : Prop :=
  ∀ c ∈ s, c ≠ '\u017f' ∧ c ≠ '\u212a'

theorem Unmistaken.append_right {a b : List Char} (h : Unmistaken (a ++ b)) : Unmistaken b :=
  fun c hc => h c (List.mem_append_right a hc)

theorem spells_eq (letter : Char) {c : Char} (h : c ≠ '\u017f' ∧ c ≠ '\u212a') :
    spells letter c = (c.toLower == letter) := by
  rw [spells, isLongS, isKelvin, beq_false_of_ne h.1, beq_false_of_ne h.2, Bool.and_false,
    Bool.and_false, Bool.or_false, Bool.or_false]

theorem spelled?_eq_some_iff {word : List Char} (hs : Unmistaken s) :
    spelled? word s = some (text, rest) ↔ s = text ++ rest ∧ Text.lower text = word := by
  induction word generalizing s text with
  | nil =>
      rw [spelled?, Option.some.injEq, Prod.mk.injEq, Text.lower, List.map_eq_nil_iff]
      constructor
      · rintro ⟨rfl, rfl⟩
        exact ⟨rfl, rfl⟩
      · rintro ⟨rfl, rfl⟩
        exact ⟨rfl, rfl⟩
  | cons letter word ih =>
      cases s with
      | nil =>
          rw [spelled?]
          constructor
          · rintro ⟨⟩
          · rintro ⟨happend, hlower⟩
            rw [(List.append_eq_nil_iff.mp happend.symm).1] at hlower
            cases hlower
      | cons c s =>
          have hc := spells_eq letter (hs c List.mem_cons_self)
          have hrest : Unmistaken s := fun x hx => hs x (List.mem_cons_of_mem c hx)
          rw [spelled?, hc]
          constructor
          · intro h
            split at h
            next hletter =>
              obtain ⟨⟨w, rest'⟩, hw, heq⟩ := Option.map_eq_some_iff.mp h
              cases heq
              obtain ⟨rfl, rfl⟩ := (ih hrest).mp hw
              exact ⟨rfl, congrArg (· :: _) (beq_iff_eq.mp hletter)⟩
            next => cases h
          · rintro ⟨happend, hlower⟩
            cases text with
            | nil => cases hlower
            | cons c' w =>
                obtain ⟨rfl, rfl⟩ := List.cons.inj happend
                obtain ⟨hletter, hword⟩ := List.cons.inj hlower
                rw [if_pos (beq_iff_eq.mpr hletter), (ih hrest).mpr ⟨rfl, hword⟩]
                rfl

theorem word?_eq_some_iff {word : List Char} (hs : Unmistaken s) :
    word? word s = some (text, rest) ↔
      s = text ++ rest ∧ Text.lower text = word ∧ Text.wordEnds rest = true := by
  rw [word?, Option.filter_eq_some_iff, spelled?_eq_some_iff hs, and_assoc]

theorem length_of_spelled {word : String} (h : IsSpelled word text) :
    text.length = word.toList.length := by
  rw [← h, Text.lower, List.length_map]

/-! ## Letters -/

/-- One letter of ASCII or more, and nothing else. -/
def IsLetters (s : List Char) : Prop :=
  s ≠ [] ∧ ∀ c ∈ s, c.isAlpha = true

theorem isLetters_of_spelled {word : String} (h : IsSpelled word text) (hne : word.toList ≠ [])
    (hword : word.toList.all Char.isAlpha = true) : IsLetters text := by
  constructor
  · rintro rfl
    exact hne h.symm
  · intro c hc
    have hlower : c.toLower ∈ word.toList := by
      rw [← h]
      exact List.mem_map_of_mem hc
    exact Text.isAlpha_of_toLower (List.all_eq_true.mp hword c.toLower hlower)

theorem isLetters_single {word : String} (hword : (word, op) ∈ words) (h : IsSpelled word text) :
    IsLetters text := by
  have hne : ∀ entry ∈ words, entry.1.toList ≠ [] := by decide
  have halpha : ∀ entry ∈ words, entry.1.toList.all Char.isAlpha = true := by decide
  exact isLetters_of_spelled h (hne _ hword) (halpha _ hword)

theorem isLetters_not (h : IsSpelled "not" text) : IsLetters text :=
  isLetters_of_spelled h (by decide) (by decide)

theorem isLetters_like (h : IsSpelled "like" text) : IsLetters text :=
  isLetters_of_spelled h (by decide) (by decide)

theorem IsLetters.exists_cons (h : IsLetters text) :
    ∃ c after, text = c :: after ∧ c.isAlpha = true := by
  obtain ⟨c, after, rfl⟩ := List.exists_cons_of_ne_nil h.1
  exact ⟨c, after, rfl, h.2 c List.mem_cons_self⟩

theorem IsLetters.stops (h : IsLetters text) : Text.Stops Text.isSpace (text ++ rest) := by
  obtain ⟨c, after, rfl, hc⟩ := h.exists_cons
  exact Text.stops_cons.mpr (Text.isSpace_of_isAlpha hc)

/-- Letters end at a boundary where no word goes on. -/
theorem IsLetters.atBoundary_iff (h : IsLetters text) (before : List Char) :
    AtBoundary (before ++ text) rest ↔ Text.wordEnds rest = true := by
  have hlast := Text.isWordChar_of_isAlpha (h.2 _ (List.getLast_mem h.1))
  rw [AtBoundary, List.getLast?_append, List.getLast?_eq_some_getLast h.1, Option.some_or,
    Option.any_some, hlast]
  cases rest with
  | nil => decide
  | cons x rest =>
      rw [List.head?_cons, Option.any_some, Text.wordEnds_cons]
      cases Text.isWordChar x <;> decide

theorem IsLetters.words_append (h : IsLetters text) (s : List Char) :
    Text.words (text ++ s) = (text ++ (Text.wordsFrom s).1) :: (Text.wordsFrom s).2 :=
  Text.words_append (fun c hc => Text.isSpace_of_isAlpha (h.2 c hc)) h.1 s

theorem IsLetters.words_eq (h : IsLetters text) : Text.words text = [text] := by
  have hwords := h.words_append []
  rwa [List.append_nil, Text.wordsFrom, List.append_nil] at hwords

/-! ## Single words -/

theorem read_word_iff {word : String} (hs : Unmistaken s) (hword : (word, op) ∈ words) :
    word? word.toList s = some (text, rest) ↔
      s = text ++ rest ∧ IsSpelled word text ∧ AtBoundary text rest := by
  rw [word?_eq_some_iff hs]
  refine and_congr_right fun _ => and_congr_right fun hspelled => ?_
  exact ((isLetters_single hword hspelled).atBoundary_iff []).symm

theorem head_of_spelled {word : String} (h : IsSpelled word text) (hne : text ≠ [])
    (rest : List Char) : (text ++ rest).head?.map Char.toLower = word.toList.head? := by
  obtain ⟨c, after, rfl⟩ := List.exists_cons_of_ne_nil hne
  exact congrArg List.head? h

/-- The single words begin with different letters. -/
theorem single_unique {word word' : String} {op' : Operator} {text' rest' : List Char}
    (hword : (word, op) ∈ words) (h : IsSpelled word text) (hword' : (word', op') ∈ words)
    (h' : IsSpelled word' text') (happend : text ++ rest = text' ++ rest') :
    text = text' ∧ rest = rest' := by
  have hheads : ∀ entry ∈ words, ∀ entry' ∈ words,
    entry.1.toList.head? = entry'.1.toList.head? → entry.1 = entry'.1 := by decide
  have hhead : word.toList.head? = word'.toList.head? := by
    rw [← head_of_spelled h (isLetters_single hword h).1 rest, happend,
      head_of_spelled h' (isLetters_single hword' h').1 rest']
  obtain rfl : word = word' := hheads _ hword _ hword' hhead
  exact List.append_inj happend ((length_of_spelled h).trans (length_of_spelled h').symm)

def singleWord? (s : List Char) : Option (List Char × List Char) :=
  ((word? "not".toList s).or (word? "is".toList s)).or (word? "like".toList s)

theorem wordOperator?_eq (s : List Char) : wordOperator? s = (notLike? s).or (singleWord? s) := by
  rw [wordOperator?, Option.or_assoc, Option.or_assoc, singleWord?, Option.or_assoc]
  rfl

theorem singleWord?_sound (hs : Unmistaken s) (h : singleWord? s = some (text, rest)) :
    s = text ++ rest ∧ ∃ entry ∈ words, IsSpelled entry.1 text ∧ AtBoundary text rest := by
  have hread {word : String} (op : Operator) (hword : (word, op) ∈ words)
      (h : word? word.toList s = some (text, rest)) :
      s = text ++ rest ∧ ∃ entry ∈ words, IsSpelled entry.1 text ∧ AtBoundary text rest := by
    obtain ⟨hs, hspelled, hends⟩ := (read_word_iff hs hword).mp h
    exact ⟨hs, (word, op), hword, hspelled, hends⟩
  rcases Option.or_eq_some_iff.mp h with h | ⟨-, h⟩
  · rcases Option.or_eq_some_iff.mp h with h | ⟨-, h⟩
    · exact hread .unequal (by decide) h
    · exact hread .equal (by decide) h
  · exact hread .like (by decide) h

theorem singleWord?_complete {word : String} (hs : Unmistaken (text ++ rest))
    (hword : (word, op) ∈ words) (h : IsSpelled word text) (hend : AtBoundary text rest) :
    singleWord? (text ++ rest) = some (text, rest) := by
  have hread := (read_word_iff hs hword).mpr ⟨rfl, h, hend⟩
  cases hfound : singleWord? (text ++ rest) with
  | none =>
      simp only [singleWord?, Option.or_eq_none_iff] at hfound
      simp only [words, List.mem_cons, List.not_mem_nil, or_false, Prod.mk.injEq] at hword
      rcases hword with ⟨rfl, -⟩ | ⟨rfl, -⟩ | ⟨rfl, -⟩
      · rw [hfound.1.1] at hread
        cases hread
      · rw [hfound.1.2] at hread
        cases hread
      · rw [hfound.2] at hread
        cases hread
  | some found =>
      -- Whichever word was read first, it is the only one that stands here.
      obtain ⟨text', rest'⟩ := found
      obtain ⟨happend, entry, hentry, h', -⟩ := singleWord?_sound hs hfound
      obtain ⟨rfl, rfl⟩ := single_unique hword h hentry h' happend
      rfl

/-! ## The two words together -/

theorem notLike?_eq_some_iff (hs : Unmistaken s) :
    notLike? s = some (text, rest) ↔ s = text ++ rest ∧ ∃ first blank second,
      text = first ++ (blank ++ second) ∧ IsSpelled "not" first ∧ IsBlank blank ∧ blank ≠ [] ∧
      IsSpelled "like" second ∧ Text.wordEnds rest = true := by
  constructor
  · intro h
    rw [notLike?] at h
    cases hnot : spelled? ['n', 'o', 't'] s with
    | none =>
        rw [hnot] at h
        cases h
    | some found =>
        obtain ⟨first, after⟩ := found
        rw [hnot] at h
        obtain ⟨rfl, hfirst⟩ := (spelled?_eq_some_iff hs).mp hnot
        simp only at h
        split at h
        · cases h
        next hblank =>
          obtain ⟨⟨second, rest'⟩, hlike, heq⟩ := Option.map_eq_some_iff.mp h
          cases heq
          have hparts : after.takeWhile Text.isSpace ++ after.dropWhile Text.isSpace = after :=
            List.takeWhile_append_dropWhile
          have hafter : Unmistaken (after.dropWhile Text.isSpace) := by
            rw [← hparts] at hs
            exact hs.append_right.append_right
          obtain ⟨hsecond, hlower, hends⟩ := (word?_eq_some_iff hafter).mp hlike
          rw [hsecond] at hparts
          refine ⟨?_, first, _, second, List.append_assoc _ _ _, hfirst,
            Text.all_takeWhile Text.isSpace after, ?_, hlower, hends⟩
          · simp only [List.append_assoc, hparts]
          · rwa [List.isEmpty_iff] at hblank
  · rintro ⟨rfl, first, blank, second, rfl, hfirst, hblank, hne, hsecond, hends⟩
    have hparts : first ++ (blank ++ second) ++ rest = first ++ (blank ++ (second ++ rest)) := by
      simp only [List.append_assoc]
    rw [hparts] at hs ⊢
    have hnot : spelled? ['n', 'o', 't'] (first ++ (blank ++ (second ++ rest))) =
        some (first, blank ++ (second ++ rest)) := (spelled?_eq_some_iff hs).mpr ⟨rfl, hfirst⟩
    have hlike : word? ['l', 'i', 'k', 'e'] (second ++ rest) = some (second, rest) :=
      (word?_eq_some_iff hs.append_right.append_right).mpr ⟨rfl, hsecond, hends⟩
    have hstops : Text.Stops Text.isSpace (second ++ rest) := (isLetters_like hsecond).stops
    have hsome : ¬blank.isEmpty = true := by rwa [List.isEmpty_iff]
    rw [notLike?, hnot]
    simp only [Text.takeWhile_span hblank hstops, Text.dropWhile_span hblank hstops, if_neg hsome,
      hlike, Option.map_some, List.append_assoc]

/-- The reader of the two words finds them where they fit. -/
theorem notLike?_iff_fits (hs : Unmistaken s) :
    notLike? s = some (text, rest) ↔ s = text ++ rest ∧ FitsWord text .notLike rest := by
  rw [notLike?_eq_some_iff hs]
  refine and_congr_right fun _ => ?_
  have hboundary {first blank second : List Char} (h : IsSpelled "like" second) :
      AtBoundary (first ++ (blank ++ second)) rest ↔ Text.wordEnds rest = true := by
    rw [← List.append_assoc]
    exact (isLetters_like h).atBoundary_iff (first ++ blank)
  constructor
  · rintro ⟨first, blank, second, rfl, hfirst, hblank, hne, hsecond, hends⟩
    exact ⟨.notLike hfirst hblank hne hsecond, (hboundary hsecond).mpr hends⟩
  · rintro ⟨hword, hend⟩
    cases hword with
    | single hword h =>
        have hop : ∀ entry ∈ words, entry.2 ≠ .notLike := by decide
        exact absurd rfl (hop _ hword)
    | notLike hfirst hblank hne hsecond =>
        exact ⟨_, _, _, rfl, hfirst, hblank, hne, hsecond, (hboundary hsecond).mp hend⟩

theorem length_notLike (hs : Unmistaken s) (h : notLike? s = some (text, rest)) :
    4 < text.length := by
  obtain ⟨-, first, blank, second, rfl, hfirst, -, -, hsecond, -⟩ := (notLike?_eq_some_iff hs).mp h
  have hthree : first.length = 3 := length_of_spelled hfirst
  have hfour : second.length = 4 := length_of_spelled hsecond
  simp only [List.length_append]
  omega

theorem length_single {word : String} (hword : (word, op) ∈ words) (h : IsSpelled word text) :
    text.length ≤ 4 := by
  have hle : ∀ entry ∈ words, entry.1.toList.length ≤ 4 := by decide
  rw [length_of_spelled h]
  exact hle _ hword

/-! ## The longest word -/

theorem longest_notLike (hs : Unmistaken (text ++ rest))
    (h : notLike? (text ++ rest) = some (text, rest)) : Longest FitsWord text .notLike rest := by
  refine ⟨((notLike?_iff_fits hs).mp h).2, fun s' op' after happend hfits => ?_⟩
  cases hfits.1 with
  | single hword hspelled =>
      exact Nat.le_trans (length_single hword hspelled) (Nat.le_of_lt (length_notLike hs h))
  | notLike =>
      have hother := (notLike?_iff_fits hs).mpr ⟨happend.symm, hfits⟩
      rw [h] at hother
      cases hother
      exact Nat.le_refl _

theorem longest_of_no_notLike {word : String} (hs : Unmistaken (text ++ rest))
    (hnone : notLike? (text ++ rest) = none) (hword : (word, op) ∈ words)
    (h : IsSpelled word text) (hend : AtBoundary text rest) : Longest FitsWord text op rest := by
  refine ⟨⟨.single hword h, hend⟩, fun s' op' after happend hfits => ?_⟩
  cases hfits.1 with
  | single hword' h' =>
      obtain ⟨rfl, -⟩ := single_unique hword h hword' h' happend.symm
      exact Nat.le_refl _
  | notLike =>
      have hother := (notLike?_iff_fits hs).mpr ⟨happend.symm, hfits⟩
      rw [hnone] at hother
      cases hother

/-- Where a single word is the longest the two words do not stand. -/
theorem notLike?_of_longest_single {word : String} (hs : Unmistaken (text ++ rest))
    (hword : (word, op) ∈ words) (h : IsSpelled word text)
    (hlongest : Longest FitsWord text op rest) : notLike? (text ++ rest) = none := by
  rw [Option.eq_none_iff_forall_ne_some]
  rintro ⟨text', rest'⟩ hfound
  obtain ⟨happend, hfits⟩ := (notLike?_iff_fits hs).mp hfound
  have hle := hlongest.longest text' .notLike rest' happend.symm hfits
  have hlong := length_notLike hs hfound
  have hshort := length_single hword h
  omega

theorem wordOperator?_eq_some_iff (hs : Unmistaken s) :
    wordOperator? s = some (text, rest) ↔
      s = text ++ rest ∧ ∃ op, Longest FitsWord text op rest := by
  rw [wordOperator?_eq]
  constructor
  · intro h
    rcases Option.or_eq_some_iff.mp h with hnotLike | ⟨hnone, hsingle⟩
    · obtain ⟨rfl, -⟩ := (notLike?_iff_fits hs).mp hnotLike
      exact ⟨rfl, .notLike, longest_notLike hs hnotLike⟩
    · obtain ⟨rfl, entry, hentry, hspelled, hend⟩ := singleWord?_sound hs hsingle
      exact ⟨rfl, entry.2, longest_of_no_notLike hs hnone hentry hspelled hend⟩
  · rintro ⟨rfl, op, hlongest⟩
    obtain ⟨hword, hend⟩ := hlongest.fits
    cases hword with
    | single hword h =>
        rw [notLike?_of_longest_single hs hword h hlongest, Option.none_or]
        exact singleWord?_complete hs hword h hend
    | notLike => rw [(notLike?_iff_fits hs).mpr ⟨rfl, hlongest.fits⟩, Option.some_or]

/-! ## What an operator is read as -/

theorem read?_of_normalize {word : List Char} (spelling : String)
    (h : Operator.normalize word = spelling.toList)
    (hspelling : Operator.spellings.lookup spelling = some op) : Operator.read? word = some op := by
  rw [Operator.read?, h, String.ofList_toList, hspelling]

theorem read?_word {c : Char} (hc : Text.isSpace c = true) (h : IsWord text op) :
    Operator.read? (c :: text) = some op := by
  have hspace : ∀ x ∈ [c], Text.isSpace x = true := by simpa using hc
  have hblank : Text.words (c :: text) = Text.words text := Text.words_blank hspace text
  cases h with
  | @single word _ _ hword h =>
      have hlookup : ∀ entry ∈ words, Operator.spellings.lookup entry.1 = some entry.2 := by decide
      refine read?_of_normalize _ ?_ (hlookup _ hword)
      rw [Operator.normalize, hblank, (isLetters_single hword h).words_eq]
      exact h
  | @notLike first blank second hfirst hblanks hne hsecond =>
      have hnot := (isLetters_not hfirst).words_append (blank ++ second)
      rw [Text.wordsFrom_blank hblanks hne, (isLetters_like hsecond).words_eq,
        List.append_nil] at hnot
      refine read?_of_normalize "not like" ?_ (by decide)
      rw [Operator.normalize, hblank, hnot]
      have hnotText : first.map Char.toLower = "not".toList := hfirst
      have hlikeText : second.map Char.toLower = "like".toList := hsecond
      change Text.lower (first ++ ' ' :: second) = _
      rw [Text.lower, List.map_append, List.map_cons, hnotText, hlikeText]
      rfl

/-! ## Operators -/

theorem head_of_symbol (h : FitsSymbol text op rest) :
    ∃ c after, text = c :: after ∧ c.isAlpha = false ∧ Text.isSpace c = false := by
  have hheads : ∀ entry ∈ symbols,
    entry.1.head?.any (fun c => !c.isAlpha && !Text.isSpace c) = true := by decide
  have hhead := hheads (text, op) h
  cases text with
  | nil => cases hhead
  | cons c text =>
      rw [List.head?_cons, Option.any_some, Bool.and_eq_true, Bool.not_eq_true',
        Bool.not_eq_true'] at hhead
      exact ⟨c, text, rfl, hhead⟩

theorem head_of_word (h : IsWord text op) :
    ∃ c after, text = c :: after ∧ c.isAlpha = true := by
  cases h with
  | single hword h => exact (isLetters_single hword h).exists_cons
  | @notLike first blank second hfirst =>
      obtain ⟨c, after, rfl, hc⟩ := (isLetters_not hfirst).exists_cons
      exact ⟨c, after ++ (blank ++ second), rfl, hc⟩

theorem stops_of_operator {blank : List Char} (h : IsOperator blank text op rest) :
    Text.Stops Text.isSpace (text ++ rest) := by
  rcases h with h | ⟨-, h⟩
  · obtain ⟨c, after, rfl, -, hc⟩ := head_of_symbol h.fits
    exact Text.stops_cons.mpr hc
  · obtain ⟨c, after, rfl, hc⟩ := head_of_word h.fits.1
    exact Text.stops_cons.mpr (Text.isSpace_of_isAlpha hc)

/-- No symbol stands where a word does. -/
theorem symbolOperator?_word (h : IsWord text op) : symbolOperator? (text ++ rest) = none := by
  obtain ⟨c, after, rfl, halpha⟩ := head_of_word h
  rw [Option.eq_none_iff_forall_ne_some]
  rintro ⟨symbol, rest'⟩ hfound
  obtain ⟨happend, op', hlongest⟩ := symbolOperator?_eq_some_iff.mp hfound
  obtain ⟨c', after', rfl, hnot, -⟩ := head_of_symbol hlongest.fits
  obtain rfl : c = c' := (List.cons.inj happend).1
  rw [halpha] at hnot
  cases hnot

theorem operator?_sound (hs : Unmistaken s) (h : operator? s = some (text, rest)) :
    ∃ blank word op, s = blank ++ (word ++ rest) ∧ IsBlank blank ∧
      IsOperator blank word op rest ∧ Operator.read? text = some op := by
  have hparts : s.takeWhile Text.isSpace ++ s.dropWhile Text.isSpace = s :=
    List.takeWhile_append_dropWhile
  have hblank : IsBlank (s.takeWhile Text.isSpace) := Text.all_takeWhile Text.isSpace s
  have hafter : Unmistaken (s.dropWhile Text.isSpace) := by
    rw [← hparts] at hs
    exact hs.append_right
  rw [operator?] at h
  cases hsymbol : symbolOperator? (s.dropWhile Text.isSpace) with
  | some found =>
      simp only [hsymbol] at h
      cases h
      obtain ⟨hdrop, op, hlongest⟩ := symbolOperator?_eq_some_iff.mp hsymbol
      refine ⟨_, text, op, ?_, hblank, .inl hlongest, read?_symbols (text, op) hlongest.fits⟩
      rw [← hdrop, hparts]
  | none =>
      simp only [hsymbol] at h
      cases hlast : (s.takeWhile Text.isSpace).getLast? with
      | none =>
          rw [hlast] at h
          cases h
      | some c =>
          rw [hlast] at h
          obtain ⟨⟨word, rest'⟩, hword, heq⟩ := Option.map_eq_some_iff.mp h
          cases heq
          obtain ⟨hdrop, op, hlongest⟩ := (wordOperator?_eq_some_iff hafter).mp hword
          have hmem := List.mem_of_getLast? hlast
          refine ⟨_, word, op, ?_, hblank, .inr ⟨List.ne_nil_of_mem hmem, hlongest⟩,
            read?_word (hblank c hmem) hlongest.fits.1⟩
          rw [← hdrop, hparts]

theorem operator?_complete {blank : List Char} (hs : Unmistaken (blank ++ (text ++ rest)))
    (hblank : IsBlank blank) (h : IsOperator blank text op rest) :
    ∃ found, operator? (blank ++ (text ++ rest)) = some (found, rest) ∧
      Operator.read? found = some op := by
  have hstops := stops_of_operator h
  rw [operator?, Text.takeWhile_span hblank hstops, Text.dropWhile_span hblank hstops]
  rcases h with h | ⟨hne, h⟩
  · have hsymbol := symbolOperator?_eq_some_iff.mpr ⟨rfl, op, h⟩
    simp only [hsymbol]
    exact ⟨text, rfl, read?_symbols (text, op) h.fits⟩
  · have hword := (wordOperator?_eq_some_iff hs.append_right).mpr ⟨rfl, op, h⟩
    have hlast := List.getLast?_eq_some_getLast hne
    simp only [symbolOperator?_word h.fits.1, hlast, hword]
    exact ⟨_, rfl, read?_word (hblank _ (List.getLast_mem hne)) h.fits.1⟩

end Threshold
end MonitorAgent
