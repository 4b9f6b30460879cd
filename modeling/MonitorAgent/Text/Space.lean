import MonitorAgent.Text.Ranges

/-!
# White space

The characters of the Unicode property White_Space, and texts without white
space at their ends.  Texts are handled as lists of characters throughout, so
that every function here is a recursion on the text.
-/

namespace MonitorAgent
namespace Text

def isSpace (c : Char) : Bool :=
  let n := c.toNat
  (9 ≤ n && n ≤ 13) || n == 0x20 || n == 0x85 || n == 0xA0 || n == 0x1680 ||
    (0x2000 ≤ n && n ≤ 0x200A) || n == 0x2028 || n == 0x2029 || n == 0x202F ||
      n == 0x205F || n == 0x3000

def trimStart (s : List Char) : List Char :=
  s.dropWhile isSpace

def trimEnd (s : List Char) : List Char :=
  (s.reverse.dropWhile isSpace).reverse

/-- The text without the white space at either end. -/
def trim (s : List Char) : List Char :=
  trimEnd (trimStart s)

/-- The word under the scan, and the words after it. -/
def wordsFrom : List Char → List Char × List (List Char)
  | [] => ([], [])
  | c :: s =>
    let (word, later) := wordsFrom s
    if isSpace c then ([], if word.isEmpty then later else word :: later)
    else (c :: word, later)

/-- The maximal runs of characters that are no white space. -/
def words (s : List Char) : List (List Char) :=
  let (word, later) := wordsFrom s
  if word.isEmpty then later else word :: later

theorem wordsFrom_append {w : List Char} (hw : ∀ c ∈ w, isSpace c = false) (s : List Char) :
    wordsFrom (w ++ s) = (w ++ (wordsFrom s).1, (wordsFrom s).2) := by
  induction w with
  | nil => rfl
  | cons c w ih =>
      rw [List.cons_append, wordsFrom, ih fun x hx => hw x (List.mem_cons_of_mem c hx)]
      simp only [hw c List.mem_cons_self, Bool.false_eq_true, if_false, List.cons_append]

theorem wordsFrom_blank {blank : List Char} (hblank : ∀ c ∈ blank, isSpace c = true)
    (hne : blank ≠ []) (s : List Char) : wordsFrom (blank ++ s) = ([], words s) := by
  induction blank with
  | nil => exact absurd rfl hne
  | cons c blank ih =>
      simp only [List.cons_append, wordsFrom, hblank c List.mem_cons_self, if_true]
      cases blank with
      | nil => rfl
      | cons c' blank =>
          rw [ih (fun x hx => hblank x (List.mem_cons_of_mem c hx)) (List.cons_ne_nil c' blank)]
          rfl

theorem words_blank {blank : List Char} (hblank : ∀ c ∈ blank, isSpace c = true)
    (s : List Char) : words (blank ++ s) = words s := by
  cases blank with
  | nil => rfl
  | cons c blank => rw [words, wordsFrom_blank hblank (List.cons_ne_nil c blank)]; rfl

theorem words_append {w : List Char} (hw : ∀ c ∈ w, isSpace c = false) (hne : w ≠ [])
    (s : List Char) : words (w ++ s) = (w ++ (wordsFrom s).1) :: (wordsFrom s).2 := by
  rw [words, wordsFrom_append hw]
  cases w with
  | nil => exact absurd rfl hne
  | cons c w => rfl

theorem isSpace_of_isAlpha {c : Char} (h : c.isAlpha = true) : isSpace c = false := by
  have hletter := toNat_of_isAlpha h
  simp only [isSpace, Bool.or_eq_false_iff, Bool.and_eq_false_imp, decide_eq_true_eq,
    decide_eq_false_iff_not, beq_eq_false_iff_ne]
  omega

theorem isSpace_of_isDigit {c : Char} (h : c.isDigit = true) : isSpace c = false := by
  have hdigit := isDigit_iff.mp h
  simp only [isSpace, Bool.or_eq_false_iff, Bool.and_eq_false_imp, decide_eq_true_eq,
    decide_eq_false_iff_not, beq_eq_false_iff_ne]
  omega

@[simp] theorem trim_nil : trim [] = [] := rfl

end Text
end MonitorAgent
