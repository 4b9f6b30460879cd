import MonitorAgent.Text.Span
import MonitorAgent.Threshold.Reader

/-!
# The grammar of thresholds

What a threshold is, without saying how it is found: a name, an operator that is the
longest one at its place, and a value, which is to be a quantity for an operator that
orders.
-/

namespace MonitorAgent
namespace Threshold
namespace Grammar

/-- Letters and digits of ASCII, and three marks. -/
def IsPlain (c : Char) : Prop :=
  c.isAlphanum = true ∨ c = '_' ∨ c = '.' ∨ c = '-'

def IsBlank (s : List Char) : Prop :=
  ∀ c ∈ s, Text.isSpace c = true

/-! ## Operators -/

def symbols : List (List Char × Operator) :=
  [(['<', '='], .lowerEqual), (['>', '='], .greaterEqual), (['!', '='], .unequal),
   (['=', '='], .equal), (['<'], .lower), (['>'], .greater), (['='], .equal)]

/-- The word is written in any letter case. -/
def IsSpelled (word : String) (s : List Char) : Prop :=
  Text.lower s = word.toList

def words : List (String × Operator) :=
  [("not", .unequal), ("is", .equal), ("like", .like)]

inductive IsWord : List Char → Operator → Prop where
  | single {word : String} {op : Operator} {s : List Char} (hword : (word, op) ∈ words)
    (h : IsSpelled word s) : IsWord s op
  | notLike {first blank second : List Char} (hfirst : IsSpelled "not" first)
    (hblank : IsBlank blank) (hne : blank ≠ []) (hsecond : IsSpelled "like" second) :
    IsWord (first ++ (blank ++ second)) .notLike

/-- Just one of the two characters at a place belongs to a word. -/
def AtBoundary (before after : List Char) : Prop :=
  before.getLast?.any Text.isWordChar ≠ after.head?.any Text.isWordChar

/-- What fits in front of a text, and nothing longer does in its place. -/
structure Longest (Fits : List Char → Operator → List Char → Prop) (s : List Char) (op : Operator)
    (after : List Char) : Prop where
  fits : Fits s op after
  longest : ∀ s' op' after', s' ++ after' = s ++ after → Fits s' op' after' →
    s'.length ≤ s.length

def FitsSymbol (s : List Char) (op : Operator) (_ : List Char) : Prop :=
  (s, op) ∈ symbols

def FitsWord (s : List Char) (op : Operator) (after : List Char) : Prop :=
  IsWord s op ∧ AtBoundary s after

/-- The longest symbol, or after white space the longest word. -/
def IsOperator (blank s : List Char) (op : Operator) (after : List Char) : Prop :=
  Longest FitsSymbol s op after ∨ blank ≠ [] ∧ Longest FitsWord s op after

/-! ## Values -/

def IsDigits (s : List Char) : Prop :=
  s ≠ [] ∧ ∀ c ∈ s, Text.isDecimalDigit c = true

inductive IsUnsigned : List Char → Prop where
  | whole {digits : List Char} (h : IsDigits digits) : IsUnsigned digits
  | decimal {whole fraction : List Char} (hwhole : IsDigits whole) (hfraction : IsDigits fraction) :
    IsUnsigned (whole ++ '.' :: fraction)
  | fraction {digits : List Char} (h : IsDigits digits) : IsUnsigned ('.' :: digits)

inductive IsNumber : List Char → Prop where
  | unsigned {s : List Char} (h : IsUnsigned s) : IsNumber s
  | negative {s : List Char} (h : IsUnsigned s) : IsNumber ('-' :: s)

/-- No unit, or one that is known. -/
inductive IsUnit : String → Prop where
  | none : IsUnit ""
  | percent : IsUnit "%"
  | time {unit : String} (h : unit ∈ ["s", "m", "h", "d", "w"]) : IsUnit unit
  | size {unit : String}
    (h : String.ofList (Text.upper unit.toList) ∈ ["B", "KB", "MB", "GB", "TB", "PB"]) :
    IsUnit unit

/-- A number, white space or none, and a unit. -/
def IsQuantity (s : List Char) (number unit : String) : Prop :=
  ∃ blank, s = number.toList ++ (blank ++ unit.toList) ∧ IsNumber number.toList ∧ IsBlank blank ∧
    IsUnit unit

/-- A text without the two quotes of one kind that it may stand in. -/
inductive IsUnquoted : List Char → List Char → Prop where
  | single (s : List Char) : IsUnquoted ('\'' :: (s ++ ['\''])) s
  | double (s : List Char) : IsUnquoted ('"' :: (s ++ ['"'])) s
  | bare {s : List Char} (hsingle : ∀ inner, s ≠ '\'' :: (inner ++ ['\'']))
    (hdouble : ∀ inner, s ≠ '"' :: (inner ++ ['"'])) : IsUnquoted s s

/-- The value and the unit that a text stands for. -/
inductive Denotes (s : List Char) : String → String → Prop where
  | quantity {number unit : String} (h : IsQuantity s number unit) : Denotes s number unit
  | text {inner : List Char} (hnot : ∀ number unit, ¬IsQuantity s number unit)
    (h : IsUnquoted s inner) : Denotes s (String.ofList inner) ""

/-! ## Thresholds -/

/-- Nothing at all, or the word `none`. -/
def TurnsOff (s : List Char) : Prop :=
  s = [] ∨ IsSpelled "none" s

/-- The parts of a threshold in their order. -/
structure Parts where
  name : List Char
  blank : List Char
  operator : List Char
  gap : List Char
  value : List Char

def Parts.text (p : Parts) : List Char :=
  p.name ++ (p.blank ++ (p.operator ++ (p.gap ++ p.value)))

structure Parts.Fits (p : Parts) (op : Operator) : Prop where
  name_ne : p.name ≠ []
  name_plain : ∀ c ∈ p.name, IsPlain c
  name_longest : ∀ c ∈ (p.blank ++ (p.operator ++ (p.gap ++ p.value))).head?, ¬IsPlain c
  blank : IsBlank p.blank
  operator : IsOperator p.blank p.operator op (p.gap ++ p.value)
  gap : IsBlank p.gap
  value_ne : p.value ≠ []
  value_start : ∀ c ∈ p.value.head?, Text.isSpace c = false
  value_line : '\n' ∉ p.value

/-- An operator that orders wants a quantity. -/
def Parts.IsThreshold (p : Parts) (op : Operator) : Prop :=
  p.Fits op ∧ (op ∈ [.lower, .lowerEqual, .greater, .greaterEqual] →
    ∃ number unit, IsQuantity p.value number unit)

/-- The threshold that the parts stand for. -/
structure Parts.StandsFor (p : Parts) (op : Operator) (t : Threshold) : Prop where
  operator : t.operator = op
  value : Denotes p.value t.value t.unit
  name : t.name = String.ofList p.name ++ if t.unit = "%" then "_pct" else ""

end Grammar
end Threshold
end MonitorAgent
