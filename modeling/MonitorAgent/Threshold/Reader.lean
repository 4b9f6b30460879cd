import MonitorAgent.Text.DecimalDigit
import MonitorAgent.Text.Word
import MonitorAgent.Threshold.Basic

/-!
# Reading thresholds

A threshold is written `name operator value`.  The name is the longest run of
name characters at the start.  A symbol may follow at once, a word must be set
off by white space and end where a word ends.  All the rest is the value: a
number with a unit, or a text, which may stand in quotes.
-/

namespace MonitorAgent
namespace Threshold

/-- Why a text is no threshold; `other` is a reason from outside the reader. -/
inductive Fault where
  | shape
  | unknownOperator
  | missingValue
  | unknownUnit (unit : String)
  | notNumeric
  | other (reason : String)
  deriving DecidableEq, Repr

/-- The text that is to blame and what is wrong with it. -/
structure Error where
  raw : String
  fault : Fault
  deriving DecidableEq, Repr

def Fault.message : Fault → String
  | shape => "expected <name> <operator> <value>"
  | unknownOperator => "unknown operator"
  | missingValue => "missing value"
  | unknownUnit unit => "unknown unit '" ++ unit ++ "'"
  | notNumeric => "value is not numeric"
  | other reason => reason

def Error.message (e : Error) : String :=
  "invalid threshold '" ++ e.raw ++ "': " ++ e.fault.message

/-- Two characters beyond ASCII count as the letters `s` and `k`: the long s and
the kelvin sign. -/
def isLongS (c : Char) : Bool :=
  c == '\u017f'

def isKelvin (c : Char) : Bool :=
  c == '\u212a'

def isNameChar (c : Char) : Bool :=
  c.isAlphanum || c == '_' || c == '.' || c == '-' || isLongS c || isKelvin c

/-- The character is a spelling of the lower-case letter. -/
def spells (letter c : Char) : Bool :=
  c.toLower == letter || (letter == 's' && isLongS c) || (letter == 'k' && isKelvin c)

/-- The word as it is spelled at the start, and the rest. -/
def spelled? : List Char → List Char → Option (List Char × List Char)
  | [], s => some ([], s)
  | _ :: _, [] => none
  | letter :: word, c :: s =>
    if spells letter c then (spelled? word s).map fun (w, rest) => (c :: w, rest) else none

/-- A spelled word at whose end no word goes on. -/
def word? (word s : List Char) : Option (List Char × List Char) :=
  (spelled? word s).filter fun (_, rest) => Text.wordEnds rest

def notLike? (s : List Char) : Option (List Char × List Char) :=
  match spelled? ['n', 'o', 't'] s with
  | none => none
  | some (first, rest) =>
    let blank := rest.takeWhile Text.isSpace
    if blank.isEmpty then none
    else (word? ['l', 'i', 'k', 'e'] (rest.dropWhile Text.isSpace)).map fun (second, rest) =>
      (first ++ blank ++ second, rest)

/-- The first that is there of `not like`, `not`, `is` and `like`. -/
def wordOperator? (s : List Char) : Option (List Char × List Char) :=
  (((notLike? s).or (word? ['n', 'o', 't'] s)).or (word? ['i', 's'] s)).or
    (word? ['l', 'i', 'k', 'e'] s)

/-- The longest symbol that is there. -/
def symbolOperator? : List Char → Option (List Char × List Char)
  | '<' :: '=' :: s => some (['<', '='], s)
  | '>' :: '=' :: s => some (['>', '='], s)
  | '!' :: '=' :: s => some (['!', '='], s)
  | '=' :: '=' :: s => some (['=', '='], s)
  | '<' :: s => some (['<'], s)
  | '>' :: s => some (['>'], s)
  | '=' :: s => some (['='], s)
  | _ => none

/-- The text of an operator, for a word with the last blank before it. -/
def operator? (s : List Char) : Option (List Char × List Char) :=
  let rest := s.dropWhile Text.isSpace
  match symbolOperator? rest with
  | some found => some found
  | none =>
    match (s.takeWhile Text.isSpace).getLast? with
    | none => none
    | some blank => (wordOperator? rest).map fun (op, rest) => (blank :: op, rest)

/-- The three parts of a threshold as they are written. -/
structure Clause where
  name : List Char
  operator : List Char
  value : List Char
  deriving DecidableEq, Repr

def Clause.read? (s : List Char) : Option Clause :=
  let name := s.takeWhile isNameChar
  if name.isEmpty then none
  else
    match operator? (s.dropWhile isNameChar) with
    | none => none
    | some (operator, rest) =>
      let value := rest.dropWhile Text.isSpace
      if value.contains '\n' then none else some ⟨name, operator, value⟩

def isUnitChar (c : Char) : Bool :=
  c.isAlpha || c == '%'

/-- Digits of any script with an optional fraction, of which either the whole
part or the point and the fraction may be missing. -/
def unsigned? (s : List Char) : Option (List Char × List Char) :=
  let before := s.takeWhile Text.isDecimalDigit
  match s.dropWhile Text.isDecimalDigit with
  | '.' :: rest =>
    let behind := rest.takeWhile Text.isDecimalDigit
    if behind.isEmpty then none
    else some (before ++ '.' :: behind, rest.dropWhile Text.isDecimalDigit)
  | rest => if before.isEmpty then none else some (before, rest)

def signed? : List Char → Option (List Char × List Char)
  | '-' :: s => (unsigned? s).map fun (number, rest) => ('-' :: number, rest)
  | s => unsigned? s

/-- A number, optional white space and an optional unit, up to the end. -/
def quantity? (s : List Char) : Option (String × String) :=
  match signed? s with
  | none => none
  | some (number, rest) =>
    let unit := rest.dropWhile Text.isSpace
    if unit.all isUnitChar then some (String.ofList number, String.ofList unit) else none

def isQuote (c : Char) : Bool :=
  c == '\'' || c == '"'

/-- The text between two quotes of one kind, or the whole text. -/
def unquote (s : List Char) : List Char :=
  match s with
  | quote :: rest =>
    if isQuote quote && rest.getLast? == some quote then rest.dropLast else s
  | [] => []

/-- The value and its unit, as the operator wants them. -/
def readValue (operator : Operator) (s : List Char) : Except Fault (String × String) :=
  match quantity? s with
  | some (number, unit) =>
    if isKnownUnit unit then .ok (number, unit)
    else if operator.isOrdering then .error (.unknownUnit unit)
    else .ok (String.ofList (unquote s), "")
  | none =>
    if operator.isOrdering then .error .notNumeric else .ok (String.ofList (unquote s), "")

def Clause.toThreshold (c : Clause) (raw : String) : Except Error Threshold :=
  match Operator.read? c.operator with
  | none => .error ⟨String.ofList c.operator, .unknownOperator⟩
  | some operator =>
    if c.value.isEmpty then .error ⟨raw, .missingValue⟩
    else
      match readValue operator c.value with
      | .error fault => .error ⟨raw, fault⟩
      | .ok (value, unit) =>
        let name := String.ofList c.name
        .ok ⟨if unit = "%" then withPercentMark name else name, operator, value, unit⟩

def read (raw : String) : Except Error Threshold :=
  let s := Text.trim raw.toList
  if s.isEmpty || saysNone s then .ok disabled
  else
    match Clause.read? s with
    | none => .error ⟨raw, .shape⟩
    | some clause => clause.toThreshold raw

example : read "load > 95%" = .ok ⟨"load_pct", .greater, "95", "%"⟩ := rfl

example : read "name not like 'a b'" = .ok ⟨"name", .notLike, "a b", ""⟩ := rfl

example : read "load > 5x" = .error ⟨"load > 5x", .unknownUnit "x"⟩ := rfl

end Threshold
end MonitorAgent
