import MonitorAgent.Text.HexDigit
import MonitorAgent.Yaml.Folding

/-!
# Plain and quoted scalars

A plain scalar goes on as long as its lines are indented; it ends before a
comment, a colon at the end of a word and, within brackets, before a comma or a
bracket.  A quoted scalar goes on to its closing quote.  Between single quotes a
quote is written twice, between double quotes a backslash escapes.
-/

namespace MonitorAgent
namespace Yaml

inductive Style where
  | plain
  | quoted
  | literal
  | folded
  deriving DecidableEq, Repr

structure Scalar where
  style : Style
  text : List Char
  deriving DecidableEq, Repr

def isBracket (c : Char) : Bool :=
  c == '[' || c == ']' || c == '\x7b' || c == '\x7d'

/-- Adds text before what a reader has found. -/
def prepend (text : List Char) : Option (List Char × α) → Option (List Char × α) :=
  Option.map fun (found, a) => (text ++ found, a)

namespace Plain

/-- A scalar within brackets, or one whose further lines have a least column. -/
structure Setting where
  inFlow : Bool
  margin : Nat

/-- Behind a gap the scalar ends at a line that is not indented, a mark between
documents or a comment. -/
def endsBehind (x : Setting) (gap : Gap) (place : Place) (s : List Char) : Bool :=
  !gap.isEmpty &&
    (!x.inFlow && place.column < x.margin || place.column = 0 && isBoundary s ||
      s.head? = some '#')

def endsBefore (x : Setting) (c : Char) (s : List Char) : Bool :=
  c == ':' && endsWord s || x.inFlow && (c == ',' || isBracket c)

/-- Within brackets these must not follow a colon in a word. -/
def isMisplaced (x : Setting) (c : Char) (s : List Char) : Bool :=
  x.inFlow && c == ':' && s.head?.any fun d => d == ',' || d == '?' || isBracket d

/-- The scalar, whether a break was left behind it, and where it ends. -/
def read (x : Setting) (gap : Gap) (place : Place) :
    List Char → Option (List Char × Bool × Cursor)
  | [] => some ([], gap.hasBreak, ⟨place, []⟩)
  | c :: s =>
    if isGap c then
      if c = '\t' && gap.hasBreak && place.column < x.margin then none
      else read x (gap.push c) (place.after c) s
    else if endsBehind x gap place (c :: s) then some ([], gap.hasBreak, ⟨place, c :: s⟩)
    else if isMisplaced x c s then none
    else if endsBefore x c s then some ([], gap.hasBreak, ⟨place, c :: s⟩)
    else prepend (gap.text ++ [c]) (read x .empty (place.after c) s)

end Plain

namespace Quoted

/-- What a character stands for behind a backslash. -/
def escaped? : Char → Option Char
  | '0' => some '\x00'
  | 'a' => some '\x07'
  | 'b' => some '\x08'
  | 't' | '\t' => some '\t'
  | 'n' => some '\n'
  | 'v' => some '\x0b'
  | 'f' => some '\x0c'
  | 'r' => some '\r'
  | 'e' => some '\x1b'
  | ' ' => some ' '
  | '"' => some '"'
  | '/' => some '/'
  | '\\' => some '\\'
  | 'N' => some '\u0085'
  | '_' => some '\u00a0'
  | 'L' => some '\u2028'
  | 'P' => some '\u2029'
  | _ => none

/-- How many hexadecimal digits follow such a letter. -/
def codeLength? : Char → Option Nat
  | 'x' => some 2
  | 'u' => some 4
  | 'U' => some 8
  | _ => none

def character? (n : Nat) : Option Char :=
  if n.isValidChar then some (Char.ofNat n) else none

/-- How far an escape has been read. -/
inductive Escape where
  | none
  /-- The next character is escaped. -/
  | begun
  /-- A code with digits missing, and its value so far. -/
  | code (missing value : Nat)

/-- The scalar up to its closing quote. -/
def read (quote : Char) (escape : Escape) (gap : Gap) (place : Place) :
    List Char → Option (List Char × Cursor)
  | [] => none
  | c :: s =>
    match escape with
    | .code missing value =>
      match Text.hexValue? c with
      | none => none
      | some digit =>
        let value := 16 * value + digit
        if missing = 1 then
          match character? value with
          | none => none
          | some d => prepend [d] (read quote .none .empty (place.after c) s)
        else read quote (.code (missing - 1) value) .empty (place.after c) s
    | .begun =>
      if quote = '\'' then prepend [c] (read quote .none .empty (place.after c) s)
      else if isBreak c then read quote .none (.breaks none []) (place.after c) s
      else
        match codeLength? c with
        | some missing => read quote (.code missing 0) .empty (place.after c) s
        | none =>
          match escaped? c with
          | none => none
          | some d => prepend [d] (read quote .none .empty (place.after c) s)
    | .none =>
      if isGap c then read quote .none (gap.push c) (place.after c) s
      else if place.column = 0 && isBoundary (c :: s) then none
      else if c = quote then
        if quote = '\'' && s.head? = some '\'' then
          prepend gap.text (read quote .begun .empty (place.after c) s)
        else some (gap.text, ⟨place.after c, s⟩)
      else if quote = '"' && c = '\\' then
        prepend gap.text (read quote .begun .empty (place.after c) s)
      else prepend (gap.text ++ [c]) (read quote .none .empty (place.after c) s)

end Quoted

example : (Plain.read ⟨false, 1⟩ .empty {} "a b\n  c: d".toList).map (·.1) = some "a b c".toList := by
  decide +kernel

example : (Quoted.read '\'' .none .empty {} "it''s ' x".toList).map (·.1) =
    some "it's ".toList := by
  decide +kernel

example : (Quoted.read '"' .none .empty {} "\\x41\\\n  b\"".toList).map (·.1) = some "Ab".toList := by
  decide +kernel

end Yaml
end MonitorAgent
