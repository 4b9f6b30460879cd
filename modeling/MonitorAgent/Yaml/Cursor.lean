/-!
# Places in a YAML text

Breaks between lines are made the same before a text is read, save the two
separators of lines and of paragraphs.  A cursor is a place in the text and what
follows it; columns count from the last break.
-/

namespace MonitorAgent
namespace Yaml

/-- Characters that a text may hold. -/
def isPermitted (c : Char) : Bool :=
  let n := c.toNat
  n == 9 || n == 0xA || n == 0xD || (0x20 ≤ n && n ≤ 0x7E) || n == 0x85 ||
    (0xA0 ≤ n && n ≤ 0xFFFD) || 0x10000 ≤ n

def isBreak (c : Char) : Bool :=
  c == '\n' || c == '\u2028' || c == '\u2029'

def isBlank (c : Char) : Bool :=
  c == ' ' || c == '\t'

def isGap (c : Char) : Bool :=
  isBlank c || isBreak c

/-- The text with one kind of break in place of four. -/
def withPlainBreaks : List Char → List Char
  | '\r' :: '\n' :: s => '\n' :: withPlainBreaks s
  | '\r' :: s => '\n' :: withPlainBreaks s
  | c :: s => (if c = '\u0085' then '\n' else c) :: withPlainBreaks s
  | [] => []

/-- A word ends where a gap or the end of the text comes. -/
def endsWord : List Char → Bool
  | [] => true
  | c :: _ => isGap c

def beginsDocument (s : List Char) : Bool :=
  ['-', '-', '-'].isPrefixOf s && endsWord (s.drop 3)

def endsDocument (s : List Char) : Bool :=
  ['.', '.', '.'].isPrefixOf s && endsWord (s.drop 3)

/-- At the first column this is a mark between documents. -/
def isBoundary (s : List Char) : Bool :=
  beginsDocument s || endsDocument s

structure Place where
  line : Nat := 0
  column : Nat := 0
  deriving DecidableEq, Repr

/-- The place behind a character. -/
def Place.after (p : Place) (c : Char) : Place :=
  if isBreak c then ⟨p.line + 1, 0⟩ else ⟨p.line, p.column + 1⟩

structure Cursor where
  place : Place := {}
  rest : List Char
  deriving DecidableEq, Repr

namespace Cursor

/-- The start of a text.  A byte order mark takes a column. -/
def start : List Char → Cursor
  | '\uFEFF' :: s => ⟨⟨0, 1⟩, s⟩
  | s => ⟨{}, s⟩

/-- Behind the next characters, so many of them. -/
def skip (k : Cursor) (n : Nat) : Cursor :=
  ⟨(k.rest.take n).foldl Place.after k.place, k.rest.drop n⟩

def skipWhile (k : Cursor) (p : Char → Bool) : Cursor :=
  ⟨(k.rest.takeWhile p).foldl Place.after k.place, k.rest.dropWhile p⟩

/-- The longest run of such characters, and what is behind it. -/
def span (k : Cursor) (p : Char → Bool) : List Char × Cursor :=
  (k.rest.takeWhile p, k.skipWhile p)

/-- Behind a character that must come next. -/
def past? (k : Cursor) (c : Char) : Option Cursor :=
  if k.rest.head? = some c then some (k.skip 1) else none

def skipComment (k : Cursor) : Cursor :=
  if k.rest.head? = some '#' then k.skipWhile (!isBreak ·) else k

/-- Behind the end of a line on which only blanks and a comment are left. -/
def endLine? (k : Cursor) : Option Cursor :=
  let k := (k.skipWhile isBlank).skipComment
  match k.rest with
  | [] => some k
  | c :: _ => if isBreak c then some (k.skip 1) else none

end Cursor
end Yaml
end MonitorAgent
