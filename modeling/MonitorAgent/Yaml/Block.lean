import MonitorAgent.Yaml.Scalar

/-!
# Block scalars

A block scalar has a header of its own line, and then lines that start at its
margin, which the header tells or the first line that is not empty shows.  A
literal block keeps its breaks; in a folded block a single break between two
lines that do not start with a blank becomes a space.  The header also tells
whether the breaks at the end are kept.
-/

namespace MonitorAgent
namespace Yaml
namespace Block

/-- The breaks at the end that are kept: the first, none or all. -/
inductive Chomping where
  | clip
  | strip
  | keep
  deriving DecidableEq, Repr

structure Header where
  chomping : Chomping := .clip
  /-- How far the margin is from that of the enclosing block. -/
  step : Option Nat := none
  deriving DecidableEq, Repr

def chomping? : List Char → Option Chomping
  | '-' :: _ => some .strip
  | '+' :: _ => some .keep
  | _ => none

def step? : List Char → Option Nat
  | c :: _ => if '1' ≤ c ∧ c ≤ '9' then some (Decimal.digitValue c) else none
  | [] => none

/-- Its two marks may stand in either order. -/
def Header.read (k : Cursor) : Header × Cursor :=
  match chomping? k.rest, step? k.rest with
  | some chomping, _ =>
    let k := k.skip 1
    match step? k.rest with
    | some step => ({ chomping, step }, k.skip 1)
    | none => ({ chomping }, k)
  | none, some step =>
    let k := k.skip 1
    match chomping? k.rest with
    | some chomping => ({ chomping, step }, k.skip 1)
    | none => ({ step }, k)
  | none, none => ({}, k)

/-- The empty lines before the first line, and the widest of all these columns. -/
def leading (widest : Nat) (place : Place) : List Char → Option (List Char × Nat × Cursor)
  | [] => some ([], max widest place.column, ⟨place, []⟩)
  | c :: s =>
    if c = ' ' then leading widest (place.after c) s
    else if c = '\t' then none
    else if isBreak c then prepend [c] (leading (max widest place.column) (place.after c) s)
    else some ([], max widest place.column, ⟨place, c :: s⟩)

structure Setting where
  isFolded : Bool
  chomping : Chomping
  margin : Nat

/-- The breaks before a line: the one that ended the line before, which may have
started with a blank, and those of empty lines. -/
structure Between where
  first : Option Char := none
  more : List Char := []
  behindBlank : Bool := false

def Between.push (b : Between) (c : Char) : Between :=
  { b with more := b.more ++ [c] }

/-- What becomes of the breaks before a line that starts with a character. -/
def Between.before (x : Setting) (b : Between) (c : Char) : List Char :=
  if x.isFolded && b.first = some '\n' && !b.behindBlank && !isBlank c then
    if b.more.isEmpty then [' '] else b.more
  else b.first.toList ++ b.more

/-- What becomes of the breaks at the end. -/
def Between.final (x : Setting) (b : Between) : List Char :=
  match x.chomping with
  | .clip => b.first.toList
  | .strip => []
  | .keep => b.first.toList ++ b.more

mutual

/-- The rest of a line and the lines behind it; the line may have started with a
blank. -/
def line (x : Setting) (startsBlank : Bool) (place : Place) :
    List Char → Option (List Char × Cursor)
  | [] => some ([], ⟨place, []⟩)
  | c :: s =>
    if isBreak c then margin x ⟨some c, [], startsBlank⟩ (place.after c) s
    else prepend [c] (line x startsBlank (place.after c) s)

/-- The lines from the start of one. -/
def margin (x : Setting) (between : Between) (place : Place) :
    List Char → Option (List Char × Cursor)
  | [] => some (between.final x, ⟨place, []⟩)
  | c :: s =>
    if place.column < x.margin && c = ' ' then margin x between (place.after c) s
    else if place.column < x.margin && c = '\t' then none
    else if isBreak c then margin x (between.push c) (place.after c) s
    else if place.column = x.margin then
      prepend (between.before x c ++ [c]) (line x (isBlank c) (place.after c) s)
    else some (between.final x, ⟨place, c :: s⟩)

end

/-- A block from behind its sign, where the enclosing block leaves the columns
from `least` on. -/
def read (isFolded : Bool) (least : Nat) (k : Cursor) : Option (List Char × Cursor) := do
  let (header, k) := Header.read k
  let k ← k.endLine?
  match header.step with
  | some step => margin ⟨isFolded, header.chomping, least - 1 + step⟩ {} k.place k.rest
  | none =>
    let (breaks, widest, k) ← leading 0 k.place k.rest
    margin ⟨isFolded, header.chomping, max 1 (max widest least)⟩ { more := breaks } k.place k.rest

example : (read false 1 ⟨{}, "-\n  a\n   b\n\n".toList⟩).map (·.1) = some "a\n b".toList := by
  decide +kernel

example : (read true 1 ⟨{}, "\n  a\n  b\n\n  c\n".toList⟩).map (·.1) =
    some "a b\nc\n".toList := by
  decide +kernel

end Block
end Yaml
end MonitorAgent
