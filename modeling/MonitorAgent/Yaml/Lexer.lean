import MonitorAgent.Yaml.Token

/-!
# Reading tokens

A key is known as such only by the colon behind it.  So the place of whatever may
be one is remembered, one for each level of brackets, and when the colon comes a
mark, and the start of a mapping if need be, are put there.  A key ends on its
line and is not too long.  What stands alone at the margin of a block must be a
key.
-/

namespace MonitorAgent
namespace Yaml

/-- The longest key. -/
def keyLimit : Nat :=
  1024

/-- What may turn out to be a key: where it is in the text and among the tokens,
and whether it must be one. -/
structure PossibleKey where
  place : Place
  index : Nat
  isRequired : Bool
  deriving DecidableEq, Repr

/-- A key has ended unseen when the text has gone on to a place. -/
def PossibleKey.isPast (key : PossibleKey) (place : Place) : Bool :=
  key.place.line < place.line || key.place.column + keyLimit < place.column

structure Lexer where
  cursor : Cursor
  tokens : Array Token := #[]
  /-- The margins of the open blocks, the innermost first. -/
  margins : List Nat := []
  key : Option PossibleKey := none
  /-- Possible keys outside each open bracket, the innermost first. -/
  outerKeys : List (Option PossibleKey) := []
  /-- A key or an entry of a block may begin here. -/
  mayBegin : Bool := true

namespace Lexer

def inFlow (x : Lexer) : Bool :=
  !x.outerKeys.isEmpty

def column (x : Lexer) : Nat :=
  x.cursor.place.column

/-- The first column that is inside the innermost block. -/
def inside (x : Lexer) : Nat :=
  match x.margins with
  | [] => 0
  | margin :: _ => margin + 1

def push (x : Lexer) (token : Token) : Lexer :=
  { x with tokens := x.tokens.push token }

/-- A token that is written with so many characters. -/
def pushSign (x : Lexer) (length : Nat) (token : Token) : Lexer :=
  { x.push token with cursor := x.cursor.skip length }

/-- No key after all. -/
def dropKey? (x : Lexer) : Option Lexer :=
  if x.key.any (·.isRequired) then none else some { x with key := none }

/-- What comes next may be a key. -/
def noteKey? (x : Lexer) : Option Lexer :=
  if x.mayBegin then do
    let x ← x.dropKey?
    let isRequired := !x.inFlow && x.margins.head? = some x.column
    return { x with key := some ⟨x.cursor.place, x.tokens.size, isRequired⟩ }
  else some x

/-- Forgets keys that have ended unseen. -/
def dropPastKeys? (x : Lexer) : Option Lexer :=
  let isPast (key : PossibleKey) : Bool := key.isPast x.cursor.place
  if (x.key :: x.outerKeys).any fun key => key.any fun key => key.isRequired && isPast key then none
  else
    let remaining (key : Option PossibleKey) := key.filter (!isPast ·)
    some { x with key := remaining x.key, outerKeys := x.outerKeys.map remaining }

/-- Opens a block at a margin, if that is farther than those of the open blocks.
The start of the block becomes the token with the given index. -/
def openBlock (x : Lexer) (margin index : Nat) (start : Token) : Lexer :=
  if x.inFlow || margin < x.inside then x
  else
    { x with
      margins := margin :: x.margins
      tokens := x.tokens.insertIdxIfInBounds index start }

/-- Opens a block here. -/
def openHere? (x : Lexer) (start : Token) : Option Lexer :=
  if x.inFlow then some x
  else if x.mayBegin then some (x.openBlock x.column x.tokens.size start)
  else none

/-- Closes the blocks with margins beyond a column, all of them if there is none. -/
def closeBlocks (x : Lexer) (column : Option Nat) : Lexer :=
  if x.inFlow then x
  else
    let isClosed (margin : Nat) : Bool := column.all (· < margin)
    { x with
      margins := x.margins.dropWhile isClosed
      tokens := x.tokens ++ (x.margins.takeWhile isClosed).map fun _ => Token.blockEnd }

/-- Behind the blanks, breaks and comments that stand between tokens.  A tab must
not stand where a block may begin. -/
def approach (inFlow mayBegin inComment : Bool) (place : Place) : List Char → Bool × Cursor
  | [] => (mayBegin, ⟨place, []⟩)
  | c :: s =>
    if isBreak c then approach inFlow (mayBegin || !inFlow) false (place.after c) s
    else if inComment || c = ' ' || c = '\t' && (inFlow || !mayBegin) then
      approach inFlow mayBegin inComment (place.after c) s
    else if c = '#' then approach inFlow mayBegin true (place.after c) s
    else (mayBegin, ⟨place, c :: s⟩)

/-- Goes on to where the next token begins. -/
def advance? (x : Lexer) : Option Lexer := do
  let (mayBegin, cursor) := approach x.inFlow x.mayBegin false x.cursor.place x.cursor.rest
  let x ← { x with mayBegin, cursor : Lexer }.dropPastKeys?
  return x.closeBlocks (some x.column)

/-- Between documents no block is open and no key begins. -/
def leaveBlocks? (x : Lexer) : Option Lexer := do
  let x ← (x.closeBlocks none).dropKey?
  return { x with mayBegin := false }

def directive? (x : Lexer) : Option Lexer := do
  let x ← x.leaveBlocks?
  let (directive, cursor) ← Directive.read? x.cursor
  return { x.push (.directive directive) with cursor }

def boundary? (x : Lexer) (token : Token) : Option Lexer := do
  return (← x.leaveBlocks?).pushSign 3 token

def openFlow? (x : Lexer) (start : Token) : Option Lexer := do
  let x ← x.noteKey?
  return { x.pushSign 1 start with
    outerKeys := x.key :: x.outerKeys, key := none, mayBegin := true }

def closeFlow? (x : Lexer) (final : Token) : Option Lexer := do
  let x := (← x.dropKey?).pushSign 1 final
  match x.outerKeys with
  | [] => return { x with mayBegin := false }
  | key :: outerKeys => return { x with key, outerKeys, mayBegin := false }

def comma? (x : Lexer) : Option Lexer := do
  return { (← x.dropKey?).pushSign 1 .comma with mayBegin := true }

def entry? (x : Lexer) : Option Lexer := do
  let x ← (← x.openHere? .sequenceStart).dropKey?
  return { x.pushSign 1 .entry with mayBegin := true }

/-- A key that is marked as such. -/
def markedKey? (x : Lexer) : Option Lexer := do
  let x ← (← x.openHere? .mappingStart).dropKey?
  return { x.pushSign 1 .key with mayBegin := !x.inFlow }

def value? (x : Lexer) : Option Lexer :=
  match x.key with
  | some key =>
    let x := { x with tokens := x.tokens.insertIdxIfInBounds key.index .key }
    let x := x.openBlock key.place.column key.index .mappingStart
    some { x.pushSign 1 .value with key := none, mayBegin := false }
  | none => do
    let x ← x.openHere? .mappingStart
    return { x.pushSign 1 .value with mayBegin := !x.inFlow }

/-- A token that may begin a key. -/
def word? (x : Lexer) (read : Cursor → Option (Token × Cursor)) : Option Lexer := do
  let x ← x.noteKey?
  let (token, cursor) ← read x.cursor
  return { x.push token with cursor, mayBegin := false }

def quoted? (x : Lexer) (quote : Char) : Option Lexer :=
  x.word? fun k => do
    let k := k.skip 1
    let (text, k) ← Quoted.read quote .none .empty k.place k.rest
    return (.scalar ⟨.quoted, text⟩, k)

def plain? (x : Lexer) : Option Lexer := do
  let x ← x.noteKey?
  let (text, mayBegin, cursor) ←
    Plain.read ⟨x.inFlow, x.inside⟩ .empty x.cursor.place x.cursor.rest
  return { x.push (.scalar ⟨.plain, text⟩) with cursor, mayBegin }

def block? (x : Lexer) (style : Style) : Option Lexer := do
  let x ← x.dropKey?
  let (text, cursor) ← Block.read (style == .folded) x.inside (x.cursor.skip 1)
  return { x.push (.scalar ⟨style, text⟩) with cursor, mayBegin := true }

/-- A word that starts with one of these signs is no plain scalar. -/
def isSign (c : Char) : Bool :=
  "-?:,[]\x7b\x7d#&*!|>'\"%@`".toList.contains c

/-- Some signs may start a plain scalar as well, where no gap follows. -/
def beginsPlain (x : Lexer) (c : Char) : Bool :=
  !isGap c && !isSign c || c == '-' || !x.inFlow && (c == '?' || c == ':')

/-- The token that begins with a character. -/
def token? (x : Lexer) (c : Char) (s : List Char) : Option Lexer :=
  if x.column = 0 && c == '%' then x.directive?
  else if x.column = 0 && beginsDocument (c :: s) then x.boundary? .documentStart
  else if x.column = 0 && endsDocument (c :: s) then x.boundary? .documentEnd
  else if c == '-' && endsWord s then x.entry?
  else if c == '?' && (x.inFlow || endsWord s) then x.markedKey?
  else if c == ':' && (x.inFlow || endsWord s) then x.value?
  else
    match c with
    | '[' => x.openFlow? .flowSequenceStart
    | ']' => x.closeFlow? .flowSequenceEnd
    | '\x7b' => x.openFlow? .flowMappingStart
    | '\x7d' => x.closeFlow? .flowMappingEnd
    | ',' => x.comma?
    | '&' => x.word? fun k => (name? (k.skip 1)).map fun (name, k) => (.anchor name, k)
    | '*' => x.word? fun k => (name? (k.skip 1)).map fun (name, k) => (.alias name, k)
    | '!' => x.word? fun k => (Tag.read? x.inFlow k).map fun (tag, k) => (.tag tag, k)
    | '\'' | '"' => x.quoted? c
    | _ =>
      if c == '|' && !x.inFlow then x.block? .literal
      else if c == '>' && !x.inFlow then x.block? .folded
      else if x.beginsPlain c then x.plain?
      else none

/-- Reads on to the end, with all blocks closed there. -/
def run? (x : Lexer) : Option (List Token) :=
  match x.advance? with
  | none => none
  | some y =>
    match y.cursor.rest with
    | [] => y.leaveBlocks?.map (·.tokens.toList)
    | c :: s =>
      match y.token? c s with
      | none => none
      | some z => if z.cursor.rest.length < x.cursor.rest.length then run? z else none
termination_by x.cursor.rest.length

end Lexer

def tokens? (s : List Char) : Option (List Token) :=
  if s.all isPermitted then Lexer.run? ⟨.start (withPlainBreaks s), #[], [], none, [], true⟩
  else none

end Yaml
end MonitorAgent
