import MonitorAgent.Text.HexDigit
import MonitorAgent.Yaml.Cursor

/-!
# Anchors and tags

A node may carry a name, by which it can be referred to, and a tag, which tells
what it is.  A tag is written in full between angle brackets or as a handle,
which stands for the start of a tag, and the rest.
-/

namespace MonitorAgent
namespace Yaml

def isNameCharacter (c : Char) : Bool :=
  c.isAlphanum || c == '_' || c == '-'

/-- A name ends at a gap, at the end and before these signs. -/
def endsName (s : List Char) : Bool :=
  endsWord s || s.head?.any ("?:,]\x7d%@`".toList.contains ·)

/-- The name behind the sign of an anchor. -/
def name? (k : Cursor) : Option (List Char × Cursor) :=
  let (name, k) := k.span isNameCharacter
  if name.isEmpty || !endsName k.rest then none else some (name, k)

/-- A handle, which is empty for a tag in full, and what it is followed by. -/
structure Tag where
  handle : List Char
  suffix : List Char
  deriving DecidableEq, Repr

namespace Tag

def isLetter (c : Char) : Bool :=
  isNameCharacter c || ";/?:@&=+$.%!~*'()".toList.contains c

/-- Commas and brackets may stand between angle brackets only. -/
def isLongLetter (c : Char) : Bool :=
  isLetter c || c == ',' || c == '[' || c == ']'

/-- How many bytes follow a first one. -/
def following? (byte : Nat) : Option Nat :=
  if byte < 0x80 then some 0
  else if byte < 0xC0 then none
  else if byte < 0xE0 then some 1
  else if byte < 0xF0 then some 2
  else if byte < 0xF8 then some 3
  else none

/-- The letters of a tag, some of which are escaped byte by byte.  Escaped
characters of more than one byte are not told apart. -/
def letters? (following : Nat) : List Char → Option (List Char)
  | [] => if following = 0 then some [] else none
  | '%' :: high :: low :: s => do
    let byte := 16 * (← Text.hexValue? high) + (← Text.hexValue? low)
    if following = 0 then
      let following ← following? byte
      let c := if following = 0 then Char.ofNat byte else '\uFFFD'
      return c :: (← letters? following s)
    else if 0x80 ≤ byte ∧ byte < 0xC0 then letters? (following - 1) s
    else none
  | c :: s => if c = '%' || following ≠ 0 then none else (letters? 0 s).map (c :: ·)

/-- A tag between angle brackets, from its first letter on. -/
def long? (k : Cursor) : Option (Tag × Cursor) := do
  let (s, k) := k.span isLongLetter
  if s.isEmpty then none
  else return (⟨[], ← letters? 0 s⟩, ← k.past? '>')

/-- A handle between two exclamation marks, from behind the first. -/
def handle? (k : Cursor) : Option (List Char × Cursor) := do
  let (name, k) := k.span isNameCharacter
  return ('!' :: name ++ ['!'], ← k.past? '!')

/-- A tag with a handle, from behind its first exclamation mark. -/
def short? (k : Cursor) : Option (Tag × Cursor) :=
  match handle? k with
  | some (handle, k) => do
    let (s, k) := k.span isLetter
    if s.isEmpty then none else return (⟨handle, ← letters? 0 s⟩, k)
  | none =>
    let (s, k) := k.span isLetter
    if s.isEmpty then some (⟨[], ['!']⟩, k) else (letters? 0 s).map fun s => (⟨['!'], s⟩, k)

/-- A tag from its exclamation mark on. -/
def read? (inFlow : Bool) (k : Cursor) : Option (Tag × Cursor) := do
  let k ← k.past? '!'
  let (tag, k) ←
    match k.past? '<' with
    | some k => long? k
    | none => short? k
  if endsWord k.rest || inFlow && k.rest.head? = some ',' then return (tag, k) else none

end Tag

/-- The handles that are known without being declared. -/
def standardHandles : List (List Char × List Char) :=
  [(['!'], ['!']), (['!', '!'], "tag:yaml.org,2002:".toList)]

/-- The tag in full, if its handle is known. -/
def Tag.full? (handles : List (List Char × List Char)) (tag : Tag) : Option (List Char) :=
  if tag.handle.isEmpty then some tag.suffix
  else (handles.lookup tag.handle).map (· ++ tag.suffix)

example : (Tag.read? false ⟨{}, "!!int 5".toList⟩).bind (·.1.full? standardHandles) =
    some "tag:yaml.org,2002:int".toList := by
  decide +kernel

end Yaml
end MonitorAgent
