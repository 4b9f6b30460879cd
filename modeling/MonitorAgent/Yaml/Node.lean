import MonitorAgent.Yaml.Token

/-!
# Nodes of YAML documents

A document is a tree of scalars, sequences and mappings.  An alias stands for the
last node before it that carries its name; such nodes are numbered in the order
in which they begin.  A node that is missing is an empty plain scalar.
-/

namespace MonitorAgent
namespace Yaml

inductive Node where
  | scalar (tag : Option (List Char)) (scalar : Scalar)
  | sequence (items : List Node)
  | mapping (entries : List (Node × Node))
  | alias (number : Nat)

/-- A document with its nodes that carry names. -/
structure Document where
  root : Node
  anchored : List (Nat × Node)

/-- Aliases refer to nodes, never to aliases. -/
def Document.resolve (d : Document) : Node → Option Node
  | .alias number => d.anchored.lookup number
  | node => some node

namespace Node

def empty : Node :=
  scalar none ⟨.plain, []⟩

/-- What the tokens of a document are read with: those left, the handles, the
names so far with the latest first, and the named nodes that are complete. -/
structure Source where
  tokens : List Token
  handles : List (List Char × List Char) := []
  names : List (List Char) := []
  anchored : List (Nat × Node) := []

abbrev Reader :=
  StateT Source Option

def peek : Reader (Option Token) :=
  return (← get).tokens.head?

def skip : Reader Unit :=
  modify fun source => { source with tokens := source.tokens.tail }

def take : Reader (Option Token) := do
  let token ← peek
  skip
  return token

/-- Passes a token if it comes next. -/
def accept (token : Token) : Reader Bool := do
  if (← peek) = some token then
    skip
    return true
  else return false

def expect (token : Token) : Reader Unit := do
  if !(← accept token) then failure

/-- What is read, unless one of these tokens shows that it is missing. -/
def orEmpty (missing : List Token) (read : Reader Node) : Reader Node := do
  match ← peek with
  | some token => if missing.contains token then return empty else read
  | none => read

structure Properties where
  name : Option (List Char) := none
  tag : Option (List Char) := none

def Properties.isEmpty (p : Properties) : Bool :=
  p.name.isNone && p.tag.isNone

def acceptName : Reader (Option (List Char)) := do
  match ← peek with
  | some (.anchor name) =>
    skip
    return some name
  | _ => return none

def acceptTag : Reader (Option (List Char)) := do
  match ← peek with
  | some (.tag tag) =>
    skip
    match tag.full? (← get).handles with
    | some full => return some full
    | none => failure
  | _ => return none

/-- A name and a tag, in either order. -/
def properties : Reader Properties := do
  let name ← acceptName
  let tag ← acceptTag
  if name.isNone then return ⟨← acceptName, tag⟩ else return ⟨name, tag⟩

/-- The number of the last node with a name. -/
def numberOf (name : List Char) : Reader Nat := do
  let names := (← get).names
  if names.contains name then return names.length - 1 - names.idxOf name else failure

/-- Reads a node that carries a name.  It may refer to itself. -/
def named (name : List Char) (read : Reader Node) : Reader Node := do
  let number := (← get).names.length
  modify fun source => { source with names := name :: source.names }
  let node ← read
  modify fun source => { source with anchored := (number, node) :: source.anchored }
  return node

/-- Where a node stands: between brackets, as an entry of a block or a document,
or as a key or value of a block. -/
inductive Setting where
  | flow
  | entry
  | pair
  deriving DecidableEq

def closesEntry : List Token :=
  [.entry, .blockEnd]

def closesPair : List Token :=
  [.key, .value, .blockEnd]

def closesItem : List Token :=
  [.comma, .flowSequenceEnd]

def closesFlowPair : List Token :=
  [.comma, .flowMappingEnd]

/-- A value behind its mark, or none. -/
def valueOf (missing : List Token) (read : Reader Node) : Reader Node := do
  if ← accept .value then orEmpty missing read else return empty

mutual

def node : Nat → Setting → Reader Node
  | 0, _ => failure
  | fuel + 1, setting => do
    match ← peek with
    | some (.alias name) =>
      skip
      return .alias (← numberOf name)
    | _ =>
      let p ← properties
      match p.name with
      | some name => named name (content fuel setting p)
      | none => content fuel setting p

/-- A node behind its properties. -/
def content : Nat → Setting → Properties → Reader Node
  | 0, _, _ => failure
  | fuel + 1, setting, p => do
    match ← peek with
    | some (.scalar s) =>
      skip
      return .scalar p.tag s
    | some .flowSequenceStart =>
      skip
      return .sequence (← flowItems fuel true)
    | some .flowMappingStart =>
      skip
      return .mapping (← flowEntries fuel true)
    | some .entry =>
      if setting = .pair then return .sequence (← bareItems fuel)
      else if p.isEmpty then failure
      else return .scalar p.tag ⟨.plain, []⟩
    | some .sequenceStart =>
      skip
      return .sequence (← items fuel)
    | some .mappingStart =>
      skip
      return .mapping (← entries fuel)
    | _ => if p.isEmpty then failure else return .scalar p.tag ⟨.plain, []⟩

/-- The items of a sequence in a block of its own. -/
def items : Nat → Reader (List Node)
  | 0 => failure
  | fuel + 1 => do
    match ← take with
    | some .entry =>
      let item ← orEmpty closesEntry (node fuel .entry)
      return item :: (← items fuel)
    | some .blockEnd => return []
    | _ => failure

/-- The items of a sequence at the margin of the mapping that it stands in. -/
def bareItems : Nat → Reader (List Node)
  | 0 => failure
  | fuel + 1 => do
    if ← accept .entry then
      let item ← orEmpty (.entry :: closesPair) (node fuel .entry)
      return item :: (← bareItems fuel)
    else return []

def entries : Nat → Reader (List (Node × Node))
  | 0 => failure
  | fuel + 1 => do
    match ← take with
    | some .key =>
      let key ← orEmpty closesPair (node fuel .pair)
      let value ← valueOf closesPair (node fuel .pair)
      return (key, value) :: (← entries fuel)
    | some .blockEnd => return []
    | _ => failure

/-- The items between brackets.  Commas stand between them, and may end them. -/
def flowItems : Nat → Bool → Reader (List Node)
  | 0, _ => failure
  | fuel + 1, isFirst => do
    if ← accept .flowSequenceEnd then return []
    else
      if !isFirst then expect .comma
      match ← peek with
      | some .key =>
        skip
        let pair ← flowPair fuel
        return pair :: (← flowItems fuel false)
      | some .flowSequenceEnd =>
        skip
        return []
      | _ =>
        let item ← node fuel .flow
        return item :: (← flowItems fuel false)

/-- A pair between brackets is a mapping by itself.  Where its key is missing, the
sign that shows this is passed over. -/
def flowPair : Nat → Reader Node
  | 0 => failure
  | fuel + 1 => do
    let key ←
      match ← peek with
      | some .value | some .comma | some .flowSequenceEnd =>
        skip
        pure empty
      | _ => node fuel .flow
    return .mapping [(key, ← valueOf closesItem (node fuel .flow))]

def flowEntries : Nat → Bool → Reader (List (Node × Node))
  | 0, _ => failure
  | fuel + 1, isFirst => do
    if ← accept .flowMappingEnd then return []
    else
      if !isFirst then expect .comma
      match ← peek with
      | some .key =>
        skip
        let key ← orEmpty (.value :: closesFlowPair) (node fuel .flow)
        let value ← valueOf closesFlowPair (node fuel .flow)
        return (key, value) :: (← flowEntries fuel false)
      | some .flowMappingEnd =>
        skip
        return []
      | _ =>
        let key ← node fuel .flow
        return (key, empty) :: (← flowEntries fuel false)

end

end Node
end Yaml
end MonitorAgent
