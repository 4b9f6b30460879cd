import MonitorAgent.Text.Cut

/-!
# Switches

A command line is a list of words.  A switch is written with two dashes and its
name, or with one dash and its letter; it takes no value, one value or as many
as follow.  A value may also stand behind an equals sign, or directly behind the
letter.  After two dashes alone there are no more switches.

A switch waits for its values and is settled when the next one comes, so the
first fault is not always that of the first word that is at fault.
-/

namespace MonitorAgent
namespace CommandLine

/-- Why a command line is not carried out. -/
inductive Fault where
  | unknownArgument
  | unknownCommand
  | missingArgument
  | missingValue
  | invalidValue
  | repeated
  | needlessValue
  | help
  | version
  deriving DecidableEq, Repr

inductive Arity where
  | none
  | one
  | many
  deriving DecidableEq, Repr

/-- A switch; one that `stops` is answered with that at once. -/
structure Switch where
  name : String
  letter : Option Char := none
  arity : Arity := .none
  stops : Option Fault := none
  isValid : String → Bool := fun _ => true

/-- What may stand on a command line. -/
structure Grammar where
  switches : List Switch
  commands : List String := []
  takesWords : Bool := false

/-- What has been read: the values of settled switches, a switch that waits to be
settled, whether it takes the next word, and the words that belong to none. -/
structure Reading where
  given : List (String × List String) := []
  pending : Option (Switch × List String) := none
  isOpen : Bool := false
  words : List String := []

namespace Reading

def valuesOf? (r : Reading) (name : String) : Option (List String) :=
  r.given.lookup name

/-- The last value given with a switch, or a standard one. -/
def valueOr (r : Reading) (name default : String) : String :=
  ((r.valuesOf? name).bind List.getLast?).getD default

/-- Notes the values of a switch.  Only one with many values may be given again. -/
def record (r : Reading) (s : Switch) (values : List String) : Except Fault Reading :=
  match s.arity, r.valuesOf? s.name with
  | .many, earlier => .ok { r with given := (s.name, earlier.getD [] ++ values) :: r.given }
  | _, some _ => .error .repeated
  | _, none =>
    if values.all s.isValid then .ok { r with given := (s.name, values) :: r.given }
    else .error .invalidValue

/-- Settles the switch that waits. -/
def settle (r : Reading) : Except Fault Reading :=
  match r.pending with
  | none => .ok r
  | some (s, values) =>
    if s.arity = .one ∧ values.isEmpty then .error .missingValue
    else { r with pending := none, isOpen := false : Reading }.record s values

/-- Begins a switch, which may have a value attached to it. -/
def start (r : Reading) (s : Switch) (attached : Option String) : Except Fault Reading :=
  match s.arity, attached with
  | .none, some _ => .error .needlessValue
  | .none, none => do
    let r ← r.settle
    match s.stops with
    | some fault => .error fault
    | none => r.record s []
  | _, some value => do
    let r ← r.settle
    r.record s [value]
  | _, none => do
    let r ← r.settle
    return { r with pending := some (s, []), isOpen := true }

/-- Gives a word to the switch that takes it. -/
def feed (r : Reading) (word : String) : Reading :=
  match r.pending with
  | none => r
  | some (s, values) =>
    { r with pending := some (s, values ++ [word]), isOpen := s.arity = .many }

end Reading

namespace Grammar

def named? (g : Grammar) (name : List Char) : Option Switch :=
  g.switches.find? fun s => s.name == String.ofList name

def lettered? (g : Grammar) (letter : Char) : Option Switch :=
  g.switches.find? fun s => s.letter == some letter

/-- A switch by its name, with a value behind an equals sign. -/
def long (g : Grammar) (r : Reading) (s : List Char) : Except Fault Reading :=
  let (name, value) :=
    match Text.cut '=' s with
    | some (name, value) => (name, some (String.ofList value))
    | none => (s, none)
  match g.named? name with
  | none => .error .unknownArgument
  | some switch => r.start switch value

/-- A value directly behind a letter, or behind an equals sign. -/
def attached : List Char → Option String
  | [] => none
  | '=' :: s => some (String.ofList s)
  | s => some (String.ofList s)

/-- Switches by their letters, of which the last may have a value. -/
def short (g : Grammar) (r : Reading) : List Char → Except Fault Reading
  | [] => .ok r
  | letter :: s =>
    match g.lettered? letter with
    | none => .error .unknownArgument
    | some switch =>
      if switch.arity = .none then
        match r.start switch none with
        | .error fault => .error fault
        | .ok r => g.short r s
      else r.start switch (attached s)

/-- A word that is no switch and no value. -/
def loose (g : Grammar) (r : Reading) (afterDashes : Bool) (word : String) :
    Except Fault Reading :=
  if g.takesWords then do
    let r ← r.settle
    return { r with words := r.words ++ [word] }
  else if g.commands.isEmpty || (afterDashes && g.commands.contains word) then
    .error .unknownArgument
  else .error .unknownCommand

def word (g : Grammar) (r : Reading) (word : String) : Except Fault Reading :=
  match word.toList with
  | '-' :: '-' :: s => g.long r s
  | '-' :: c :: s => g.short r (c :: s)
  | _ => if r.isOpen then .ok (r.feed word) else g.loose r false word

/-- Reads up to a command or the end; a command is returned with what follows it. -/
def read (g : Grammar) (r : Reading) (afterDashes : Bool) :
    List String → Except Fault (Reading × Option (String × List String))
  | [] => .ok (r, none)
  | word :: rest =>
    if afterDashes then
      match g.loose r true word with
      | .error fault => .error fault
      | .ok r => g.read r true rest
    else if !r.isOpen && g.commands.contains word then .ok (r, some (word, rest))
    else if word = "--" then g.read r true rest
    else
      match g.word r word with
      | .error fault => .error fault
      | .ok r => g.read r false rest

/-- Reads a command line without commands. -/
def readAll (g : Grammar) (argv : List String) : Except Fault Reading := do
  let (r, _) ← g.read {} false argv
  r.settle

end Grammar
end CommandLine
end MonitorAgent
