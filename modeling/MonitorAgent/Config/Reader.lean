import MonitorAgent.Config.Basic
import MonitorAgent.Text.Utf8
import MonitorAgent.Yaml.Document

/-!
# Reading configurations

A configuration is a YAML mapping.  Keys that are not known are passed over,
known ones must not come twice.  Any scalar is a text; switches and numbers are
not quoted.  What is valid YAML of the right shape is then checked.
-/

namespace MonitorAgent
namespace Config

open Yaml (Document Node Scalar)

/-- Why a file is no configuration. -/
inductive LoadFault where
  | missing
  | notUtf8
  | malformed
  | invalid (fault : Fault)
  deriving DecidableEq, Repr

/-- A file is named in what is told of it; what is wrong with its YAML is left to
the reader. -/
def LoadFault.message (path : String) : LoadFault → String
  | missing => "failed to read config file " ++ path ++ ": No such file or directory (os error 2)"
  | notUtf8 => "failed to read config file " ++ path ++ ": stream did not contain valid UTF-8"
  | malformed => "failed to parse YAML in " ++ path
  | invalid fault => fault.message

namespace Reader

/-- An empty plain scalar is an empty collection as well. -/
def isNothing (s : Scalar) : Bool :=
  s.style = .plain && s.text.isEmpty

def text? (d : Document) (n : Node) : Option String := do
  match ← d.resolve n with
  | .scalar _ s => return String.ofList s.text
  | _ => none

/-- The text of a scalar that is not quoted.  A literal block must have a tag. -/
def bareText? (tag : String) (d : Document) (n : Node) : Option (List Char) := do
  match ← d.resolve n with
  | .scalar given s =>
    if s.style = .plain || s.style = .literal && given = some tag.toList then return s.text
    else none
  | _ => none

def switchOf? (s : List Char) : Option Bool :=
  if ["true", "True", "TRUE"].contains (String.ofList s) then some true
  else if ["false", "False", "FALSE"].contains (String.ofList s) then some false
  else none

def switch? (d : Document) (n : Node) : Option Bool := do
  switchOf? (← bareText? "tag:yaml.org,2002:bool" d n)

/-- A digit below the base. -/
def digit? (base : Nat) (c : Char) : Option Nat :=
  (Text.hexValue? c).filter (· < base)

/-- Digits of a base, one at least, as a word of 64 bits. -/
def digits? (base : Nat) (s : List Char) : Option UInt64 := do
  if s.isEmpty then none
  else
    let n := (← s.mapM (digit? base)).foldl (fun n digit => base * n + digit) 0
    if n < UInt64.size then some (UInt64.ofNat n) else none

/-- A number may have a plus sign and then the mark of its base; a decimal number
of several digits does not start with a zero. -/
def numberOf? (s : List Char) : Option UInt64 :=
  let s := if s.head? = some '+' then s.tail else s
  match s with
  | '0' :: 'x' :: s => digits? 16 s
  | '0' :: 'o' :: s => digits? 8 s
  | '0' :: 'b' :: s => digits? 2 s
  | '0' :: _ :: _ => none
  | s => digits? 10 s

def number? (d : Document) (n : Node) : Option UInt64 := do
  numberOf? (← bareText? "tag:yaml.org,2002:int" d n)

def texts? (d : Document) (n : Node) : Option (List String) := do
  match ← d.resolve n with
  | .sequence items => items.mapM (text? d)
  | .scalar _ s => if isNothing s then return [] else none
  | _ => none

/-- The entries of a mapping, whose keys are texts. -/
def entries? (d : Document) (n : Node) : Option (List (String × Node)) := do
  match ← d.resolve n with
  | .mapping entries => entries.mapM fun (key, value) => return (← text? d key, value)
  | .scalar _ s => if isNothing s then return [] else none
  | _ => none

/-- What an entry holds, if it is there.  It must not be there twice. -/
def optional? (entries : List (String × Node)) (key : String) (read : Node → Option α) :
    Option (Option α) :=
  match entries.filter fun entry => entry.1 = key with
  | [] => some none
  | [(_, value)] => (read value).map some
  | _ => none

def required? (entries : List (String × Node)) (key : String) (read : Node → Option α) :
    Option α :=
  (optional? entries key read).join

end Reader

open Reader

def Requests.ofNode? (d : Document) (n : Node) : Option Requests := do
  let entries ← entries? d n
  let standard : Requests := {}
  return {
    enabled := (← optional? entries "enabled" (switch? d)).getD standard.enabled
    listen := (← optional? entries "listen" (text? d)).getD standard.listen
    timeout := (← optional? entries "timeout" (text? d)).getD standard.timeout
    allowedHosts := (← optional? entries "allowed_hosts" (texts? d)).getD standard.allowedHosts
    allowArguments :=
      (← optional? entries "allow_arguments" (switch? d)).getD standard.allowArguments
    allowNastyCharacters :=
      (← optional? entries "allow_nasty_characters" (switch? d)).getD
        standard.allowNastyCharacters }

def ofDocument? (d : Document) : Option Config := do
  let entries ← entries? d d.root
  return {
    listen := ← required? entries "listen" (text? d)
    interval := ← required? entries "interval_secs" (number? d)
    requests := (← optional? entries "nrpe" (Requests.ofNode? d)).getD {} }

def ofText (text : List Char) : Except LoadFault Config :=
  match (Document.read? text).bind ofDocument? with
  | none => .error .malformed
  | some config =>
    match config.fault? with
    | some fault => .error (.invalid fault)
    | none => .ok config

/-- A configuration from the bytes of a file, or of none. -/
def ofFile : Option (List UInt8) → Except LoadFault Config
  | none => .error .missing
  | some bytes =>
    match Text.Utf8.decode? bytes with
    | none => .error .notUtf8
    | some text => ofText text

end Config
end MonitorAgent
