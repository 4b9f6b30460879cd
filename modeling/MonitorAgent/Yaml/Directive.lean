import MonitorAgent.Yaml.Property

/-!
# Directives

Before a document a line may tell the version of the language or declare a
handle.
-/

namespace MonitorAgent
namespace Yaml

inductive Directive where
  | version
  | handle (handle : List Char) (start : List Char)
  deriving DecidableEq, Repr

namespace Directive

/-- A number of at most nine digits. -/
def number? (k : Cursor) : Option (Nat × Cursor) :=
  let (digits, k) := k.span Char.isDigit
  if digits.isEmpty || digits.length > 9 then none else some (Decimal.natOfDigits digits, k)

/-- Versions 1.1 and 1.2 are known. -/
def version? (k : Cursor) : Option (Directive × Cursor) := do
  let (major, k) ← number? (k.skipWhile isBlank)
  let (minor, k) ← number? (← k.past? '.')
  if major = 1 ∧ (minor = 1 ∨ minor = 2) then return (.version, k) else none

def handleName? (k : Cursor) : Option (List Char × Cursor) := do
  let k ← (k.skipWhile isBlank).past? '!'
  return (Tag.handle? k).getD (['!'], k)

def handle? (k : Cursor) : Option (Directive × Cursor) := do
  let (name, k) ← handleName? k
  if !k.rest.head?.any isBlank then none
  else
    let (s, k) := (k.skipWhile isBlank).span Tag.isLongLetter
    if s.isEmpty || !endsWord k.rest then none
    else return (.handle name (← Tag.letters? 0 s), k)

/-- A directive from its percent sign on, with the whole line. -/
def read? (k : Cursor) : Option (Directive × Cursor) := do
  let (name, k) := (← k.past? '%').span isNameCharacter
  if !endsWord k.rest then none
  else
    let (directive, k) ←
      if name = "YAML".toList then version? k
      else if name = "TAG".toList then handle? k
      else none
    return (directive, ← k.endLine?)

end Directive

example : (Directive.read? ⟨{}, "%TAG !x! tag:y # z".toList⟩).map (·.1) =
    some (.handle "!x!".toList "tag:y".toList) := by
  decide +kernel

end Yaml
end MonitorAgent
