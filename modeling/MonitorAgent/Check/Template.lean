import MonitorAgent.Fields
import MonitorAgent.Text.Cut
import MonitorAgent.Text.Space

/-!
# Templates

A marker is one of `$(name)`, `%(name)` and the two forms with curly brackets.
It stands for the text of a field, white space around the name aside.  An
opened marker that is never closed is text like any other, and what a marker
stands for is not looked through again.
-/

namespace MonitorAgent
namespace Check
namespace Template

/-- The character that closes a marker with the given opening. -/
def closer? (mark bracket : Char) : Option Char :=
  if mark = '$' ∨ mark = '%' then
    if bracket = '(' then some ')'
    else if bracket = '\x7b' then some '\x7d'
    else none
  else none

/-- The name in the marker opened by two characters, and what follows it. -/
def marker? (mark bracket : Char) (s : List Char) : Option (List Char × List Char) :=
  match closer? mark bracket with
  | none => none
  | some close => Text.cut close s

theorem marker?_length {mark bracket : Char} {s name rest : List Char}
    (h : marker? mark bracket s = some (name, rest)) : rest.length < s.length := by
  unfold marker? at h
  split at h
  · simp at h
  · exact Text.cut_length h

def filled (fields : Fields) (name : List Char) : List Char :=
  (fields.text (String.ofList (Text.trim name))).toList

def fill (fields : Fields) : List Char → List Char
  | mark :: bracket :: s =>
    match _h : marker? mark bracket s with
    | some (name, rest) => filled fields name ++ fill fields rest
    | none => mark :: fill fields (bracket :: s)
  | [c] => [c]
  | [] => []
termination_by s => s.length
decreasing_by
  · have := marker?_length _h
    simp only [List.length_cons]
    omega
  · simp

def render (template : String) (fields : Fields) : String :=
  String.ofList (fill fields template.toList)

@[simp] theorem fill_nil (fields : Fields) : fill fields [] = [] := by
  simp [fill]

end Template
end Check
end MonitorAgent
