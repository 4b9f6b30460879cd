import MonitorAgent.Yaml.Cursor

/-!
# Folding

Between two words of a scalar stand blanks or breaks.  Blanks are kept.  Of
breaks the first becomes a space if it is the only one and is left out
otherwise, unless it separates lines or paragraphs by itself; the blanks around
them are lost.
-/

namespace MonitorAgent
namespace Yaml

/-- What stands between two words; nothing at all is a gap of no blanks.  A first
break that is escaped is no part of it. -/
inductive Gap where
  | blanks (s : List Char)
  | breaks (first : Option Char) (more : List Char)
  deriving DecidableEq, Repr

namespace Gap

def empty : Gap :=
  blanks []

def isEmpty : Gap → Bool
  | blanks [] => true
  | _ => false

def hasBreak : Gap → Bool
  | blanks _ => false
  | breaks .. => true

def push (c : Char) : Gap → Gap
  | blanks s => if isBreak c then breaks (some c) [] else blanks (s ++ [c])
  | breaks first more => if isBreak c then breaks first (more ++ [c]) else breaks first more

/-- What the gap becomes. -/
def text : Gap → List Char
  | blanks s => s
  | breaks (some '\n') [] => [' ']
  | breaks (some '\n') more => more
  | breaks first more => first.toList ++ more

@[simp] theorem text_empty : empty.text = [] := rfl

example : ((empty.push ' ').push '\n').text = [' '] := by decide

example : (((empty.push '\n').push '\n').push '\t').text = ['\n'] := by decide

end Gap
end Yaml
end MonitorAgent
