import MonitorAgent.Yaml.Lexer
import MonitorAgent.Yaml.Node

/-!
# YAML documents

A text is read if it holds one document.  A document with directives begins with
a mark; what follows such a mark may be empty.
-/

namespace MonitorAgent
namespace Yaml
namespace Document

/-- What the directives before a document tell. -/
structure Declarations where
  hasVersion : Bool := false
  handles : List (List Char × List Char) := []

/-- Nothing is declared twice. -/
def Declarations.add? (d : Declarations) : Directive → Option Declarations
  | .version => if d.hasVersion then none else some { d with hasVersion := true }
  | .handle handle start =>
    if (d.handles.lookup handle).isSome then none
    else some { d with handles := (handle, start) :: d.handles }

/-- The directives that come first, and what follows them. -/
def leadingDirectives : List Token → List Directive × List Token
  | .directive d :: tokens =>
    let (directives, rest) := leadingDirectives tokens
    (d :: directives, rest)
  | tokens => ([], tokens)

/-- Nothing stands behind the mark of a document. -/
def isBare : List Token → Bool
  | [] | .directive _ :: _ | .documentStart :: _ | .documentEnd :: _ => true
  | _ => false

/-- Enough for any tree that so many tokens can make. -/
def fuelFor (tokens : List Token) : Nat :=
  4 * (tokens.length + 1)

def node (isMarked : Bool) (tokens : List Token) : Node.Reader Node :=
  if isMarked && isBare tokens then return .empty else Node.node (fuelFor tokens) .entry

/-- A document of all the tokens, but for marks of its end. -/
def ofContent? (d : Declarations) (isMarked : Bool) (tokens : List Token) : Option Document := do
  let handles := d.handles ++ standardHandles
  let (root, source) ← (node isMarked tokens).run { tokens, handles }
  if source.tokens.all (· = .documentEnd) then return ⟨root, source.anchored⟩ else none

def ofTokens? (tokens : List Token) : Option Document := do
  let (directives, rest) := leadingDirectives tokens
  let declarations ← directives.foldlM Declarations.add? {}
  match rest with
  | [] => none
  | .documentStart :: rest => ofContent? declarations true rest
  | rest => if directives.isEmpty then ofContent? {} false rest else none

def read? (text : List Char) : Option Document := do
  ofTokens? (← tokens? text)

end Document
end Yaml
end MonitorAgent
