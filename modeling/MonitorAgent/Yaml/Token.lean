import MonitorAgent.Yaml.Block
import MonitorAgent.Yaml.Directive

/-!
# Tokens of YAML texts

Blocks are told by their margins in a text; among the tokens they have starts
and ends of their own, and every key is marked.
-/

namespace MonitorAgent
namespace Yaml

inductive Token where
  | directive (directive : Directive)
  | documentStart
  | documentEnd
  | sequenceStart
  | mappingStart
  | blockEnd
  | flowSequenceStart
  | flowSequenceEnd
  | flowMappingStart
  | flowMappingEnd
  | comma
  | entry
  | key
  | value
  | anchor (name : List Char)
  | alias (name : List Char)
  | tag (tag : Tag)
  | scalar (scalar : Scalar)
  deriving DecidableEq, Repr

end Yaml
end MonitorAgent
