import MonitorAgent.Text.Case
import MonitorAgent.Text.Cut
import MonitorAgent.Text.Space

/-!
# Operators of thresholds

Four operators order numbers, two ask for equality and two for a part of the
text.  An operator has one shown symbol and may have several spellings, in
which letter case and the amount of white space do not matter.
-/

namespace MonitorAgent
namespace Threshold

inductive Operator where
  | lower
  | lowerEqual
  | greater
  | greaterEqual
  | equal
  | unequal
  | like
  | notLike
  deriving DecidableEq, Repr

namespace Operator

def symbol : Operator → String
  | lower => "<"
  | lowerEqual => "<="
  | greater => ">"
  | greaterEqual => ">="
  | equal => "="
  | unequal => "!="
  | like => "like"
  | notLike => "not like"

/-- The operators that order numbers. -/
def isOrdering : Operator → Bool
  | lower | lowerEqual | greater | greaterEqual => true
  | equal | unequal | like | notLike => false

/-- Words in lower case with single spaces between them. -/
def normalize (s : List Char) : List Char :=
  match Text.words s with
  | [] => []
  | first :: later => Text.lower (Text.joinFields ' ' first later)

def spellings : List (String × Operator) :=
  [("<", lower), ("<=", lowerEqual), (">", greater), (">=", greaterEqual),
   ("=", equal), ("==", equal), ("is", equal), ("!=", unequal), ("not", unequal),
   ("like", like), ("not like", notLike)]

def read? (s : List Char) : Option Operator :=
  spellings.lookup (String.ofList (normalize s))

theorem read?_symbol (op : Operator) : read? op.symbol.toList = some op := by
  cases op <;> decide +kernel

end Operator

end Threshold
end MonitorAgent
