import MonitorAgent.Fields
import MonitorAgent.Threshold.Basic

/-!
# Deciding thresholds on fields

A threshold is decided on the text that its name has among some fields.  The
ordering operators need a number on either side; equality compares numbers
where both sides are numbers, and texts otherwise.
-/

namespace MonitorAgent
namespace Threshold

def fieldNumber? (text : String) : Option Float :=
  Decimal.read? (Text.trim text.toList)

def contains (text part : String) : Bool :=
  Text.occursIn part.toList text.toList

/-- The field equals the value, as numbers if both are numbers. -/
def equals (t : Threshold) (text : String) : Bool :=
  match fieldNumber? text, t.number? with
  | some x, some y => x == y
  | _, _ => text == t.value

def ordered (op : Operator) (x y : Float) : Bool :=
  match op with
  | .lower => x < y
  | .lowerEqual => x ≤ y
  | .greater => y < x
  | .greaterEqual => y ≤ x
  | _ => false

def inOrder (t : Threshold) (text : String) : Bool :=
  match fieldNumber? text, t.number? with
  | some x, some y => ordered t.operator x y
  | _, _ => false

/-- The relation holds between the field's text and the value. -/
def holds (t : Threshold) (text : String) : Bool :=
  match t.operator with
  | .like => contains text t.value
  | .notLike => !contains text t.value
  | .equal => t.equals text
  | .unequal => !t.equals text
  | .lower | .lowerEqual | .greater | .greaterEqual => t.inOrder text

/-- The threshold is enabled, its field is there and the relation holds. -/
def isMet (t : Threshold) (fields : Fields) : Bool :=
  !t.isDisabled &&
    match fields.lookup t.name with
    | none => false
    | some text => t.holds text

theorem isMet_of_lookup_eq_none {t : Threshold} {fields : Fields}
    (h : fields.lookup t.name = none) : t.isMet fields = false := by
  simp [isMet, h]

end Threshold
end MonitorAgent
