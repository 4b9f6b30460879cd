import MonitorAgent.Check.Settings

/-!
# Options of checks

The arguments that are left to a check name things to look at.  A check knows
some keys; an argument with another key is a failure.
-/

namespace MonitorAgent
namespace Check

def valuesOf (key : String) (args : List Argument) : List String :=
  (args.filter (·.key == key)).map (·.value)

/-- The first argument with a key that is not known is not expected. -/
def refuseOthers (keys : List String) (args : List Argument) : Except Failure Unit :=
  match args.find? fun a => !keys.contains a.key with
  | some a => .error (.unexpectedArgument a.key)
  | none => .ok ()

theorem refuseOthers_eq_ok_iff {keys : List String} {args : List Argument} :
    refuseOthers keys args = .ok () ↔ ∀ a ∈ args, a.key ∈ keys := by
  unfold refuseOthers
  split
  · rename_i a h
    have := List.find?_some h
    have := List.mem_of_find?_eq_some h
    simp_all only [Bool.not_eq_true', List.contains_eq_mem, decide_eq_false_iff_not, reduceCtorEq,
      false_iff]
    intro all
    simp_all
  · rename_i h
    simpa using h

end Check
end MonitorAgent
