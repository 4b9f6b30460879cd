import MonitorAgent.Check.Result

/-!
# Registries of checks

A handler turns arguments into an outcome.  A registry holds one handler to a
name, in the order of the names, and answers every name with a result: failures
and missing names are results of unknown state.  A handler may do more than
compute, so what it runs in is a parameter.
-/

namespace MonitorAgent
namespace Check

/-- Why a handler was broken off. -/
inductive Abort where
  | sizeOverflow
  | dateOverflow
  | countOverflow
  deriving DecidableEq, Repr

inductive Outcome where
  | done (result : Result)
  | failed (failure : Failure)
  | aborted (cause : Abort)

namespace Outcome

def ofExcept : Except Failure Result → Outcome
  | .ok result => done result
  | .error failure => failed failure

/-- A failure becomes a result that tells it. -/
def settle : Outcome → Except Abort Result
  | done result => .ok result
  | failed failure => .ok (.unknown failure.message)
  | aborted cause => .error cause

end Outcome

abbrev Handler (m : Type → Type) :=
  List String → m Outcome

structure Registry (m : Type → Type) where
  entries : List (String × Handler m) := []
  /-- What the runtime tells of a handler that was broken off.  Its text is not the same from
  run to run, so it is a parameter. -/
  tells : Abort → String := fun _ => "<panic>"

namespace Registry

variable {m : Type → Type}

/-- Puts an entry in its place, or in the place of the one with its name. -/
def insert (name : String) (handler : Handler m) :
    List (String × Handler m) → List (String × Handler m)
  | [] => [(name, handler)]
  | (other, present) :: more =>
    if name < other then (name, handler) :: (other, present) :: more
    else if name = other then (name, handler) :: more
    else (other, present) :: insert name handler more

def register (r : Registry m) (name : String) (handler : Handler m) : Registry m :=
  { r with entries := insert name handler r.entries }

def find? (r : Registry m) (name : String) : Option (Handler m) :=
  r.entries.lookup name

def names (r : Registry m) : List String :=
  r.entries.map (·.1)

def noSuchCheck (name : String) : Result :=
  .unknown ("No such check: " ++ name)

def run [Monad m] (r : Registry m) (name : String) (args : List String) :
    m (Except Abort Result) :=
  match r.find? name with
  | none => pure (.ok (noSuchCheck name))
  | some handler => do
    let outcome ← handler args
    pure outcome.settle

/-- The result in place of one that was broken off. -/
def abortedResult (r : Registry m) (name : String) (cause : Abort) : Result :=
  .unknown ("check " ++ name ++ " aborted: " ++ r.tells cause)

/-- A broken off handler, too, has a result. -/
def runGuarded [Monad m] (r : Registry m) (name : String) (args : List String) : m Result := do
  match ← r.run name args with
  | .ok result => pure result
  | .error cause => pure (r.abortedResult name cause)

end Registry
end Check
end MonitorAgent
