import MonitorAgent.Check.State
import MonitorAgent.Threshold.Reader

/-!
# Failures of checks

Why a check has no result of its own, with the text shown for it.
-/

namespace MonitorAgent
namespace Check

inductive Failure where
  | threshold (error : Threshold.Error)
  | argument (text : String)
  | collect (text : String)
  deriving DecidableEq, Repr

namespace Failure

def message : Failure → String
  | threshold error => error.message
  | argument text => "invalid argument: " ++ text
  | collect text => text

def unknownState (text : String) : Failure :=
  argument ("unknown state '" ++ text ++ "'")

def unexpectedArgument (key : String) : Failure :=
  argument ("unexpected argument '" ++ key ++ "'")

def notCollected : Failure :=
  collect "host data has not been collected yet"

end Failure

def State.read (text : String) : Except Failure State :=
  match State.read? text with
  | some state => .ok state
  | none => .error (.unknownState text)

end Check
end MonitorAgent
