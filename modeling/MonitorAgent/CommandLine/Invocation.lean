import MonitorAgent.CommandLine.Switches
import MonitorAgent.Decimal.Reader
import MonitorAgent.Nrpe.Client

/-!
# Invocations

What the agent is asked to do on its command line.
-/

namespace MonitorAgent
namespace CommandLine

/-- A question to another agent. -/
structure Question where
  host : String
  port : UInt16
  command : Nrpe.Command
  timeout : String
  deriving DecidableEq, Repr

inductive Task where
  | daemon
  | inventory
  | test (command : Nrpe.Command)
  | ask (question : Question)
  deriving DecidableEq, Repr

structure Invocation where
  config : String
  printsDefaultConfig : Bool
  task : Option Task
  deriving DecidableEq, Repr

def helpSwitch : Switch where
  name := "help"
  letter := some 'h'
  stops := some .help

def versionSwitch : Switch where
  name := "version"
  letter := some 'V'
  stops := some .version

def versionText : String :=
  "snclient 0.1.0\n"

def commandNames : List String :=
  ["daemon", "test", "inventory", "check-nrpe", "help"]

def mainGrammar : Grammar where
  switches :=
    [{ name := "config", arity := .one }, { name := "print-default-config" }, helpSwitch,
     versionSwitch]
  commands := commandNames

def plainGrammar : Grammar where
  switches := [helpSwitch]

def testGrammar : Grammar where
  switches := [helpSwitch]
  takesWords := true

/-- A whole number with an optional sign that is a port. -/
def port? (text : String) : Option UInt16 :=
  let (negative, s) := Decimal.readSign text.toList
  let n := Decimal.natOfDigits s
  if s.isEmpty || !s.all Char.isDigit || UInt16.size ≤ n || (negative && n != 0) then none
  else some (UInt16.ofNat n)

def askGrammar : Grammar where
  switches :=
    [{ name := "host", letter := some 'H', arity := .one },
     { name := "port", letter := some 'p', arity := .one, isValid := fun s => (port? s).isSome },
     { name := "command", letter := some 'c', arity := .one },
     { name := "args", letter := some 'a', arity := .many },
     { name := "timeout", letter := some 't', arity := .one }, helpSwitch]

def standardPort : UInt16 := 5666

def readTest (argv : List String) : Except Fault Task := do
  let r ← testGrammar.readAll argv
  match r.words with
  | [] => .error .missingArgument
  | check :: args => return .test ⟨check, args⟩

def readAsk (argv : List String) : Except Fault Task := do
  let r ← askGrammar.readAll argv
  match r.valuesOf? "host" with
  | none => .error .missingArgument
  | some _ =>
    return .ask
      { host := r.valueOr "host" ""
        port := (port? (r.valueOr "port" "")).getD standardPort
        command := ⟨r.valueOr "command" Nrpe.versionCommand, (r.valuesOf? "args").getD []⟩
        timeout := r.valueOr "timeout" "10s" }

/-- Help may be asked for with the name of one command. -/
def helpFault : List String → Fault
  | [] => .help
  | [name] => if commandNames.contains name then .help else .unknownCommand
  | _ => .unknownCommand

def readTask (name : String) (argv : List String) : Except Fault Task :=
  match name with
  | "daemon" => (plainGrammar.readAll argv).map fun _ => .daemon
  | "inventory" => (plainGrammar.readAll argv).map fun _ => .inventory
  | "test" => readTest argv
  | "check-nrpe" => readAsk argv
  | _ => .error (helpFault argv)

/-- What follows a command is read before what stands in front of it is settled. -/
def read (argv : List String) : Except Fault Invocation := do
  let (r, command) ← mainGrammar.read {} false argv
  let task ←
    match command with
    | none => pure none
    | some (name, rest) => some <$> readTask name rest
  let r ← r.settle
  return ⟨r.valueOr "config" "./snclient.yaml", (r.valuesOf? "print-default-config").isSome, task⟩

end CommandLine
end MonitorAgent
