import MonitorAgent.Agent
import MonitorAgent.CommandLine.Invocation
import MonitorAgent.Config.Reader

/-!
# The program

Reads its command line, does one task and ends with the exit code of that.  No
figures of the host are collected and no connection is opened here: a check sees
a host of which nothing is known yet, other agents are out of reach, and the
agent itself is brought up as far as its configuration goes.
-/

namespace MonitorAgent
namespace Main

open CommandLine

def usage : String :=
  "usage: snclient [--config FILE] [--print-default-config] [COMMAND]\n" ++
  "commands: " ++ ", ".intercalate commandNames

/-- Nothing is known of the host, and there is no history. -/
def blankView : Probe.View :=
  ⟨.new 0, {}, 0⟩

/-- Runs a check, and shows its result. -/
def test (registry : Probe.Registry) (view : Probe.View) (c : Nrpe.Command) : Nrpe.Exit :=
  .ofResult ((registry.runGuarded c.name c.args).run view)

def finish (exit : Nrpe.Exit) : IO UInt32 := do
  IO.print exit.output
  return UInt32.ofNat exit.code

def refuse : CommandLine.Fault → IO UInt32
  | .version => do
    IO.print versionText
    return 0
  | .help => do
    IO.println usage
    return 0
  | _ => do
    IO.eprintln usage
    return 2

/-- The bytes of a file, or none if it cannot be read. -/
def fileBytes (path : String) : IO (Option (List UInt8)) := do
  try
    return some (← IO.FS.readBinFile path).toList
  catch _ => return none

def bringUp (path : String) : IO UInt32 := do
  match Config.ofFile (← fileBytes path) with
  | .error fault =>
    IO.eprintln (fault.message path)
    return 1
  | .ok config =>
    let agent : Agent := { host := .new 0, policy := .ofRequests config.requests }
    IO.println (Nrpe.agentVersion ++ " on " ++ config.listen)
    for name in agent.registry.names do
      IO.println name
    return 0

def carryOut (config : String) : Task → IO UInt32
  | .daemon => bringUp config
  | .inventory => do
    for name in Probe.standard.names do
      IO.println name
    return 0
  | .test command => finish (test Probe.standard blankView command)
  | .ask question =>
    finish (Id.run (Nrpe.report (.broken .unreachable) question.command question.timeout 0))

end Main
end MonitorAgent

open MonitorAgent

def main (argv : List String) : IO UInt32 := do
  match CommandLine.read argv with
  | .error fault => Main.refuse fault
  | .ok invocation =>
    if invocation.printsDefaultConfig then
      IO.println Config.exampleText
      return 0
    else Main.carryOut invocation.config (invocation.task.getD .daemon)
