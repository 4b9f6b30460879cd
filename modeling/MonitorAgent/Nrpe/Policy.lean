import MonitorAgent.Config.Basic

/-!
# Policies

Which hosts are answered, with which arguments, and how long a silent one is
waited for.
-/

namespace MonitorAgent
namespace Nrpe

structure Policy where
  allowedHosts : List Net.Address
  allowArguments : Bool
  allowNastyCharacters : Bool
  timeout : Duration
  deriving DecidableEq, Repr

namespace Policy

def standardTimeout : Duration :=
  .ofSeconds 30

/-- Hosts that are no addresses are passed over, and a timeout that is none is
taken as the standard one. -/
def ofRequests (r : Config.Requests) : Policy where
  allowedHosts := r.allowedHosts.filterMap Config.readHost?
  allowArguments := r.allowArguments
  allowNastyCharacters := r.allowNastyCharacters
  timeout := (Duration.read r.timeout).toOption.getD standardTimeout

/-- Without any hosts all are allowed. -/
def allows (p : Policy) (peer : Net.Address) : Bool :=
  p.allowedHosts.isEmpty || p.allowedHosts.contains peer

/-- Characters that have a meaning to a shell. -/
def nastyCharacters : List Char :=
  ['$', '|', '\x60', '&', '>', '<', '\'', '"', '\\', '[', ']', '\x7b', '\x7d']

def isNasty (arg : String) : Bool :=
  arg.toList.any nastyCharacters.contains

/-- Why arguments are refused. -/
inductive Refusal where
  | arguments
  | nastyCharacters
  deriving DecidableEq, Repr

def Refusal.message : Refusal → String
  | arguments => "Arguments not allowed"
  | nastyCharacters => "Nasty characters in arguments"

def refusal? (p : Policy) (args : List String) : Option Refusal :=
  if !args.isEmpty && !p.allowArguments then some .arguments
  else if !p.allowNastyCharacters && args.any isNasty then some .nastyCharacters
  else none

end Policy
end Nrpe
end MonitorAgent
