import MonitorAgent.Duration.Reader
import MonitorAgent.Net.Reader

/-!
# Configurations

Where the agent listens, how often it looks at the host, and how it answers
requests of other hosts.  A configuration is checked before it is used; the
first thing that is wrong with it is told.
-/

namespace MonitorAgent

/-- How requests of other hosts are answered. -/
structure Config.Requests where
  enabled : Bool := true
  listen : String := "0.0.0.0:5666"
  timeout : String := "30s"
  allowedHosts : List String := []
  allowArguments : Bool := true
  allowNastyCharacters : Bool := false
  deriving DecidableEq, Repr

structure Config where
  listen : String
  interval : UInt64
  requests : Config.Requests := {}
  deriving DecidableEq, Repr

namespace Config

inductive Fault where
  | listenMissing
  | listenInvalid
  | intervalZero
  | requestsListenInvalid
  | timeoutZero
  | timeoutInvalid (text : String) (fault : Duration.Fault)
  | hostInvalid (text : String)
  deriving DecidableEq, Repr

def Fault.message (fault : Fault) : String :=
  "invalid configuration: " ++
    match fault with
    | listenMissing => "listen is required"
    | listenInvalid => "listen must be a host:port socket address"
    | intervalZero => "interval_secs must be >= 1"
    | requestsListenInvalid => "nrpe.listen must be a host:port socket address"
    | timeoutZero => "nrpe.timeout must be > 0"
    | timeoutInvalid text fault =>
      "nrpe.timeout '" ++ text ++ "' is not a duration: " ++ fault.message
    | hostInvalid text => "nrpe.allowed_hosts entry '" ++ text ++ "' is not an IP address"

def isEndpoint (text : String) : Bool :=
  (Net.Endpoint.read? text.toList).isSome

def readHost? (text : String) : Option Net.Address :=
  Net.Address.read? (Text.trim text.toList)

def timeoutFault? (text : String) : Option Fault :=
  match Duration.read text with
  | .ok timeout => if timeout.isZero then some .timeoutZero else none
  | .error fault => some (.timeoutInvalid text fault)

def Requests.fault? (r : Requests) : Option Fault :=
  if !isEndpoint r.listen then some .requestsListenInvalid
  else
    match timeoutFault? r.timeout with
    | some fault => some fault
    | none => (r.allowedHosts.find? fun host => (readHost? host).isNone).map .hostInvalid

/-- The first thing that is wrong. -/
def fault? (c : Config) : Option Fault :=
  if (Text.trim c.listen.toList).isEmpty then some .listenMissing
  else if !isEndpoint c.listen then some .listenInvalid
  else if c.interval = 0 then some .intervalZero
  else c.requests.fault?

/-- The configuration that a new installation may start from. -/
def exampleText : String :=
  "# HTTP listener for /healthz, /metrics, /api/state and /query/\x7bcheck\x7d\n" ++
  "listen: 127.0.0.1:9108\n" ++
  "# host sampling interval, also feeds the rolling cpu load history\n" ++
  "interval_secs: 5\n" ++
  "\n" ++
  "nrpe:\n" ++
  "  enabled: true\n" ++
  "  listen: 0.0.0.0:5666\n" ++
  "  # read/write deadline per connection\n" ++
  "  timeout: 30s\n" ++
  "  # empty list allows every peer\n" ++
  "  allowed_hosts:\n" ++
  "    - 127.0.0.1\n" ++
  "    - ::1\n" ++
  "  allow_arguments: true\n" ++
  "  allow_nasty_characters: false\n"

end Config
end MonitorAgent
