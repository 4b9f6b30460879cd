import MonitorAgent.Duration.Basic
import MonitorAgent.Text.Quoted

/-!
# Errors of exchanges

What can go wrong between two peers, with the text shown for it.
-/

namespace MonitorAgent
namespace Nrpe

/-- Faults of the connection itself; the rest of them are known by their texts. -/
inductive Fault where
  | reset
  | aborted
  | endOfFile
  | unreachable
  | other (message : String)
  deriving DecidableEq, Repr

def Fault.message : Fault → String
  | reset => "connection reset"
  | aborted => "connection aborted"
  | endOfFile => "unexpected end of file"
  | unreachable => "Network is unreachable (os error 101)"
  | other message => message

inductive Error where
  | connection (fault : Fault)
  | shortRead
  | timeout (limit : Duration)
  | unsupportedVersion (version : UInt16)
  | kindMismatch (expected actual : UInt16)
  | checksumMismatch (carried computed : UInt32)
  | missingTerminator
  deriving DecidableEq, Repr

/-- A word as eight hexadecimal digits. -/
def hexWord (n : UInt32) : String :=
  "0x" ++ String.ofList (Text.paddedHex 8 n.toNat)

def Error.message : Error → String
  | connection fault => "connection error: " ++ fault.message
  | shortRead => "short read: peer closed the connection mid-packet"
  | timeout limit => "timed out after " ++ limit.brief
  | unsupportedVersion version =>
    "unsupported nrpe protocol version " ++ toString version.toNat
  | kindMismatch expected actual =>
    "protocol mismatch: expected packet type " ++ toString expected.toNat ++ ", got " ++
      toString actual.toNat
  | checksumMismatch carried computed =>
    "checksum mismatch: packet carries " ++ hexWord carried ++ ", computed " ++ hexWord computed
  | missingTerminator => "invalid request: payload is not nul-terminated"

end Nrpe
end MonitorAgent
