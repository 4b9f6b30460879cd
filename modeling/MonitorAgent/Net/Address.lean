import MonitorAgent.Text.Quoted

/-!
# Network addresses

Addresses of the two versions and their texts.  Of a version 6 address the
longest run of two or more zero groups, the first of several, is left out; one
that stands for a version 4 address shows that.
-/

namespace MonitorAgent
namespace Net

inductive Address where
  | v4 (octets : Vector UInt8 4)
  | v6 (groups : Vector UInt16 8)
  deriving DecidableEq, Repr

/-- An address and a port; version 6 addresses may name a scope as well. -/
structure Endpoint where
  address : Address
  port : UInt16
  scope : UInt32 := 0
  deriving DecidableEq, Repr

namespace Address

def octetsText (octets : List UInt8) : String :=
  ".".intercalate (octets.map fun octet => toString octet.toNat)

def groupsText (groups : List UInt16) : String :=
  ":".intercalate (groups.map fun group => String.ofList (Text.hexDigits group.toNat))

/-- How many zero groups stand at the start. -/
def leadingZeros (groups : List UInt16) : Nat :=
  (groups.takeWhile (· == 0)).length

/-- Place and length of the longest run of zero groups. -/
def longestRun : List UInt16 → Nat × Nat
  | [] => (0, 0)
  | group :: groups =>
    let here := leadingZeros (group :: groups)
    let (place, length) := longestRun groups
    if length ≤ here then (0, here) else (place + 1, length)

/-- Both bytes of each group. -/
def bytesOf (groups : List UInt16) : List UInt8 :=
  groups.flatMap fun (group : UInt16) => [(group >>> 8).toUInt8, group.toUInt8]

/-- The version 4 address in the last two groups, if the others say so. -/
def embedded? (groups : List UInt16) : Option (List UInt8) :=
  if groups.take 6 = [0, 0, 0, 0, 0, 0xFFFF] then some (bytesOf (groups.drop 6)) else none

def compressed (groups : List UInt16) : String :=
  let (place, length) := longestRun groups
  if 1 < length then
    groupsText (groups.take place) ++ "::" ++ groupsText (groups.drop (place + length))
  else groupsText groups

def text : Address → String
  | v4 octets => octetsText octets.toList
  | v6 groups =>
    match embedded? groups.toList with
    | some octets => "::ffff:" ++ octetsText octets
    | none => compressed groups.toList

end Address
end Net
end MonitorAgent
