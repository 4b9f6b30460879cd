import MonitorAgent.Net.Address
import MonitorAgent.Text.HexDigit

/-!
# Reading network addresses

Octets are decimal without needless zeros, groups have up to four hexadecimal
digits.  Two colons stand for one group of zeros or more, and the last two
groups may be written as a version 4 address.  Each reader returns what follows.
-/

namespace MonitorAgent
namespace Net

/-- A decimal number below a bound, leading zeros or not. -/
def number? (bound : Nat) (s : List Char) : Option (Nat × List Char) :=
  let (digits, rest) := Decimal.spanDigits s
  if digits.isEmpty then none
  else
    let n := Decimal.natOfDigits digits
    if n < bound then some (n, rest) else none

def octet? (s : List Char) : Option (UInt8 × List Char) :=
  let (digits, _) := Decimal.spanDigits s
  if digits.length > 3 || (digits.length > 1 && digits.head? == some '0') then none
  else (number? 256 s).map fun (n, rest) => (UInt8.ofNat n, rest)

def group? (s : List Char) : Option (UInt16 × List Char) :=
  let digits := s.takeWhile Text.isHexDigit
  if digits.isEmpty || digits.length > 4 then none
  else some (UInt16.ofNat (Text.natOfHex digits), s.dropWhile Text.isHexDigit)

/-- What a separator is followed by. -/
def after? (c : Char) : List Char → Option (List Char)
  | [] => none
  | d :: s => if d = c then some s else none

def octets? (s : List Char) : Option (Vector UInt8 4 × List Char) := do
  let (a, s) ← octet? s
  let (b, s) ← octet? (← after? '.' s)
  let (c, s) ← octet? (← after? '.' s)
  let (d, s) ← octet? (← after? '.' s)
  return (#v[a, b, c, d], s)

def groupsOf (octets : Vector UInt8 4) : List UInt16 :=
  [octets[0].toUInt16 <<< 8 ||| octets[1].toUInt16, octets[2].toUInt16 <<< 8 ||| octets[3].toUInt16]

/-- As many groups as there are, up to a number of places, and whether a version
4 address ends them.  All but the first follow a colon. -/
def groups (places : Nat) (isFirst : Bool) (s : List Char) : List UInt16 × Bool × List Char :=
  match places with
  | 0 => ([], false, s)
  | places + 1 =>
    match if isFirst then some s else after? ':' s with
    | none => ([], false, s)
    | some start =>
      match if places = 0 then none else octets? start with
      | some (octets, rest) => (groupsOf octets, true, rest)
      | none =>
        match group? start with
        | none => ([], false, s)
        | some (group, rest) =>
          let (more, ended, rest) := groups places false rest
          (group :: more, ended, rest)

def ofGroups? (groups : List UInt16) : Option Address :=
  if h : groups.length = 8 then some (.v6 ⟨groups.toArray, h⟩) else none

/-- Zeros fill up to eight groups, at least one. -/
def filled (head tail : List UInt16) : List UInt16 :=
  head ++ List.replicate (8 - head.length - tail.length) 0 ++ tail

def v6? (s : List Char) : Option (Address × List Char) := do
  let (head, ended, s) := groups 8 true s
  if head.length = 8 then
    return (← ofGroups? head, s)
  else if ended then none
  else
    let s ← after? ':' (← after? ':' s)
    let (tail, _, s) := groups (7 - head.length) true s
    return (← ofGroups? (filled head tail), s)

def v4? (s : List Char) : Option (Address × List Char) :=
  (octets? s).map fun (octets, rest) => (.v4 octets, rest)

/-- What a reader makes of a whole text. -/
def complete? (read : List Char → Option (α × List Char)) (s : List Char) : Option α :=
  match read s with
  | some (a, []) => some a
  | _ => none

def Address.read? (s : List Char) : Option Address :=
  (complete? v4? s).or (complete? v6? s)

def port? (s : List Char) : Option (UInt16 × List Char) := do
  let (n, rest) ← number? UInt16.size (← after? ':' s)
  return (UInt16.ofNat n, rest)

/-- A scope, or none where there is no such mark. -/
def scope? (s : List Char) : Option (UInt32 × List Char) :=
  match after? '%' s with
  | none => some (0, s)
  | some s => (number? UInt32.size s).map fun (n, rest) => (UInt32.ofNat n, rest)

def endpointV4? (s : List Char) : Option (Endpoint × List Char) := do
  let (address, s) ← v4? s
  let (port, s) ← port? s
  return ({ address, port }, s)

def endpointV6? (s : List Char) : Option (Endpoint × List Char) := do
  let (address, s) ← v6? (← after? '[' s)
  let (scope, s) ← scope? s
  let (port, s) ← port? (← after? ']' s)
  return ({ address, port, scope }, s)

/-- An address with a port; a version 6 address stands in brackets. -/
def Endpoint.read? (s : List Char) : Option Endpoint :=
  (complete? endpointV4? s).or (complete? endpointV6? s)

example : ((Address.read? "1:0:0:2::".toList).map Address.text) = some "1:0:0:2::" := by
  decide +kernel

example : ((Address.read? "::ffff:1.2.3.4".toList).map Address.text) = some "::ffff:1.2.3.4" := by
  decide +kernel

end Net
end MonitorAgent
