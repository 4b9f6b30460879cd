import MonitorAgent.Decimal.Reader

/-!
# Hexadecimal digits

Letters count in either case.
-/

namespace MonitorAgent
namespace Text

def hexValue? (c : Char) : Option Nat :=
  if c.isDigit then some (Decimal.digitValue c)
  else if 'a' ≤ c ∧ c ≤ 'f' then some (c.toNat - 'a'.toNat + 10)
  else if 'A' ≤ c ∧ c ≤ 'F' then some (c.toNat - 'A'.toNat + 10)
  else none

def isHexDigit (c : Char) : Bool :=
  (hexValue? c).isSome

def natOfHex (s : List Char) : Nat :=
  s.foldl (fun n c => 16 * n + (hexValue? c).getD 0) 0

end Text
end MonitorAgent
