import MonitorAgent.Decimal.Shortest

/-!
# Decimal texts

Two ways to write a number: with the shortest digits that read back, always
positional, and with a fixed number of places.
-/

namespace MonitorAgent
namespace Decimal

def zeros (n : Nat) : List Char :=
  List.replicate n '0'

def Digits.positional (d : Digits) : List Char :=
  if d.point ≤ 0 then '0' :: '.' :: zeros (-d.point).toNat ++ d.digits
  else if d.digits.length ≤ d.point.toNat then
    d.digits ++ zeros (d.point.toNat - d.digits.length)
  else d.digits.take d.point.toNat ++ '.' :: d.digits.drop d.point.toNat

def withSign (negative : Bool) (s : List Char) : List Char :=
  if negative then '-' :: s else s

/-- The shortest digits that read back, never with an exponent; of two equally
near the upper one. -/
def plain (x : Float) : String :=
  match Binary64.ofFloat x with
  | .nan => "NaN"
  | .infinite negative => String.ofList (withSign negative ['i', 'n', 'f'])
  | .finite negative m e =>
    if m = 0 then String.ofList (withSign negative ['0'])
    else String.ofList (withSign negative (Digits.shortest .up m e).positional)

/-- The last `places` digits of `n` stand behind the point. -/
def pointed (places n : Nat) : List Char :=
  let digits := Nat.toDigits 10 (n % Nat.pow 10 places)
  Nat.toDigits 10 (n / Nat.pow 10 places) ++ '.' :: zeros (places - digits.length) ++ digits

/-- The number with so many places behind the point, at least one; a half goes
to the even neighbour. -/
def fixed (places : Nat) (x : Float) : String :=
  match Binary64.ofFloat x with
  | .nan => "NaN"
  | .infinite negative => String.ofList (withSign negative ['i', 'n', 'f'])
  | .finite negative m e =>
    String.ofList (withSign negative (pointed places
      (divHalfEven (Binary64.numerator m e * Nat.pow 10 places) (Binary64.denominator e))))

example : plain 0.1 = "0.1" ∧ plain 1e21 = "1000000000000000000000" ∧ plain (-0.0) = "-0" := by
  decide +kernel

example : fixed 1 0.25 = "0.2" ∧ fixed 1 0.35 = "0.3" ∧ fixed 1 9.96 = "10.0" := by
  decide +kernel

end Decimal
end MonitorAgent
