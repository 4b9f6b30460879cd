/-!
# Binary64 numbers as exact values

A finite binary64 number is a sign and a mantissa times a power of two.  What
is printed of a number, and which whole number is next to it, is decided on
these integers, never by further floating-point steps.
-/

namespace MonitorAgent
namespace Decimal

inductive Binary64 where
  | nan
  | infinite (negative : Bool)
  | finite (negative : Bool) (mantissa : Nat) (exponent : Int)
  deriving DecidableEq, Repr

namespace Binary64

/-- The sign is the first of 64 bits. -/
def signBit : Nat :=
  9223372036854775808

/-- A mantissa of 53 bits has its first bit left out. -/
def leadingBit : Nat :=
  4503599627370496

/-- There are so many fields of an exponent. -/
def fieldCount : Nat :=
  2048

def ofFloat (x : Float) : Binary64 :=
  let bits := x.toBits.toNat
  let negative := decide (signBit ≤ bits)
  let field : Nat := bits / leadingBit % fieldCount
  let fraction : Nat := bits % leadingBit
  if field + 1 = fieldCount then
    if fraction = 0 then infinite negative else nan
  else if field = 0 then finite negative fraction (-1074)
  else finite negative (fraction + leadingBit) ((field : Int) - 1075)

/-- The value is `numerator / denominator`, a whole number over a power of two. -/
def numerator (mantissa : Nat) (exponent : Int) : Nat :=
  mantissa <<< exponent.toNat

def denominator (exponent : Int) : Nat :=
  1 <<< (-exponent).toNat

end Binary64

/-- The nearest whole number to a quotient, the greater one of two. -/
def divHalfUp (n d : Nat) : Nat :=
  (2 * n + d) / (2 * d)

/-- The nearest whole number to a quotient, the even one of two. -/
def divHalfEven (n d : Nat) : Nat :=
  let q := n / d
  let r := n % d
  if 2 * r < d ∨ (2 * r = d ∧ q % 2 = 0) then q else q + 1

def signed (negative : Bool) (n : Nat) : Float :=
  if negative then -(Float.ofNat n) else Float.ofNat n

/-- The nearest whole number, the one farther from zero of two. -/
def nearestWhole (x : Float) : Float :=
  match Binary64.ofFloat x with
  | .finite negative m e =>
    if 0 ≤ e then x
    else signed negative (divHalfUp (Binary64.numerator m e) (Binary64.denominator e))
  | _ => x

/-- The number itself when it is a whole one. -/
def whole? (x : Float) : Option Int :=
  match Binary64.ofFloat x with
  | .finite negative m e =>
    let n := Binary64.numerator m e
    let d := Binary64.denominator e
    if n % d = 0 then some (if negative then -(n / d : Nat) else (n / d : Nat)) else none
  | _ => none

theorem divHalfEven_exact (n : Nat) {d : Nat} (h : 0 < d) : divHalfEven (n * d) d = n := by
  simp [divHalfEven, Nat.mul_div_cancel _ h, h]

end Decimal
end MonitorAgent
