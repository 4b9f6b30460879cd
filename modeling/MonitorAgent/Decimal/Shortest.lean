import MonitorAgent.Decimal.Binary64

/-!
# The shortest decimal that reads back

A binary64 number stands for the interval of reals that are rounded to it; the
ends belong to it when the mantissa is even.  Of all decimals in the interval
the ones with the fewest digits are wanted, of these the nearest, and where two
are equally near a tie rule decides.
-/

namespace MonitorAgent
namespace Decimal

inductive Tie where
  | up
  | even
  deriving DecidableEq, Repr

/-- Digits without a zero at the end, and the place of the point counted from
the first digit: `0.d₁d₂…dₙ · 10 ^ point`. -/
structure Digits where
  digits : List Char
  point : Int
  deriving DecidableEq, Repr

namespace Digits

def digitsOf (n : Nat) : List Char :=
  Nat.toDigits 10 n

/-- The digits of `n · 10 ^ scale`. -/
def ofScaled (n : Nat) (scale : Int) : Digits where
  digits := ((digitsOf n).reverse.dropWhile (· = '0')).reverse
  point := scale + (digitsOf n).length

/-- The value of `n · 10 ^ scale` as a quotient of whole numbers. -/
def scaledNum (n : Nat) (scale : Int) : Nat :=
  n * Nat.pow 10 scale.toNat

def scaledDen (scale : Int) : Nat :=
  Nat.pow 10 (-scale).toNat

/-- The decimal exponent of the first digit of a positive quotient. -/
def leading (num den : Nat) : Int :=
  if den ≤ num then (digitsOf (num / den)).length - 1
  else -((digitsOf ((den - 1) / num)).length : Int)

/-- The interval of the number, in quarters of its unit. -/
structure Span where
  low : Nat
  middle : Nat
  high : Nat
  den : Nat
  closed : Bool

def Span.ofBinary64 (m : Nat) (e : Int) : Span :=
  let narrow := decide (m = Binary64.leadingBit ∧ -1074 < e)
  let scale := Binary64.numerator 1 e
  { low := (4 * m - if narrow then 1 else 2) * scale
    middle := 4 * m * scale
    high := (4 * m + 2) * scale
    den := 4 * Binary64.denominator e
    closed := m % 2 = 0 }

def Span.contains (s : Span) (n : Nat) (scale : Int) : Bool :=
  let x := scaledNum n scale * s.den
  let d := scaledDen scale
  if s.closed then s.low * d ≤ x && x ≤ s.high * d
  else s.low * d < x && x < s.high * d

/-- The nearer of the two neighbours `n` and `n + 1` on the grid. -/
def Span.nearer (s : Span) (tie : Tie) (n : Nat) (scale : Int) : Nat :=
  let below := s.middle * scaledDen scale - scaledNum n scale * s.den
  let above := scaledNum (n + 1) scale * s.den - s.middle * scaledDen scale
  if below < above then n
  else if above < below then n + 1
  else match tie with
    | .up => n + 1
    | .even => if n % 2 = 0 then n else n + 1

/-- A point of the grid with the given scale that lies in the interval. -/
def Span.onGrid? (s : Span) (tie : Tie) (scale : Int) : Option Nat :=
  let n := s.middle * scaledDen scale / (s.den * scaledNum 1 scale)
  match s.contains n scale, s.contains (n + 1) scale with
  | true, true => some (s.nearer tie n scale)
  | true, false => some n
  | false, true => some (n + 1)
  | false, false => none

/-- Tries the grids of the given scale and of finer ones, so many in all. -/
def Span.search (s : Span) (tie : Tie) : Nat → Int → Digits
  | 0, scale => ofScaled (s.middle * scaledDen scale / (s.den * scaledNum 1 scale)) scale
  | more + 1, scale =>
    match s.onGrid? tie scale with
    | some n => ofScaled n scale
    | none => s.search tie more (scale - 1)

/-- Seventeen digits are always enough. -/
def shortest (tie : Tie) (m : Nat) (e : Int) : Digits :=
  let s := Span.ofBinary64 m e
  s.search tie 17 (leading s.middle s.den)

end Digits

end Decimal
end MonitorAgent
