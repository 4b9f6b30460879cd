import MonitorAgent.Text.Case

/-!
# Reading numbers

A number is an optional sign, digits with an optional point on either side of
which they may be missing, and an optional exponent; or one of the words `inf`,
`infinity` and `nan`.  White space is no part of it.  The result is the nearest
binary64 number.
-/

namespace MonitorAgent
namespace Decimal

def digitValue (c : Char) : Nat :=
  c.toNat - '0'.toNat

def natOfDigits (s : List Char) : Nat :=
  s.foldl (fun n c => 10 * n + digitValue c) 0

/-- The leading digits and what follows them. -/
def spanDigits (s : List Char) : List Char × List Char :=
  (s.takeWhile Char.isDigit, s.dropWhile Char.isDigit)

def readSign : List Char → Bool × List Char
  | '-' :: s => (true, s)
  | '+' :: s => (false, s)
  | s => (false, s)

/-- An exponent with its mark, or nothing at all. -/
def readExponent? : List Char → Option Int
  | [] => some 0
  | c :: s =>
    if c = 'e' ∨ c = 'E' then
      let (negative, s) := readSign s
      let (digits, rest) := spanDigits s
      if digits.isEmpty || !rest.isEmpty then none
      else if negative then some (-(natOfDigits digits : Int)) else some (natOfDigits digits)
    else none

/-- Digits and their scale: `significand · 10 ^ scale`. -/
def readUnsigned? (s : List Char) : Option (Nat × Int) :=
  let (before, rest) := spanDigits s
  let (behind, rest) :=
    match rest with
    | '.' :: rest => spanDigits rest
    | _ => ([], rest)
  if before.isEmpty && behind.isEmpty then none
  else (readExponent? rest).map fun e => (natOfDigits (before ++ behind), e - behind.length)

def ofScaled (n : Nat) (scale : Int) : Float :=
  Float.ofScientific n (decide (scale < 0)) scale.natAbs

def infinity : Float :=
  Float.ofBits 0x7FF0000000000000

def notANumber : Float :=
  Float.ofBits 0x7FF8000000000000

def readMagnitude? (s : List Char) : Option Float :=
  match readUnsigned? s with
  | some (n, scale) => some (ofScaled n scale)
  | none =>
    let word := String.ofList (Text.lower s)
    if word = "inf" ∨ word = "infinity" then some infinity
    else if word = "nan" then some notANumber
    else none

def read? (s : List Char) : Option Float :=
  let (negative, s) := readSign s
  (readMagnitude? s).map fun x => if negative then -x else x

theorem spanDigits_append (s : List Char) : (spanDigits s).1 ++ (spanDigits s).2 = s :=
  List.takeWhile_append_dropWhile

end Decimal
end MonitorAgent
