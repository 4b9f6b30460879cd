import MonitorAgent.Text.Cut
import MonitorAgent.Text.HexDigit
import MonitorAgent.Text.Utf8

/-!
# Paths and queries of addresses

An address has a path and may have a query behind a question mark; what follows
a number sign is no part of it.  A percent sign with two hexadecimal digits
stands for a byte, in a query a plus sign stands for a space.
-/

namespace MonitorAgent
namespace Web

structure Uri where
  path : List Char
  query : List Char
  deriving DecidableEq, Repr

def Uri.read (s : List Char) : Uri :=
  let s := s.takeWhile (· != '#')
  match Text.cut '?' s with
  | some (path, query) => ⟨path, query⟩
  | none => ⟨s, []⟩

/-- The byte that two hexadecimal digits stand for. -/
def hexByte? (high low : UInt8) : Option UInt8 := do
  let a ← Text.hexValue? (Char.ofNat high.toNat)
  let b ← Text.hexValue? (Char.ofNat low.toNat)
  return UInt8.ofNat (16 * a + b)

/-- A percent sign that is not followed by two digits stands for itself. -/
def percentDecoded : List UInt8 → List UInt8
  | b :: high :: low :: bytes =>
    match if b = 0x25 then hexByte? high low else none with
    | some decoded => decoded :: percentDecoded bytes
    | none => b :: percentDecoded (high :: low :: bytes)
  | bytes => bytes

/-- A part of a path, if it decodes to a text. -/
def pathText? (s : List Char) : Option (List Char) :=
  Text.Utf8.decode? (percentDecoded (Text.Utf8.encode s))

def queryText (s : List Char) : List Char :=
  let spaced := s.map fun c => if c = '+' then ' ' else c
  Text.Utf8.decodeLossy (percentDecoded (Text.Utf8.encode spaced))

/-- Key and value of a part of a query. -/
def queryPair (s : List Char) : String × String :=
  let (key, value) := (Text.cut '=' s).getD (s, [])
  (String.ofList (queryText key), String.ofList (queryText value))

def queryPairs (query : List Char) : List (String × String) :=
  ((Text.split '&' query).filter (!·.isEmpty)).map queryPair

/-- A pair as an argument of a check; a key alone is the whole argument. -/
def argumentOf : String × String → String
  | (key, value) => if value.isEmpty then key else key ++ "=" ++ value

example : queryPairs "1&a=b+c%3D".toList = [("1", ""), ("a", "b c=")] := by decide +kernel

end Web
end MonitorAgent
