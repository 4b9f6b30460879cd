import MonitorAgent.Decimal.Text
import MonitorAgent.Text.Quoted

/-!
# JSON bodies

Values and their text, without any blanks.  A number that is not whole by its
type always shows a point or an exponent; what is no number at all is `null`.
-/

namespace MonitorAgent
namespace Web

inductive Json where
  | null
  | whole (n : Int)
  | number (x : Float)
  | text (s : String)
  | array (items : List Json)
  | object (fields : List (String × Json))

namespace Json

def escaped (c : Char) : List Char :=
  if c = '"' then ['\\', '"']
  else if c = '\\' then ['\\', '\\']
  else if c = '\x08' then ['\\', 'b']
  else if c = '\x0c' then ['\\', 'f']
  else if c = '\n' then ['\\', 'n']
  else if c = '\r' then ['\\', 'r']
  else if c = '\t' then ['\\', 't']
  else if c.toNat < 0x20 then ['\\', 'u'] ++ Text.paddedHex 4 c.toNat
  else [c]

def quoted (s : String) : String :=
  String.ofList ('"' :: s.toList.flatMap escaped ++ ['"'])

/-- An exponent with its sign. -/
def exponentText (e : Int) : List Char :=
  (if e < 0 then '-' else '+') :: Nat.toDigits 10 e.natAbs

/-- One digit before the point and an exponent behind the others. -/
def scientific (d : Decimal.Digits) : List Char :=
  let fraction := d.digits.drop 1
  d.digits.take 1 ++ (if fraction.isEmpty then [] else '.' :: fraction) ++
    'e' :: exponentText (d.point - 1)

/-- Positional while the point stands at most five places before the first digit
and sixteen behind it. -/
def digitsText (d : Decimal.Digits) : List Char :=
  if -5 < d.point ∧ d.point ≤ 16 then
    d.positional ++ if d.digits.length ≤ d.point then ['.', '0'] else []
  else scientific d

/-- The shortest digits that read back, the even ones of two that are equally near. -/
def numberText (x : Float) : String :=
  match Decimal.Binary64.ofFloat x with
  | .finite negative m e =>
    String.ofList (Decimal.withSign negative
      (if m = 0 then ['0', '.', '0'] else digitsText (Decimal.Digits.shortest .even m e)))
  | _ => "null"

mutual

def render : Json → String
  | null => "null"
  | whole n => toString n
  | number x => numberText x
  | text s => quoted s
  | array items => "[" ++ renderItems items ++ "]"
  | object fields => "\x7b" ++ renderFields fields ++ "\x7d"

def renderItems : List Json → String
  | [] => ""
  | [item] => item.render
  | item :: items => item.render ++ "," ++ renderItems items

def renderFields : List (String × Json) → String
  | [] => ""
  | [(name, value)] => quoted name ++ ":" ++ value.render
  | (name, value) :: fields => quoted name ++ ":" ++ value.render ++ "," ++ renderFields fields

end

def optional : Option String → Json
  | none => null
  | some s => text s

def words (n : UInt64) : Json :=
  whole n.toNat

example : numberText 50 = "50.0" ∧ numberText 1e16 = "1e+16" ∧ numberText 1.5e-6 = "1.5e-6" := by
  decide +kernel

end Json
end Web
end MonitorAgent
