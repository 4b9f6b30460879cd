/-!
# UTF-8

Encoding is that of the standard library.  Decoding accepts any bytes: a
maximal part that begins a character but does not go on as one, and a byte that
begins none, are ill-formed parts.
-/

namespace MonitorAgent
namespace Text
namespace Utf8

def encode (s : List Char) : List UInt8 :=
  s.flatMap String.utf8EncodeChar

/-- A begun character: its bits so far, how many bytes are missing, and the
bounds of the next one. -/
structure Begun where
  bits : Nat
  missing : Nat
  low : UInt8
  high : UInt8
  deriving DecidableEq, Repr

/-- What a first byte of several begins.  The bounds of the second byte keep out
overlong forms, surrogates and what lies beyond the last character. -/
def begin? (b : UInt8) : Option Begun :=
  if b < 0xC2 then none
  else if b < 0xE0 then some ⟨b.toNat - 0xC0, 1, 0x80, 0xBF⟩
  else if b = 0xE0 then some ⟨0, 2, 0xA0, 0xBF⟩
  else if b = 0xED then some ⟨0xD, 2, 0x80, 0x9F⟩
  else if b < 0xF0 then some ⟨b.toNat - 0xE0, 2, 0x80, 0xBF⟩
  else if b = 0xF0 then some ⟨0, 3, 0x90, 0xBF⟩
  else if b < 0xF4 then some ⟨b.toNat - 0xF0, 3, 0x80, 0xBF⟩
  else if b = 0xF4 then some ⟨4, 3, 0x80, 0x8F⟩
  else none

/-- What a byte at the start of a character yields; `none` stands for an
ill-formed part. -/
def first (b : UInt8) : List (Option Char) × Option Begun :=
  if b < 0x80 then ([some (Char.ofNat b.toNat)], none)
  else
    match begin? b with
    | some begun => ([], some begun)
    | none => ([none], none)

def Begun.accepts (p : Begun) (b : UInt8) : Bool :=
  p.low ≤ b && b ≤ p.high

def Begun.next (p : Begun) (b : UInt8) : List (Option Char) × Option Begun :=
  let bits := 64 * p.bits + (b.toNat - 0x80)
  if p.missing = 1 then ([some (Char.ofNat bits)], none)
  else ([], some ⟨bits, p.missing - 1, 0x80, 0xBF⟩)

def step (p : Option Begun) (b : UInt8) : List (Option Char) × Option Begun :=
  match p with
  | none => first b
  | some begun =>
    if begun.accepts b then begun.next b
    else
      let (parts, rest) := first b
      (none :: parts, rest)

/-- The characters and the ill-formed parts that follow what has begun. -/
def partsFrom (p : Option Begun) : List UInt8 → List (Option Char)
  | [] => if p.isSome then [none] else []
  | b :: bytes =>
    let (parts, rest) := step p b
    parts ++ partsFrom rest bytes

def parts (bytes : List UInt8) : List (Option Char) :=
  partsFrom none bytes

def replacement : Char :=
  '\ufffd'

/-- Each ill-formed part becomes one replacement character. -/
def decodeLossy (bytes : List UInt8) : List Char :=
  (parts bytes).map (·.getD replacement)

/-- The characters of bytes without an ill-formed part. -/
def decode? (bytes : List UInt8) : Option (List Char) :=
  (parts bytes).mapM id

example : decodeLossy [0x61, 0xF0, 0x90, 0x62, 0xC3] = ['a', replacement, 'b', replacement] := by
  decide

example : decode? (encode ['€', 'é']) = some ['€', 'é'] := by decide +kernel

end Utf8
end Text
end MonitorAgent
