import MonitorAgent.Text.Printable

/-!
# Quoted texts

A quoted text shows its unprintable characters, and those that would join the
character before them, as escapes.
-/

namespace MonitorAgent
namespace Text

def hexDigits (n : Nat) : List Char :=
  Nat.toDigits 16 n

/-- So many hexadecimal digits at least. -/
def paddedHex (places n : Nat) : List Char :=
  List.replicate (places - (hexDigits n).length) '0' ++ hexDigits n

def codePointEscape (c : Char) : List Char :=
  ['\\', 'u', '\x7b'] ++ hexDigits c.toNat ++ ['\x7d']

def escaped (c : Char) : List Char :=
  if c = '"' then ['\\', '"']
  else if c = '\\' then ['\\', '\\']
  else if c = '\n' then ['\\', 'n']
  else if c = '\r' then ['\\', 'r']
  else if c = '\t' then ['\\', 't']
  else if c = '\x00' then ['\\', '0']
  else if extendsGrapheme c || !isPrintable c then codePointEscape c
  else [c]

def quoted (s : List Char) : List Char :=
  '"' :: s.flatMap escaped ++ ['"']

example : quoted ['a', '"', '\x07'] = ['"', 'a', '\\', '"', '\\', 'u', '\x7b', '7', '\x7d', '"'] := by
  decide +kernel

end Text
end MonitorAgent
