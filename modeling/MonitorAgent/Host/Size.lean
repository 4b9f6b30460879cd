import MonitorAgent.Decimal.Text

/-!
# Sizes and shares

Numbers of bytes for readers, and shares of a total in percent.

A size is divided by a thousand until it is below a thousand, and is rounded to
53 binary digits whenever it is divided.  It is counted in units of `2 ^ -52`:
no size gets smaller than one, so these always suffice, and the whole computation
is one on whole numbers.
-/

namespace MonitorAgent
namespace Host

def unitBits : Nat :=
  52

/-- The nearest number of units with 53 binary digits at most, for a quotient of
at least one. -/
def roundDigits (num den : Nat) : Nat :=
  let spare := (num / den).log2 - unitBits
  Decimal.divHalfEven num (den <<< spare) <<< spare

/-- The size scaled down by thousands, and the name of what it is counted in. -/
def scaleDown (size : Nat) : List String → Nat × Option String
  | [] => (size, none)
  | name :: names =>
    if size < 1000 <<< unitBits then (size, none)
    else
      match scaleDown (roundDigits size 1000) names with
      | (size, none) => (size, some name)
      | found => found

def sizeNames : List String :=
  ["KB", "MB", "GB", "TB", "PB"]

def tenths (size : Nat) : Nat :=
  Decimal.divHalfEven (size * 10) (1 <<< unitBits)

/-- Whole bytes below a thousand, else one decimal and the largest unit with a
number that was at least one before it was rounded. -/
def sizeText (bytes : Nat) : String :=
  match scaleDown (roundDigits (bytes <<< unitBits) 1) sizeNames with
  | (_, none) => toString bytes ++ " B"
  | (size, some name) => String.ofList (Decimal.pointed 1 (tenths size)) ++ " " ++ name

def percent (part total : Nat) : Float :=
  if total = 0 then 0 else Float.ofNat part / Float.ofNat total * 100

example : sizeText 999 = "999 B" ∧ sizeText 1500 = "1.5 KB" ∧ sizeText 999950 = "1000.0 KB" := by
  decide +kernel

end Host
end MonitorAgent
