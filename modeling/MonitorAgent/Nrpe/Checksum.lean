/-!
# Checksums of packets

The reflected cyclic redundancy check of 32 bits, with the polynomial
`0xEDB88320`.  A table holds what eight single bits do to each low byte.
-/

namespace MonitorAgent
namespace Nrpe

def polynomial : UInt32 :=
  0xEDB88320

/-- Shifts one bit out. -/
def shiftBit (crc : UInt32) : UInt32 :=
  if crc &&& 1 = 1 then (crc >>> 1) ^^^ polynomial else crc >>> 1

def shiftBits : Nat → UInt32 → UInt32
  | 0, crc => crc
  | n + 1, crc => shiftBits n (shiftBit crc)

def checksumTable : Vector UInt32 256 :=
  Vector.ofFn fun i => shiftBits 8 (UInt32.ofNat i.val)

/-- Shifts one byte in. -/
def shiftByte (crc : UInt32) (b : UInt8) : UInt32 :=
  have : (crc.toUInt8 ^^^ b).toNat < 256 := UInt8.toNat_lt _
  (crc >>> 8) ^^^ checksumTable[(crc.toUInt8 ^^^ b).toNat]

def checksumFrom (crc : UInt32) (bytes : List UInt8) : UInt32 :=
  bytes.foldl shiftByte crc

def checksum (bytes : List UInt8) : UInt32 :=
  checksumFrom 0xFFFFFFFF bytes ^^^ 0xFFFFFFFF

@[simp] theorem checksumFrom_nil (crc : UInt32) : checksumFrom crc [] = crc := rfl

theorem checksumFrom_append (crc : UInt32) (a b : List UInt8) :
    checksumFrom crc (a ++ b) = checksumFrom (checksumFrom crc a) b :=
  List.foldl_append

theorem getElem_checksumTable {n : Nat} (h : n < 256) :
    checksumTable[n] = shiftBits 8 (UInt32.ofNat n) := by
  simp [checksumTable]

end Nrpe
end MonitorAgent
