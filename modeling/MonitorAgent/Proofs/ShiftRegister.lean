import MonitorAgent.Nrpe.Checksum
import Mathlib.Logic.Function.Iterate

/-!
# The register of the checksum

Shifting one bit is linear in exclusive or and loses nothing.  A byte through the
table is eight bits, so the checksum is the one that a register without a table
computes bit by bit.  Up to four bytes enter the register like one word: two
blocks of that size which leave the same register are equal, and so are two
registers which the same bytes make equal.
-/

namespace MonitorAgent
namespace Nrpe

theorem toBitVec_shiftBit (x : UInt32) :
    (shiftBit x).toBitVec =
      if x.toBitVec.getLsbD 0 then x.toBitVec >>> 1 ^^^ polynomial.toBitVec
      else x.toBitVec >>> 1 := by
  have hlow : x &&& 1 = 1 ↔ x.toBitVec.getLsbD 0 = true := by
    rw [← UInt32.toBitVec_inj, UInt32.toBitVec_and, UInt32.toBitVec_one,
      BitVec.and_one_eq_setWidth_ofBool_getLsbD]
    cases x.toBitVec.getLsbD 0 <;> decide
  unfold shiftBit
  by_cases h : x.toBitVec.getLsbD 0 = true
  · rw [if_pos (hlow.2 h), if_pos h]
    rfl
  · rw [if_neg (mt hlow.1 h), if_neg h]
    rfl

theorem shiftBit_xor (x y : UInt32) : shiftBit (x ^^^ y) = shiftBit x ^^^ shiftBit y := by
  rw [← UInt32.toBitVec_inj]
  simp only [toBitVec_shiftBit, UInt32.toBitVec_xor, BitVec.getLsbD_xor,
    BitVec.ushiftRight_xor_distrib]
  generalize x.toBitVec >>> 1 = a, y.toBitVec >>> 1 = b, polynomial.toBitVec = p
  cases x.toBitVec.getLsbD 0 <;> cases y.toBitVec.getLsbD 0 <;>
    simp only [bne_self_eq_false, Bool.false_eq_true, if_false, if_true, Bool.bne_false,
      Bool.bne_true, Bool.not_false]
  · ac_rfl
  · ac_rfl
  · calc
      a ^^^ b = a ^^^ b ^^^ (p ^^^ p) := by rw [BitVec.xor_self, BitVec.xor_zero]
      _ = a ^^^ p ^^^ (b ^^^ p) := by ac_rfl

/-- The polynomial has its highest bit, which a register that was shifted lacks. -/
theorem shiftBit_eq_zero {x : UInt32} (h : shiftBit x = 0) : x = 0 := by
  rw [← UInt32.toBitVec_inj, toBitVec_shiftBit] at h
  split at h
  next hlow =>
    have htop := congrArg (·.getLsbD 31) h
    simp only [BitVec.getLsbD_xor, BitVec.getLsbD_ushiftRight] at htop
    rw [BitVec.getLsbD_of_ge _ (1 + 31) (by decide)] at htop
    exact absurd htop (by decide)
  next hlow =>
    rw [← UInt32.toBitVec_inj]
    apply BitVec.eq_of_getLsbD_eq
    intro i hi
    cases i with
    | zero => simpa using hlow
    | succ i =>
        have hbit := congrArg (·.getLsbD i) h
        simpa [Nat.add_comm] using hbit

theorem shiftBits_xor (n : Nat) (x y : UInt32) :
    shiftBits n (x ^^^ y) = shiftBits n x ^^^ shiftBits n y := by
  induction n generalizing x y with
  | zero => rfl
  | succ n ih => rw [shiftBits, shiftBit_xor, ih, shiftBits, shiftBits]

theorem shiftBits_eq_zero {n : Nat} {x : UInt32} (h : shiftBits n x = 0) : x = 0 := by
  induction n generalizing x with
  | zero => exact h
  | succ n ih => exact shiftBit_eq_zero (ih h)

theorem shiftBits_injective {n : Nat} {x y : UInt32} (h : shiftBits n x = shiftBits n y) : x = y := by
  have hdiff : shiftBits n (x ^^^ y) = 0 := by rw [shiftBits_xor, h, UInt32.xor_self]
  exact UInt32.xor_eq_zero_iff.1 (shiftBits_eq_zero hdiff)

theorem shiftBits_add (m n : Nat) (x : UInt32) :
    shiftBits (m + n) x = shiftBits n (shiftBits m x) := by
  induction m generalizing x with
  | zero => rw [Nat.zero_add]; rfl
  | succ m ih => rw [Nat.succ_add, shiftBits, ih, shiftBits]

/-- Zeros at the low end are shifted out without any feedback. -/
theorem toBitVec_shiftBits_of_low {n : Nat} {x : UInt32}
    (h : ∀ i < n, x.toBitVec.getLsbD i = false) :
    (shiftBits n x).toBitVec = x.toBitVec >>> n := by
  induction n generalizing x with
  | zero => rw [BitVec.ushiftRight_zero]; rfl
  | succ n ih =>
      have hstep : (shiftBit x).toBitVec = x.toBitVec >>> 1 := by
        rw [toBitVec_shiftBit, h 0 (Nat.zero_lt_succ n)]
        rfl
      have hlow : ∀ i < n, (shiftBit x).toBitVec.getLsbD i = false := by
        intro i hi
        rw [hstep, BitVec.getLsbD_ushiftRight]
        exact h (1 + i) (by omega)
      rw [shiftBits, ih hlow, hstep, ← BitVec.shiftRight_add, Nat.add_comm]

theorem shiftBits_eight_shiftLeft {x : UInt32} (h : ∀ i, 24 ≤ i → x.toBitVec.getLsbD i = false) :
    shiftBits 8 (x <<< 8) = x := by
  have hlow : ∀ i < 8, (x <<< 8).toBitVec.getLsbD i = false := by
    intro i hi
    rw [UInt32.toBitVec_shiftLeft]
    simp [hi]
  rw [← UInt32.toBitVec_inj, toBitVec_shiftBits_of_low hlow]
  apply BitVec.eq_of_getLsbD_eq
  intro i hi
  have hshift : (x <<< 8).toBitVec = x.toBitVec <<< 8 := rfl
  rw [hshift, BitVec.getLsbD_ushiftRight, BitVec.getLsbD_shiftLeft, Nat.add_sub_cancel_left]
  by_cases hi' : i < 24
  · simp [show 8 + i < 32 by omega]
  · simp [h i (by omega)]

/-- Table and byte step: the low byte goes through the table, the others move down. -/
theorem shiftByte_eq_shiftBits (crc : UInt32) (b : UInt8) :
    shiftByte crc b = shiftBits 8 (crc ^^^ b.toUInt32) := by
  have hsplit : crc ^^^ b.toUInt32 = (crc.toUInt8 ^^^ b).toUInt32 ^^^ (crc >>> 8) <<< 8 := by
    rw [← UInt32.toBitVec_inj]
    apply BitVec.eq_of_getLsbD_eq
    intro i hi
    have hshift : ((crc >>> 8) <<< 8).toBitVec = crc.toBitVec >>> 8 <<< 8 := rfl
    rw [UInt32.toBitVec_xor, UInt32.toBitVec_xor, hshift]
    simp only [UInt8.toBitVec_toUInt32, UInt32.toBitVec_toUInt8, UInt8.toBitVec_xor,
      BitVec.getLsbD_xor, BitVec.getLsbD_shiftLeft, BitVec.getLsbD_ushiftRight,
      BitVec.getLsbD_setWidth]
    by_cases hlow : i < 8
    · simp [hlow, hi]
    · have hb : b.toBitVec.getLsbD i = false := BitVec.getLsbD_of_ge _ _ (by omega)
      simp [hlow, hi, hb, show 8 + (i - 8) = i by omega]
  have hhigh : ∀ i, 24 ≤ i → (crc >>> 8).toBitVec.getLsbD i = false := by
    intro i hi
    have hshift : (crc >>> 8).toBitVec = crc.toBitVec >>> 8 := rfl
    rw [hshift, BitVec.getLsbD_ushiftRight]
    exact BitVec.getLsbD_of_ge _ _ (by omega)
  rw [hsplit, shiftBits_xor, shiftBits_eight_shiftLeft hhigh, UInt32.xor_comm]
  simp only [shiftByte]
  rw [getElem_checksumTable, UInt32.ofNat_uInt8ToNat]

/-! ## Without a table -/

/-- The register after the bit at its low end has left it. -/
def serialBit (r : BitVec 32) : BitVec 32 :=
  if r.getLsbD 0 then (r >>> 1) ^^^ 0xEDB88320#32 else r >>> 1

/-- A byte is added at the low end and leaves the register bit by bit. -/
def serialByte (r : BitVec 32) (b : UInt8) : BitVec 32 :=
  serialBit^[8] (r ^^^ b.toBitVec.setWidth 32)

/-- The checksum as it is specified: all ones at the start, all bits inverted at the end. -/
def serialChecksum (bytes : List UInt8) : BitVec 32 :=
  ~~~bytes.foldl serialByte 0xFFFFFFFF#32

theorem toBitVec_shiftBits (n : Nat) (x : UInt32) :
    (shiftBits n x).toBitVec = serialBit^[n] x.toBitVec := by
  induction n generalizing x with
  | zero => rfl
  | succ n ih =>
      have hbit : (shiftBit x).toBitVec = serialBit x.toBitVec := toBitVec_shiftBit x
      rw [shiftBits, ih, hbit, Function.iterate_succ_apply]

/-- The table makes no difference, whatever the register holds. -/
theorem toBitVec_shiftByte (crc : UInt32) (b : UInt8) :
    (shiftByte crc b).toBitVec = serialByte crc.toBitVec b := by
  rw [shiftByte_eq_shiftBits, toBitVec_shiftBits, UInt32.toBitVec_xor, UInt8.toBitVec_toUInt32]
  rfl

theorem toBitVec_checksumFrom (crc : UInt32) (bytes : List UInt8) :
    (checksumFrom crc bytes).toBitVec = bytes.foldl serialByte crc.toBitVec :=
  (List.foldl_hom UInt32.toBitVec fun crc b => (toBitVec_shiftByte crc b).symm).symm

/-- The checksum through the table is the one without. -/
theorem toBitVec_checksum (bytes : List UInt8) :
    (checksum bytes).toBitVec = serialChecksum bytes := by
  rw [checksum, UInt32.toBitVec_xor, toBitVec_checksumFrom]
  exact BitVec.xor_allOnes

/-- The digits from 1 to 9. -/
example : checksum [0x31, 0x32, 0x33, 0x34, 0x35, 0x36, 0x37, 0x38, 0x39] = 0xCBF43926 := by
  decide +kernel

/-! ## Blocks of up to four bytes -/

/-- Up to four bytes as one word, the first byte lowest. -/
def lowWord : List UInt8 → UInt32
  | [] => 0
  | b :: bytes => b.toUInt32 ^^^ lowWord bytes <<< 8

theorem getLsbD_lowWord (bytes : List UInt8) {i : Nat} (hi : 8 * bytes.length ≤ i) :
    (lowWord bytes).toBitVec.getLsbD i = false := by
  induction bytes generalizing i with
  | nil => exact BitVec.getLsbD_zero
  | cons b bytes ih =>
      rw [List.length_cons] at hi
      have hshift : (lowWord bytes <<< 8).toBitVec = (lowWord bytes).toBitVec <<< 8 := rfl
      have hb : b.toBitVec.getLsbD i = false := BitVec.getLsbD_of_ge _ _ (by omega)
      rw [lowWord, UInt32.toBitVec_xor, hshift]
      simp [hb, ih (show 8 * bytes.length ≤ i - 8 by omega)]

theorem shiftBits_eight_lowWord {bytes : List UInt8} (h : bytes.length ≤ 3) :
    shiftBits 8 (lowWord bytes <<< 8) = lowWord bytes :=
  shiftBits_eight_shiftLeft fun _ hi => getLsbD_lowWord bytes (by omega)

theorem toUInt8_shiftLeft_eight (x : UInt32) : (x <<< 8).toUInt8 = 0 := by
  rw [← UInt8.toNat_inj, UInt32.toNat_toUInt8, UInt32.toNat_shiftLeft, Nat.shiftLeft_eq]
  change x.toNat * 256 % 4294967296 % 256 = 0
  omega

theorem lowWord_injective {x y : List UInt8} (hlen : x.length = y.length) (h4 : x.length ≤ 4)
    (h : lowWord x = lowWord y) : x = y := by
  induction x generalizing y with
  | nil => exact (List.length_eq_zero_iff.1 hlen.symm).symm
  | cons a x ih =>
      cases y with
      | nil => cases hlen
      | cons b y =>
          have hxy : x.length = y.length := Nat.succ.inj hlen
          have hx : x.length ≤ 3 := Nat.le_of_succ_le_succ h4
          rw [lowWord, lowWord] at h
          have hab : a = b := by
            have hbyte := congrArg UInt32.toUInt8 h
            simpa [toUInt8_shiftLeft_eight] using hbyte
          subst hab
          have hhigh : lowWord x <<< 8 = lowWord y <<< 8 := (UInt32.xor_right_inj _).1 h
          have hword : lowWord x = lowWord y := by
            rw [← shiftBits_eight_lowWord hx, hhigh, shiftBits_eight_lowWord (hxy ▸ hx)]
          rw [ih hxy (by omega) hword]

/-- Up to four bytes enter the register as if their word had been added at once. -/
theorem checksumFrom_eq_shiftBits (crc : UInt32) {bytes : List UInt8} (h : bytes.length ≤ 4) :
    checksumFrom crc bytes = shiftBits (8 * bytes.length) (crc ^^^ lowWord bytes) := by
  induction bytes generalizing crc with
  | nil => exact UInt32.xor_zero.symm
  | cons b bytes ih =>
      have hbytes : bytes.length ≤ 3 := Nat.le_of_succ_le_succ h
      calc
        checksumFrom crc (b :: bytes) = checksumFrom (shiftByte crc b) bytes := rfl
        _ = shiftBits (8 * bytes.length) (shiftBits 8 (crc ^^^ b.toUInt32) ^^^ lowWord bytes) := by
          rw [ih _ (by omega), shiftByte_eq_shiftBits]
        _ = shiftBits (8 * bytes.length) (shiftBits 8 (crc ^^^ lowWord (b :: bytes))) := by
          rw [lowWord, ← UInt32.xor_assoc, shiftBits_xor 8 (crc ^^^ b.toUInt32),
            shiftBits_eight_lowWord hbytes]
        _ = shiftBits (8 * (b :: bytes).length) (crc ^^^ lowWord (b :: bytes)) := by
          rw [← shiftBits_add, List.length_cons, Nat.mul_succ, Nat.add_comm]

theorem checksumFrom_block_injective {crc : UInt32} {x y : List UInt8}
    (hlen : x.length = y.length) (h4 : x.length ≤ 4)
    (h : checksumFrom crc x = checksumFrom crc y) : x = y := by
  rw [checksumFrom_eq_shiftBits crc h4, checksumFrom_eq_shiftBits crc (hlen ▸ h4), hlen] at h
  exact lowWord_injective hlen h4 ((UInt32.xor_right_inj crc).1 (shiftBits_injective h))

theorem checksumFrom_injective (bytes : List UInt8) {crc crc' : UInt32}
    (h : checksumFrom crc bytes = checksumFrom crc' bytes) : crc = crc' := by
  induction bytes generalizing crc crc' with
  | nil => exact h
  | cons b bytes ih =>
      have hstep : shiftByte crc b = shiftByte crc' b := ih h
      rw [shiftByte_eq_shiftBits, shiftByte_eq_shiftBits] at hstep
      exact (UInt32.xor_left_inj _).1 (shiftBits_injective hstep)

/-- A change of at most four bytes in one place changes the checksum. -/
theorem checksum_block_injective {before x y after : List UInt8} (hlen : x.length = y.length)
    (h4 : x.length ≤ 4)
    (h : checksum (before ++ x ++ after) = checksum (before ++ y ++ after)) : x = y := by
  have hregister := (UInt32.xor_left_inj _).1 h
  simp only [checksumFrom_append] at hregister
  exact checksumFrom_block_injective hlen h4 (checksumFrom_injective after hregister)

end Nrpe
end MonitorAgent
