import MonitorAgent.Proofs.NumberReading
import Mathlib.Algebra.Group.Nat.Defs

/-!
# Rounding of numbers

A number is packed into the fields that it was unpacked from.  A number times one is the
number itself, as its digits of zero are dropped again.  The digits of a text never round to
what is not a number, so that only the word `nan` reads as such, and only such a number is
different from itself.
-/

namespace MonitorAgent
namespace Decimal

open Float.Model
open Float.Model.UnpackedFloat

variable {u : UnpackedFloat} {s : Sign} {field : BitVec 11} {mantissa : BitVec 52}

/-! ## Rounded numbers -/

/-- The exponent is the least that the format has for the number. -/
def IsRounded : UnpackedFloat → Prop
  | .finite _ mantissa exponent _ =>
    Format.binary64.targetExponent (totalExponent mantissa exponent) = exponent
  | _ => True

theorem targetExponent_binary64 (total : Int) :
    Format.binary64.targetExponent total = max (total - 53) (-1074) := rfl

theorem log2_mul_two_pow {m : Nat} (hm : 0 < m) (k : Nat) : (m * 2 ^ k).log2 = m.log2 + k := by
  have hne : m * 2 ^ k ≠ 0 := Nat.ne_of_gt (Nat.mul_pos hm (Nat.two_pow_pos k))
  obtain ⟨hlow, hhigh⟩ := (Nat.log2_eq_iff (Nat.ne_of_gt hm)).mp rfl
  refine (Nat.log2_eq_iff hne).mpr ⟨?_, ?_⟩
  · rw [Nat.pow_add]
    exact Nat.mul_le_mul_right _ hlow
  · rw [Nat.add_right_comm, Nat.pow_add]
    exact Nat.mul_lt_mul_of_pos_right hhigh (Nat.two_pow_pos k)

theorem shiftRight_mul_two_pow (m k : Nat) :
    ExtendedMantissa.mk (m * 2 ^ k) false false >>> k = ExtendedMantissa.mk m false false := by
  induction k generalizing m with
  | zero =>
      rw [Nat.pow_zero, Nat.mul_one]
      rfl
  | succ k ih =>
      have hdouble : m * 2 ^ (k + 1) = m * 2 * 2 ^ k := by
        rw [Nat.pow_succ, Nat.mul_assoc, Nat.mul_comm 2]
      change ExtendedMantissa.shiftRightOne
        (ExtendedMantissa.mk (m * 2 ^ (k + 1)) false false >>> k) = _
      rw [hdouble, ih]
      simp [ExtendedMantissa.shiftRightOne]

/-- Digits of zero behind a rounded number are dropped. -/
theorem shiftToTargetExponent_mul_two_pow {s : Sign} {m : Nat} {e : Int} (hm : 0 < m)
    (h : IsRounded (.finite s m e hm)) (k : Nat) :
    shiftToTargetExponent Format.binary64 (m * 2 ^ k) (e - k) .exact = (⟨m, false, false⟩, e) := by
  have htotal : totalExponent (m * 2 ^ k) (e - k) = totalExponent m e := by
    rw [totalExponent, totalExponent, log2_mul_two_pow hm]
    omega
  have htarget : Format.binary64.targetExponent (totalExponent m e) = e := h
  have hshift : (e - (e - k)).toNat = k := by omega
  rw [shiftToTargetExponent, htotal, htarget, shiftToExponent, hshift,
    ExtendedMantissa.ofMantissaAndAccuracy, shiftRight_mul_two_pow, Int.sub_add_cancel]

theorem roundWithAccuracy_mul_two_pow {s : Sign} {m : Nat} {e : Int} (hm : 0 < m)
    (h : IsRounded (.finite s m e hm)) (k : Nat) :
    roundWithAccuracy Format.binary64 s (m * 2 ^ k) (e - k) .exact = .finite s m e hm := by
  have hagain := shiftToTargetExponent_mul_two_pow hm h 0
  rw [Nat.pow_zero, Nat.mul_one, Int.natCast_zero, Int.sub_zero] at hagain
  rw [roundWithAccuracy, shiftToTargetExponent_mul_two_pow hm h]
  dsimp only [ExtendedMantissa.roundedMantissa, ExtendedMantissa.accuracy,
    Accuracy.roundToNearestEven]
  rw [hagain]
  exact dif_neg (Nat.ne_of_gt hm)

/-! ## Packed numbers -/

/-- What the three fields of a packed number stand for. -/
inductive Unpacks (s : Sign) (field : BitVec 11) (mantissa : BitVec 52) : UnpackedFloat → Prop
  | infinity : field = -1#11 → mantissa = 0#52 → Unpacks s field mantissa (.infinity s)
  | notANumber : field = -1#11 → ¬mantissa = 0#52 → Unpacks s field mantissa .notANumber
  | zero : field = 0#11 → mantissa = 0#52 → Unpacks s field mantissa (.zero s)
  | subnormal (hm : 0 < mantissa.toNat) : field = 0#11 →
      Unpacks s field mantissa (.finite s mantissa.toNat (field.toNat - 1075 + 1) hm)
  | normal (hm : 0 < (1#1 ++ mantissa).toNat) : ¬field = -1#11 → ¬field = 0#11 →
      Unpacks s field mantissa (.finite s (1#1 ++ mantissa).toNat (field.toNat - 1075) hm)

theorem unpacks_unpack (bits : BitVec Format.binary64.numBits) :
    Unpacks (Sign.ofBitVec (unpackSign bits)) (unpackExponent bits) (unpackMantissa bits)
      (UnpackedFloat.unpack Format.binary64 bits) := by
  delta UnpackedFloat.unpack
  refine iteInduction (fun hinfinite => ?_) fun hfinite => ?_
  · exact iteInduction (fun hzero => .infinity hinfinite hzero) (.notANumber hinfinite)
  · refine iteInduction (fun hsubnormal => ?_) fun hnormal => .normal _ hfinite hnormal
    by_cases hzero : unpackMantissa bits = 0#52
    · rw [dif_pos hzero]
      exact .zero hsubnormal hzero
    · rw [dif_neg hzero]
      exact .subnormal _ hsubnormal

theorem toNat_append_mantissa (mantissa : BitVec 52) :
    (1#1 ++ mantissa).toNat = 2 ^ 52 + mantissa.toNat := by
  have hor := Nat.two_pow_add_eq_or_of_lt mantissa.isLt 1
  rw [Nat.mul_one] at hor
  rw [BitVec.toNat_append, hor]
  rfl

/-- A normal number has a mantissa of just 53 bits. -/
theorem log2_append_mantissa (mantissa : BitVec 52) : (1#1 ++ mantissa).toNat.log2 = 52 := by
  have hlt : mantissa.toNat < 2 ^ 52 := mantissa.isLt
  rw [toNat_append_mantissa]
  refine (Nat.log2_eq_iff ?_).mpr ⟨?_, ?_⟩ <;> omega

theorem log2_mantissa_lt (hm : 0 < mantissa.toNat) : mantissa.toNat.log2 < 52 :=
  (Nat.log2_lt (Nat.ne_of_gt hm)).mpr mantissa.isLt

theorem Unpacks.isRounded (h : Unpacks s field mantissa u) : IsRounded u := by
  cases h with
  | infinity | notANumber | zero => trivial
  | subnormal hm hfield =>
      -- A number below the normal ones has the least exponent of all.
      have hlog := log2_mantissa_lt hm
      have hnat : field.toNat = 0 := congrArg BitVec.toNat hfield
      change Format.binary64.targetExponent (totalExponent _ _) = _
      rw [targetExponent_binary64, totalExponent]
      omega
  | normal hm hfinite hnormal =>
      have hlog := log2_append_mantissa mantissa
      have hnat : field.toNat ≠ 0 := fun hzero => hnormal (BitVec.eq_of_toNat_eq hzero)
      change Format.binary64.targetExponent (totalExponent _ _) = _
      rw [targetExponent_binary64, totalExponent]
      omega

/-- A number is packed into the fields that it was unpacked from. -/
theorem Unpacks.pack_eq (h : Unpacks s field mantissa u) (hnan : u ≠ .notANumber) :
    UnpackedFloat.pack Format.binary64 u = packComponents Format.binary64 s field mantissa := by
  cases h with
  | notANumber => exact absurd rfl hnan
  | infinity hfield hmantissa | zero hfield hmantissa =>
      rw [hfield, hmantissa]
      rfl
  | subnormal hm hfield =>
      have hlog := log2_mantissa_lt hm
      have hshort : ¬mantissa.toNat.log2 + 1 = 53 := by omega
      have hmantissa : BitVec.ofNat 52 mantissa.toNat = mantissa :=
        (BitVec.ofNat_toNat ..).trans (BitVec.setWidth_eq mantissa)
      subst hfield
      exact (if_neg hshort).trans (congrArg (packComponents Format.binary64 s 0#11) hmantissa)
  | normal hm hfinite hnormal =>
      have hsmall : ¬2 ^ 11 ≤ field.toNat + 1 := by
        have hlt := field.isLt
        have hne : field.toNat ≠ 2047 := fun hall => hfinite (BitVec.eq_of_toNat_eq hall)
        omega
      have hlong : (1#1 ++ mantissa).toNat.log2 + 1 = 53 := by rw [log2_append_mantissa]
      have hexponent : ((field.toNat : Int) - 1075 + 1023 + 52).toNat = field.toNat := by omega
      have hfield : BitVec.ofNat 11 field.toNat = field :=
        (BitVec.ofNat_toNat ..).trans (BitVec.setWidth_eq field)
      have hmantissa : BitVec.ofNat 52 (1#1 ++ mantissa).toNat = mantissa := by
        apply BitVec.eq_of_toNat_eq
        rw [toNat_append_mantissa, BitVec.toNat_ofNat, Nat.add_mod_left]
        exact Nat.mod_eq_of_lt mantissa.isLt
      change (if 2 ^ 11 ≤ ((field.toNat : Int) - 1075 + 1023 + 52).toNat + 1 then _ else
        if (1#1 ++ mantissa).toNat.log2 + 1 = 53 then
          packComponents Format.binary64 s
            (BitVec.ofNat 11 ((field.toNat : Int) - 1075 + 1023 + 52).toNat)
            (BitVec.ofNat 52 (1#1 ++ mantissa).toNat)
        else _) = _
      rw [hexponent, if_neg hsmall, if_pos hlong, hfield, hmantissa]

theorem packComponents_unpack (bits : BitVec Format.binary64.numBits) :
    packComponents Format.binary64 (Sign.ofBitVec (unpackSign bits)) (unpackExponent bits)
      (unpackMantissa bits) = bits := by
  have hsign (b : BitVec 1) : (Sign.ofBitVec b).toBitVec = b := by
    revert b
    decide
  have hfields (b : BitVec 64) :
      b.extractLsb' 63 1 ++ b.extractLsb' 52 11 ++ b.extractLsb' 0 52 = b := by
    have hhead : b.extractLsb' 63 1 ++ b.extractLsb' 52 11 = b.extractLsb' 52 12 :=
      BitVec.extractLsb'_append_extractLsb'_eq_extractLsb' rfl
    have hwhole : b.extractLsb' 52 12 ++ b.extractLsb' 0 52 = b.extractLsb' 0 64 :=
      BitVec.extractLsb'_append_extractLsb'_eq_extractLsb' rfl
    rw [hhead, hwhole]
    exact BitVec.extractLsb'_eq_self
  rw [packComponents, hsign]
  exact hfields bits

theorem unpack_eq_notANumber_iff {bits : BitVec Format.binary64.numBits} :
    UnpackedFloat.unpack Format.binary64 bits = .notANumber ↔
      unpackExponent bits = -1#11 ∧ ¬unpackMantissa bits = 0#52 := by
  have hunpacks := unpacks_unpack bits
  generalize UnpackedFloat.unpack Format.binary64 bits = u at hunpacks
  cases hunpacks with
  | infinity hfield hmantissa =>
      exact iff_of_false UnpackedFloat.noConfusion fun h => h.2 hmantissa
  | notANumber hfield hmantissa => exact iff_of_true rfl ⟨hfield, hmantissa⟩
  | zero hfield hmantissa => exact iff_of_false UnpackedFloat.noConfusion fun h => h.2 hmantissa
  | subnormal hm hfield =>
      rw [hfield]
      exact iff_of_false UnpackedFloat.noConfusion fun h => absurd h.1 (by decide)
  | normal hm hfinite hnormal => exact iff_of_false UnpackedFloat.noConfusion fun h => hfinite h.1

theorem pack_unpack (x : Float.Model) : Float.Model.pack x.unpack = x := by
  have hbits : UnpackedFloat.pack Format.binary64 x.unpack = x.toBits.toBitVec := by
    by_cases hnan : x.unpack = .notANumber
    · obtain ⟨hfield, hmantissa⟩ := unpack_eq_notANumber_iff.mp hnan
      rw [hnan]
      exact (x.valid.eq_packedNaN hfield hmantissa).symm
    · exact ((unpacks_unpack _).pack_eq hnan).trans (packComponents_unpack _)
  cases x with
  | mk bits valid => exact (Float.Model.mk.injEq ..).mpr (congrArg UInt64.ofBitVec hbits)

/-! ## Multiplication by one -/

/-- The unit as it is packed: a mantissa of all 53 bits. -/
theorem mul_unit (h : IsRounded u) :
    UnpackedFloat.mul Format.binary64 u (.finite .positive (2 ^ 52) (-52) (by decide)) = u := by
  have hsign (s : Sign) : s * .positive = s := by cases s <;> rfl
  cases u with
  | notANumber => rfl
  | infinity s => exact congrArg UnpackedFloat.infinity (hsign s)
  | zero s => exact congrArg UnpackedFloat.zero (hsign s)
  | finite s m e hm =>
      change roundWithAccuracy Format.binary64 (s * .positive) (m * 2 ^ 52) (e - 52) .exact = _
      rw [hsign]
      exact roundWithAccuracy_mul_two_pow hm h 52

theorem mul_one (x : Float) : x * 1 = x := by
  have hrounded : IsRounded x.toModel.unpack := (unpacks_unpack _).isRounded
  have hone : (1 : Float).toModel.unpack = .finite .positive (2 ^ 52) (-52) (by decide) := rfl
  have hproduct : x * 1 = .ofModel (Float.Model.pack
      (UnpackedFloat.mul Format.binary64 x.toModel.unpack (1 : Float).toModel.unpack)) := rfl
  rw [hproduct, hone, mul_unit hrounded, pack_unpack]

/-! ## What is not a number -/

theorem isNaN_iff {x : Float} : x.isNaN = true ↔ x.toModel.unpack = .notANumber := by
  change x.toModel.unpack.isNaN = true ↔ _
  cases x.toModel.unpack with
  | notANumber => exact iff_of_true rfl rfl
  | infinity | zero | finite => exact iff_of_false Bool.false_ne_true UnpackedFloat.noConfusion

theorem beq_self_iff {x : Float} : (x == x) = true ↔ ¬x.isNaN = true := by
  rw [isNaN_iff]
  change (x.toModel.unpack.compare x.toModel.unpack == some .eq) = true ↔ _
  cases x.toModel.unpack with
  | notANumber => exact iff_of_false Bool.false_ne_true (not_not_intro rfl)
  | zero => exact iff_of_true rfl UnpackedFloat.noConfusion
  | infinity s =>
      refine iff_of_true ?_ UnpackedFloat.noConfusion
      cases s <;> rfl
  | finite s m e hm =>
      have hexponents : compare e e = .eq := Std.ReflCmp.compare_self
      have hmantissas : compare m m = .eq := Std.ReflCmp.compare_self
      have hsame : (compare e e).then (compare m m) = .eq := by
        rw [hexponents, hmantissas]
        rfl
      refine iff_of_true (beq_iff_eq.mpr ?_) UnpackedFloat.noConfusion
      cases s with
      | positive => exact congrArg some hsame
      | negative => exact congrArg (fun order => some order.swap) hsame

theorem unpack_packComponents_ne_notANumber (hfield : ¬field = -1#11) (s : Sign)
    (mantissa : BitVec 52) :
    UnpackedFloat.unpack Format.binary64 (packComponents Format.binary64 s field mantissa) ≠
      .notANumber := by
  intro hnan
  have hall := (unpack_eq_notANumber_iff.mp hnan).1
  rw [unpackExponent_packComponents] at hall
  exact hfield hall

theorem unpack_packedInfinity_ne_notANumber (s : Sign) :
    UnpackedFloat.unpack Format.binary64 (packedInfinity Format.binary64 s) ≠ .notANumber := by
  intro hnan
  apply (unpack_eq_notANumber_iff.mp hnan).2
  exact unpackMantissa_packComponents

/-- Only what is not a number is packed as such. -/
theorem isNaN_ofModel_pack : (Float.ofModel (Float.Model.pack u)).isNaN = true ↔
    u = .notANumber := by
  have hzero : ¬0#11 = -1#11 := by decide
  rw [isNaN_iff]
  change UnpackedFloat.unpack Format.binary64 (UnpackedFloat.pack Format.binary64 u) = _ ↔ _
  cases u with
  | notANumber => exact iff_of_true rfl rfl
  | infinity s =>
      exact iff_of_false (unpack_packedInfinity_ne_notANumber s) UnpackedFloat.noConfusion
  | zero s =>
      exact iff_of_false (unpack_packComponents_ne_notANumber hzero s _) UnpackedFloat.noConfusion
  | finite s m e hm =>
      refine iff_of_false ?_ UnpackedFloat.noConfusion
      delta UnpackedFloat.pack
      dsimp only
      split
      next => exact unpack_packedInfinity_ne_notANumber s
      next hsmall =>
        split
        next =>
          -- A field of all ones would have been packed as infinite.
          refine unpack_packComponents_ne_notANumber (fun hfield => ?_) s _
          have hall := congrArg BitVec.toNat hfield
          change (e + 1023 + 52).toNat % 2 ^ 11 = 2047 at hall
          change ¬2 ^ 11 ≤ (e + 1023 + 52).toNat + 1 at hsmall
          omega
        next => exact unpack_packComponents_ne_notANumber hzero s _

theorem ite_ne_notANumber {c : Prop} [Decidable c] {v : UnpackedFloat} (hu : u ≠ .notANumber)
    (hv : v ≠ .notANumber) : (if c then u else v) ≠ .notANumber := by
  split
  · exact hu
  · exact hv

theorem dite_ne_notANumber {c : Prop} [Decidable c] {f : c → UnpackedFloat}
    {g : ¬c → UnpackedFloat} (hf : ∀ h, f h ≠ .notANumber) (hg : ∀ h, g h ≠ .notANumber) :
    dite c f g ≠ .notANumber := by
  split
  · exact hf _
  · exact hg _

theorem roundWithAccuracy_ne_notANumber (s : Sign) (m : Nat) (e : Int) (a : Accuracy) :
    roundWithAccuracy Format.binary64 s m e a ≠ .notANumber := by
  rw [roundWithAccuracy]
  exact dite_ne_notANumber (fun _ => UnpackedFloat.noConfusion) fun _ => UnpackedFloat.noConfusion

theorem round_ne_notANumber (s : Sign) (m : Nat) (e : Int) :
    round Format.binary64 s m e ≠ .notANumber :=
  roundWithAccuracy_ne_notANumber _ _ _ _

theorem normalize_ne_notANumber (m e : Int) (s : Sign) :
    UnpackedFloat.normalize Format.binary64 m e s ≠ .notANumber := by
  rw [UnpackedFloat.normalize]
  split
  · exact round_ne_notANumber _ _ _
  · simp
  · exact round_ne_notANumber _ _ _

theorem not_isNaN_toFloat (n : UInt64) : ¬n.toFloat.isNaN = true :=
  mt isNaN_ofModel_pack.mp (normalize_ne_notANumber _ _ _)

/-- A finite number other than zero. -/
def IsNonzero (u : UnpackedFloat) : Prop :=
  ∃ s m e hm, u = .finite s m e hm

instance : DecidablePred IsNonzero := fun u =>
  match u with
  | .finite s m e hm => .isTrue ⟨s, m, e, hm, rfl⟩
  | .infinity _ => .isFalse fun ⟨_, _, _, _, h⟩ => by cases h
  | .notANumber => .isFalse fun ⟨_, _, _, _, h⟩ => by cases h
  | .zero _ => .isFalse fun ⟨_, _, _, _, h⟩ => by cases h

theorem mul_ne_notANumber {v : UnpackedFloat} (hu : u ≠ .notANumber) (hv : IsNonzero v) :
    UnpackedFloat.mul Format.binary64 u v ≠ .notANumber := by
  obtain ⟨s, m, e, hm, rfl⟩ := hv
  cases u with
  | notANumber => exact absurd rfl hu
  | infinity | zero => exact UnpackedFloat.noConfusion
  | finite => exact roundWithAccuracy_ne_notANumber _ _ _ _

theorem div_ne_notANumber {v : UnpackedFloat} (hu : u ≠ .notANumber) (hv : IsNonzero v) :
    UnpackedFloat.div Format.binary64 u v ≠ .notANumber := by
  obtain ⟨s, m, e, hm, rfl⟩ := hv
  cases u with
  | notANumber => exact absurd rfl hu
  | infinity | zero => exact UnpackedFloat.noConfusion
  | finite => exact roundWithAccuracy_ne_notANumber _ _ _ _

theorem isNonzero_powerOfTen (i : Fin 23) :
    IsNonzero (Float.exactlyRepresentablePowersOfTen[i]).toModel.unpack := by
  revert i
  decide

theorem isNaN_neg {x : Float} : (-x).isNaN = true ↔ x.isNaN = true := by
  rw [isNaN_iff (x := x)]
  refine isNaN_ofModel_pack.trans ?_
  cases x.toModel.unpack with
  | notANumber => exact Iff.rfl
  | infinity | zero | finite =>
      exact iff_of_false UnpackedFloat.noConfusion UnpackedFloat.noConfusion

theorem ofScientific_ne_notANumber (m : Nat) (e : Int) :
    UnpackedFloat.ofScientific Format.binary64 m e ≠ .notANumber := by
  rw [UnpackedFloat.ofScientific]
  apply dite_ne_notANumber
  · exact fun _ => UnpackedFloat.noConfusion
  · intro hm
    apply ite_ne_notANumber UnpackedFloat.noConfusion
    apply ite_ne_notANumber UnpackedFloat.noConfusion
    apply ite_ne_notANumber
    · exact mul_ne_notANumber UnpackedFloat.noConfusion ⟨_, _, _, _, rfl⟩
    · exact div_ne_notANumber UnpackedFloat.noConfusion ⟨_, _, _, _, rfl⟩

/-- Digits with a scale are a number, however far out of range they are. -/
theorem not_isNaN_ofScientific (m : Nat) (negative : Bool) (e : Nat) :
    ¬(Float.ofScientific m negative e).isNaN = true := by
  rw [Float.ofScientific]
  split
  next h =>
    -- Few digits and a small scale: both are numbers, and so is their product or quotient.
    have hdigits := mt isNaN_iff.mpr (not_isNaN_toFloat m.toUInt64)
    have hpower := isNonzero_powerOfTen ⟨e, Nat.lt_succ_of_le h.2⟩
    simp only
    split
    · exact mt isNaN_ofModel_pack.mp (div_ne_notANumber hdigits hpower)
    · exact mt isNaN_ofModel_pack.mp (mul_ne_notANumber hdigits hpower)
  next => exact mt isNaN_ofModel_pack.mp (ofScientific_ne_notANumber _ _)

/-! ## The word for it -/

/-- The word `nan` in any letter case, with a sign or without. -/
def SpellsNaN (s : List Char) : Prop :=
  ∃ word, Text.lower word = ['n', 'a', 'n'] ∧ (s = word ∨ s = '+' :: word ∨ s = '-' :: word)

theorem readUnsigned?_of_isAlpha {c : Char} (h : c.isAlpha = true) (s : List Char) :
    readUnsigned? (c :: s) = none := by
  have hletter := Text.toNat_of_isAlpha h
  have hdigit : ¬c.isDigit = true := by
    rw [Text.isDigit_iff]
    omega
  have hpoint : c ≠ '.' := by
    rintro rfl
    cases h
  simp [readUnsigned?, spanDigits, hdigit, hpoint]

theorem readUnsigned?_of_lower {s : List Char} (h : Text.lower s = ['n', 'a', 'n']) :
    readUnsigned? s = none := by
  cases s with
  | nil => rfl
  | cons c s =>
      have hletter : c.toLower = 'n' := (List.cons.inj h).1
      refine readUnsigned?_of_isAlpha (Text.isAlpha_of_toLower ?_) s
      rw [hletter]
      decide

theorem isNaN_readMagnitude?_iff {s : List Char} :
    (readMagnitude? s).any Float.isNaN = true ↔ Text.lower s = ['n', 'a', 'n'] := by
  have hword (word : String) : String.ofList (Text.lower s) = word ↔
      Text.lower s = word.toList := by
    rw [← String.toList_inj, String.toList_ofList]
  rw [readMagnitude?]
  cases hdigits : readUnsigned? s with
  | some found =>
      refine iff_of_false (not_isNaN_ofScientific _ _ _) fun h => ?_
      rw [readUnsigned?_of_lower h] at hdigits
      cases hdigits
  | none =>
      simp only [hword]
      split
      next hinfinity =>
        refine iff_of_false Bool.false_ne_true fun h => ?_
        rw [h] at hinfinity
        exact absurd hinfinity (by decide)
      next =>
        split
        next hnan => exact iff_of_true rfl hnan
        next hnan => exact iff_of_false Bool.false_ne_true hnan

theorem readSign_word {s : List Char} {negative : Bool} {word : List Char}
    (h : readSign s = (negative, word)) : s = word ∨ s = '+' :: word ∨ s = '-' :: word := by
  rw [readSign.eq_def] at h
  split at h <;> cases h
  · exact .inr (.inr rfl)
  · exact .inr (.inl rfl)
  · exact .inl rfl

theorem readSign_of_lower {s : List Char} (h : Text.lower s = ['n', 'a', 'n']) :
    readSign s = (false, s) := by
  rw [readSign.eq_def]
  split
  · cases h
  · cases h
  · rfl

theorem isNaN_read?_iff {s : List Char} :
    (read? s).any Float.isNaN = true ↔ SpellsNaN s := by
  have hneg (negative : Bool) (x : Float) :
      (if negative then -x else x).isNaN = true ↔ x.isNaN = true := by
    cases negative with
    | true => exact isNaN_neg
    | false => exact Iff.rfl
  have hmagnitude (negative : Bool) (word : List Char) (h : readSign s = (negative, word)) :
      (read? s).any Float.isNaN = true ↔ Text.lower word = ['n', 'a', 'n'] := by
    rw [← isNaN_readMagnitude?_iff]
    simp only [read?, h]
    cases readMagnitude? word with
    | none => exact Iff.rfl
    | some x => exact hneg negative x
  constructor
  · intro h
    exact ⟨(readSign s).2, (hmagnitude _ _ rfl).mp h, readSign_word rfl⟩
  · rintro ⟨word, hword, hs⟩
    rcases hs with rfl | rfl | rfl
    · exact (hmagnitude _ _ (readSign_of_lower hword)).mpr hword
    · exact (hmagnitude _ _ rfl).mpr hword
    · exact (hmagnitude _ _ rfl).mpr hword

end Decimal

/-! ## Numbers without units -/

namespace Threshold

theorem multiplier?_none : multiplier? "" = none := by
  decide +kernel

theorem number?_of_unit_none (t : Threshold) (h : t.unit = "") :
    t.number? = Decimal.read? t.value.toList := by
  rw [number?, h, multiplier?_none, Option.getD_none]
  simp only [Decimal.mul_one, Option.map_id']

end Threshold
end MonitorAgent
