import MonitorAgent.Host.Size
import MonitorAgent.Proofs.MetricLevels
import Mathlib.Tactic.Linarith
import Mathlib.Tactic.Ring

/-!
# Sizes for readers

Rounding keeps the order of what it rounds, so a size is scaled down just as often as the number
of bytes is a power of a thousand, although it is rounded on the way.  The unit is chosen
before the number is rounded to tenths: just below the next unit there is a thousand of a unit
in place of one of the next.
-/

namespace MonitorAgent

/-! ## Rounding to whole numbers -/

namespace Decimal

variable {n m d : Nat}

theorem divHalfEven_mono (h : n ≤ m) : divHalfEven n d ≤ divHalfEven m d := by
  have hquotient : n / d ≤ m / d := Nat.div_le_div_right h
  have hn := Nat.div_add_mod n d
  have hm := Nat.div_add_mod m d
  rcases Nat.lt_or_eq_of_le hquotient with hlt | heq
  · have hup : divHalfEven n d ≤ n / d + 1 := by
      rw [divHalfEven]
      split <;> omega
    have hdown : m / d ≤ divHalfEven m d := by
      rw [divHalfEven]
      split <;> omega
    omega
  · -- In front of the same quotient the lower number has the lower remainder.
    rw [heq] at hn
    simp only [divHalfEven, heq]
    split <;> split <;> omega

theorem divHalfEven_near (n : Nat) (hd : 0 < d) :
    2 * (divHalfEven n d * d) ≤ 2 * n + d ∧ 2 * n ≤ 2 * (divHalfEven n d * d) + d := by
  have hn := Nat.div_add_mod n d
  have hrest := Nat.mod_lt n hd
  rw [Nat.mul_comm] at hn
  simp only [divHalfEven]
  split
  · omega
  · rw [Nat.add_mul, Nat.one_mul]
    omega

end Decimal

namespace Host

open Decimal

variable {num num' den size : Nat}

/-! ## Rounding to digits -/

/-- So many units make one. -/
def one : Nat :=
  2 ^ unitBits

theorem one_eq : one = 4503599627370496 := by
  decide +kernel

theorem one_pos : 0 < one :=
  Nat.two_pow_pos unitBits

/-- How many binary digits of the quotient are dropped. -/
def spareDigits (num den : Nat) : Nat :=
  (num / den).log2 - unitBits

theorem roundDigits_eq (num den : Nat) : roundDigits num den =
    divHalfEven num (den * 2 ^ spareDigits num den) * 2 ^ spareDigits num den := by
  rw [roundDigits, Nat.shiftLeft_eq, Nat.shiftLeft_eq]
  rfl

theorem le_of_one_le (h : one ≤ num / den) : one * (den * 2 ^ spareDigits num den) ≤ num := by
  have hne : num / den ≠ 0 := Nat.ne_of_gt (Nat.lt_of_lt_of_le one_pos h)
  have hlog : unitBits ≤ (num / den).log2 := (Nat.le_log2 hne).mpr h
  have hbits : unitBits + spareDigits num den = (num / den).log2 := by
    rw [spareDigits]
    omega
  calc one * (den * 2 ^ spareDigits num den)
    _ = 2 ^ (num / den).log2 * den := by rw [← hbits, one]; ring
    _ ≤ num / den * den := Nat.mul_le_mul_right den (Nat.log2_self_le hne)
    _ ≤ num := Nat.div_mul_le_self num den

theorem le_two_mul_one (hden : 0 < den) : num ≤ 2 * one * (den * 2 ^ spareDigits num den) := by
  have hbits : (num / den).log2 + 1 ≤ unitBits + spareDigits num den + 1 := by
    rw [spareDigits]
    omega
  have hlt : num / den < 2 ^ (unitBits + spareDigits num den + 1) :=
    Nat.lt_of_lt_of_le Nat.lt_log2_self (Nat.pow_le_pow_right (by decide) hbits)
  calc num
    _ ≤ 2 ^ (unitBits + spareDigits num den + 1) * den :=
      Nat.le_of_lt ((Nat.div_lt_iff_lt_mul hden).mp hlt)
    _ = 2 * one * (den * 2 ^ spareDigits num den) := by rw [one]; ring

theorem spareDigits_mono (den : Nat) (h : num ≤ num') :
    spareDigits num den ≤ spareDigits num' den := by
  apply Nat.sub_le_sub_right
  have hquotient : num / den ≤ num' / den := Nat.div_le_div_right h
  by_cases hzero : num / den = 0
  · rw [hzero]
    exact Nat.zero_le _
  · have hpos := Nat.lt_of_lt_of_le (Nat.pos_of_ne_zero hzero) hquotient
    exact (Nat.le_log2 (Nat.ne_of_gt hpos)).mpr (Nat.le_trans (Nat.log2_self_le hzero) hquotient)

theorem roundDigits_le (hden : 0 < den) :
    roundDigits num den ≤ 2 * one * 2 ^ spareDigits num den := by
  have hpos : 0 < den * 2 ^ spareDigits num den := Nat.mul_pos hden (Nat.two_pow_pos _)
  rw [roundDigits_eq]
  apply Nat.mul_le_mul_right
  rw [← divHalfEven_exact (2 * one) hpos]
  exact divHalfEven_mono (le_two_mul_one hden)

theorem le_roundDigits (hden : 0 < den) (h : one ≤ num / den) :
    one * 2 ^ spareDigits num den ≤ roundDigits num den := by
  have hpos : 0 < den * 2 ^ spareDigits num den := Nat.mul_pos hden (Nat.two_pow_pos _)
  rw [roundDigits_eq]
  apply Nat.mul_le_mul_right
  rw [← divHalfEven_exact one hpos]
  exact divHalfEven_mono (le_of_one_le h)

theorem roundDigits_mono (hden : 0 < den) (h : num ≤ num') :
    roundDigits num den ≤ roundDigits num' den := by
  rcases Nat.lt_or_eq_of_le (spareDigits_mono den h) with hlt | heq
  · -- Where more digits are dropped there is a power of two between the two.
    have hone : one ≤ num' / den := by
      have hlog : unitBits ≤ (num' / den).log2 := by
        rw [spareDigits, spareDigits] at hlt
        omega
      have hne : num' / den ≠ 0 := by
        intro hzero
        rw [hzero] at hlog
        cases hlog
      exact (Nat.le_log2 hne).mp hlog
    calc roundDigits num den
      _ ≤ 2 * one * 2 ^ spareDigits num den := roundDigits_le hden
      _ = one * 2 ^ (spareDigits num den + 1) := by ring
      _ ≤ one * 2 ^ spareDigits num' den :=
        Nat.mul_le_mul_left one (Nat.pow_le_pow_right (by decide) hlt)
      _ ≤ roundDigits num' den := le_roundDigits hden hone
  · rw [roundDigits_eq, roundDigits_eq, ← heq]
    exact Nat.mul_le_mul_right _ (divHalfEven_mono h)

theorem roundDigits_near (hden : 0 < den) (h : one ≤ num / den) :
    2 * one * (roundDigits num den * den) ≤ 2 * one * num + num ∧
      2 * one * num ≤ 2 * one * (roundDigits num den * den) + num := by
  have hpos : 0 < den * 2 ^ spareDigits num den := Nat.mul_pos hden (Nat.two_pow_pos _)
  have hdropped := le_of_one_le h
  obtain ⟨hle, hge⟩ := divHalfEven_near num hpos
  have hrounded : roundDigits num den * den =
      divHalfEven num (den * 2 ^ spareDigits num den) * (den * 2 ^ spareDigits num den) := by
    rw [roundDigits_eq]
    ring
  rw [hrounded]
  generalize divHalfEven num (den * 2 ^ spareDigits num den) * (den * 2 ^ spareDigits num den) = x
    at hle hge ⊢
  rw [one_eq] at hdropped ⊢
  omega

/-! ## Scaling down -/

/-- The size after it was divided by a thousand so many times. -/
def scaled (size : Nat) : Nat → Nat
  | 0 => size
  | k + 1 => scaled (roundDigits size 1000) k

@[simp] theorem scaled_zero (size : Nat) : scaled size 0 = size := rfl

theorem scaled_mono {size size' : Nat} (h : size ≤ size') (k : Nat) :
    scaled size k ≤ scaled size' k := by
  induction k generalizing size size' with
  | zero => exact h
  | succ k ih => exact ih (roundDigits_mono (by decide) h)

theorem scaleDown_cons (size : Nat) (name : String) (names : List String) :
    scaleDown size (name :: names) =
      if size < 1000 * one then (size, none)
      else
        let found := scaleDown (roundDigits size 1000) names
        (found.1, some (found.2.getD name)) := by
  have hshift : 1000 <<< unitBits = 1000 * one := Nat.shiftLeft_eq 1000 unitBits
  rw [scaleDown, hshift]
  split
  · rfl
  · obtain ⟨size', _ | found⟩ := scaleDown (roundDigits size 1000) names
    · rfl
    · rfl

theorem some_getD_name {k : Nat} {names : List String} (hk : k ≤ names.length) (name : String) :
    some ((if k = 0 then none else names[k - 1]?).getD name) = (name :: names)[k]? := by
  cases k with
  | zero => rfl
  | succ k =>
      have hname : names[k]? = some names[k] := List.getElem?_eq_getElem hk
      simp [hname]

theorem scaleDown_eq (size : Nat) (names : List String) :
    ∃ k ≤ names.length,
      scaleDown size names = (scaled size k, if k = 0 then none else names[k - 1]?) ∧
      (∀ j < k, 1000 * one ≤ scaled size j) ∧
      (k < names.length → scaled size k < 1000 * one) := by
  induction names generalizing size with
  | nil => exact ⟨0, Nat.le_refl 0, rfl, nofun, nofun⟩
  | cons name names ih =>
      rw [scaleDown_cons]
      by_cases hsmall : size < 1000 * one
      · rw [if_pos hsmall]
        exact ⟨0, Nat.zero_le _, rfl, nofun, fun _ => hsmall⟩
      · rw [if_neg hsmall]
        obtain ⟨k, hk, heq, hlarge, hstop⟩ := ih (roundDigits size 1000)
        refine ⟨k + 1, Nat.succ_le_succ hk, ?_, ?_, fun h => hstop (Nat.lt_of_succ_lt_succ h)⟩
        · rw [heq]
          exact Prod.ext rfl (some_getD_name hk name)
        · intro j hj
          cases j with
          | zero => exact Nat.le_of_not_lt hsmall
          | succ j => exact hlarge j (Nat.lt_of_succ_lt_succ hj)

/-! ## Where the units begin -/

/-- What scaling begins with. -/
def start (bytes : Nat) : Nat :=
  roundDigits (bytes <<< unitBits) 1

theorem scaled_start_mono {n m : Nat} (h : n ≤ m) (k : Nat) :
    scaled (start n) k ≤ scaled (start m) k := by
  apply scaled_mono
  apply roundDigits_mono Nat.one_pos
  rw [Nat.shiftLeft_eq, Nat.shiftLeft_eq]
  exact Nat.mul_le_mul_right _ h

theorem scaled_boundaries : ∀ k < 5, 1000 * one ≤ scaled (start (1000 ^ (k + 1))) k ∧
    scaled (start (1000 ^ (k + 1) - 1)) k < 1000 * one := by
  decide +kernel

theorem le_scaled_iff {n k : Nat} (hk : k < 5) :
    1000 * one ≤ scaled (start n) k ↔ 1000 ^ (k + 1) ≤ n := by
  -- Rounding keeps the order, so it is enough to look at the two sizes at the boundary.
  obtain ⟨hfrom, hbelow⟩ := scaled_boundaries k hk
  constructor
  · intro hlarge
    by_contra hsmall
    have hle := scaled_start_mono (Nat.le_sub_one_of_lt (Nat.lt_of_not_le hsmall)) k
    omega
  · intro hlarge
    exact Nat.le_trans hfrom (scaled_start_mono hlarge k)

/-- The tenths of a unit of so many thousands that are shown. -/
def tenthsAt (n k : Nat) : Nat :=
  tenths (scaled (start n) k)

theorem tenthsAt_mono {n m : Nat} (h : n ≤ m) (k : Nat) : tenthsAt n k ≤ tenthsAt m k :=
  divHalfEven_mono (Nat.mul_le_mul_right 10 (scaled_start_mono h k))

theorem tenthsAt_one : ∀ k < 5, tenthsAt (1000 ^ (k + 1)) (k + 1) = 10 := by
  decide +kernel

theorem tenthsAt_thousand : ∀ k < 4, tenthsAt (1000 ^ (k + 2) - 1) (k + 1) = 10000 ∧
    tenthsAt (99995 * 10 ^ (3 * k + 1)) (k + 1) = 10000 ∧
    tenthsAt (99995 * 10 ^ (3 * k + 1) - 1) (k + 1) = 9999 := by
  decide +kernel

theorem ten_le_tenthsAt {n k : Nat} (hk : k < 5) (hn : 1000 ^ (k + 1) ≤ n) :
    10 ≤ tenthsAt n (k + 1) := by
  rw [← tenthsAt_one k hk]
  exact tenthsAt_mono hn (k + 1)

theorem tenthsAt_le {n k : Nat} (hk : k < 4) (hn : n < 1000 ^ (k + 2)) :
    tenthsAt n (k + 1) ≤ 10000 := by
  rw [← (tenthsAt_thousand k hk).1]
  exact tenthsAt_mono (Nat.le_sub_one_of_lt hn) (k + 1)

theorem tenthsAt_eq_iff {n k : Nat} (hk : k < 4) (hn : n < 1000 ^ (k + 2)) :
    tenthsAt n (k + 1) = 10000 ↔ 99995 * 10 ^ (3 * k + 1) ≤ n := by
  obtain ⟨-, hfrom, hbelow⟩ := tenthsAt_thousand k hk
  constructor
  · intro hthousand
    by_contra hsmall
    have hle := tenthsAt_mono (Nat.le_sub_one_of_lt (Nat.lt_of_not_le hsmall)) (k + 1)
    omega
  · intro hlarge
    have hle := tenthsAt_mono hlarge (k + 1)
    have hge := tenthsAt_le hk hn
    omega

/-! ## What is missed on the way -/

/-- The number is missed by so many of the parts that 53 digits do not tell. -/
def Near (parts x a : Nat) : Prop :=
  2 * one * x ≤ 2 * one * a + parts * a ∧ 2 * one * a ≤ 2 * one * x + parts * a

theorem near_start {n : Nat} (hn : 0 < n) : Near 1 (start n) (n * one) := by
  have hshift : n <<< unitBits = n * one := Nat.shiftLeft_eq n unitBits
  have hone : one ≤ n * one / 1 := by
    rw [Nat.div_one]
    exact Nat.le_mul_of_pos_left one hn
  have hnear := roundDigits_near Nat.one_pos hone
  rw [Nat.mul_one] at hnear
  rwa [Near, start, hshift, Nat.one_mul]

theorem Near.step {parts scale a : Nat} (h : Near parts (size * scale) a)
    (hparts : parts ≤ 2 * one) (hsize : 1000 * one ≤ size) :
    Near (parts + 2) (roundDigits size 1000 * (1000 * scale)) a := by
  have hone : one ≤ size / 1000 := by omega
  obtain ⟨hle, hge⟩ := roundDigits_near (by decide) hone
  have habove := Nat.mul_le_mul_right scale hle
  have hbelow := Nat.mul_le_mul_right scale hge
  have hmissed : parts * a ≤ 2 * one * a := Nat.mul_le_mul_right a hparts
  obtain ⟨hfrom, hto⟩ := h
  have hpos := one_pos
  rw [Near, Nat.add_mul]
  -- What the division misses is a part of the size, which is not more than twice the number.
  generalize one = u at *
  have htwice : u * (size * scale) ≤ u * (2 * a) := by linarith
  have hsmall : size * scale ≤ 2 * a := Nat.le_of_mul_le_mul_left htwice hpos
  constructor <;> linarith

theorem Near.scaled {parts scale a k : Nat} (h : Near parts (size * scale) a)
    (hparts : parts + 2 * k ≤ 2 * one) (hlarge : ∀ j < k, 1000 * one ≤ scaled size j) :
    Near (parts + 2 * k) (Host.scaled size k * (1000 ^ k * scale)) a := by
  induction k generalizing size parts scale with
  | zero =>
      rw [Nat.mul_zero, Nat.add_zero, Nat.pow_zero, Nat.one_mul, scaled_zero]
      exact h
  | succ k ih =>
      have hstep := h.step (by omega) (hlarge 0 (Nat.succ_pos k))
      have hnear := ih hstep (by omega) fun j hj => hlarge (j + 1) (Nat.succ_lt_succ hj)
      have hparts' : parts + 2 * (k + 1) = parts + 2 + 2 * k := by ring
      have hscale : 1000 ^ (k + 1) * scale = 1000 ^ k * (1000 * scale) := by ring
      rw [hparts', hscale]
      exact hnear

section

variable {n k : Nat}

/-- All that is missed by rounding to digits is a small part of one of the unit. -/
theorem scaled_start_near (hk : k ≤ 5) (hn : 0 < n) (hle : n ≤ 100000 * 1000 ^ k)
    (hlarge : ∀ j < k, 1000 * one ≤ scaled (start n) j) :
    2 * (scaled (start n) k * 1000 ^ k) ≤ 2 * (n * one) + 1100000 * 1000 ^ k ∧
      2 * (n * one) ≤ 2 * (scaled (start n) k * 1000 ^ k) + 1100000 * 1000 ^ k := by
  have hstart : Near 1 (start n * 1) (n * one) := by
    rw [Nat.mul_one]
    exact near_start hn
  have hbound : 1 + 2 * k ≤ 2 * one := by
    rw [one_eq]
    omega
  obtain ⟨hfrom, hto⟩ := hstart.scaled hbound hlarge
  rw [Nat.mul_one] at hfrom hto
  have hparts : (1 + 2 * k) * n ≤ 11 * (100000 * 1000 ^ k) := Nat.mul_le_mul (by omega) hle
  have hmissed := Nat.mul_le_mul_right one hparts
  constructor
  · refine Nat.le_of_mul_le_mul_left ?_ one_pos
    linarith
  · refine Nat.le_of_mul_le_mul_left ?_ one_pos
    linarith

theorem tenthsAt_near (hk : k ≤ 5) (hn : 0 < n) (hle : n ≤ 100000 * 1000 ^ k)
    (hlarge : ∀ j < k, 1000 * one ≤ scaled (start n) j) :
    100 * (tenthsAt n k * 1000 ^ k) ≤ 1000 * n + 51 * 1000 ^ k ∧
      1000 * n ≤ 100 * (tenthsAt n k * 1000 ^ k) + 51 * 1000 ^ k := by
  have htenths : tenthsAt n k = divHalfEven (scaled (start n) k * 10) one := by
    rw [tenthsAt, tenths, Nat.shiftLeft_eq, Nat.one_mul, one]
  obtain ⟨habove, hbelow⟩ := divHalfEven_near (scaled (start n) k * 10) one_pos
  rw [← htenths] at habove hbelow
  have hrounded := Nat.mul_le_mul_right (1000 ^ k) habove
  have hrounded' := Nat.mul_le_mul_right (1000 ^ k) hbelow
  obtain ⟨hscaled, hscaled'⟩ := scaled_start_near hk hn hle hlarge
  generalize scaled (start n) k = s at *
  generalize tenthsAt n k = t at *
  generalize 1000 ^ k = p at *
  rw [one_eq] at *
  constructor <;> linarith

end

/-! ## The text of a size -/

theorem whole_of_pointed {t whole : Nat} {behind : List Char}
    (h : pointed 1 t = Nat.toDigits 10 whole ++ '.' :: behind) : t / 10 = whole := by
  have hpoint (n : Nat) : '.' ∉ Nat.toDigits 10 n := by
    intro hmem
    cases isDigit_toDigits n '.' hmem
  have hcut := congrArg (Text.cut '.') h
  rw [pointed, List.append_assoc, List.cons_append, Text.cut_append (hpoint _),
    Text.cut_append (hpoint whole)] at hcut
  have hdigits : Nat.toDigits 10 (t / 10) = Nat.toDigits 10 whole :=
    (Prod.mk.inj (Option.some.inj hcut)).1
  rw [← natOfDigits_toDigits (t / 10), hdigits, natOfDigits_toDigits]

/-- The bytes are shown as so many tenths of a unit, the largest of which they make at least one.
These are the nearest tenths or hardly farther, and may be a thousand of a unit that is not the
last one. -/
structure IsShown (n k t : Nat) : Prop where
  unit_le : 1000 ^ (k + 1) ≤ n
  lt_next : k < 4 → n < 1000 ^ (k + 2)
  one_le : 10 ≤ t
  le_thousand : k < 4 → t ≤ 10000
  eq_thousand_iff : k < 4 → (t = 10000 ↔ 99995 * 10 ^ (3 * k + 1) ≤ n)
  near_above : 100 * (t * 1000 ^ (k + 1)) ≤ 1000 * n + 51 * 1000 ^ (k + 1)
  near_below : 1000 * n ≤ 100 * (t * 1000 ^ (k + 1)) + 51 * 1000 ^ (k + 1)

theorem isShown_tenthsAt {n k : Nat} (hk : k < 5) (hn : n < UInt64.size)
    (hlarge : ∀ j < k + 1, 1000 * one ≤ scaled (start n) j)
    (hstop : k + 1 < 5 → scaled (start n) (k + 1) < 1000 * one) :
    IsShown n k (tenthsAt n (k + 1)) := by
  have hunit : 1000 ^ (k + 1) ≤ n := (le_scaled_iff hk).mp (hlarge k (Nat.lt_succ_self k))
  have hnext (h : k < 4) : n < 1000 ^ (k + 2) := by
    have hsmall := hstop (Nat.succ_lt_succ h)
    by_contra hle
    have hge : 1000 * one ≤ scaled (start n) (k + 1) :=
      (le_scaled_iff (Nat.succ_lt_succ h)).mpr (Nat.le_of_not_lt hle)
    omega
  have hsize : n ≤ 100000 * 1000 ^ (k + 1) := by
    rcases Nat.lt_or_eq_of_le (Nat.le_of_lt_succ hk) with h | rfl
    · calc n
        _ ≤ 1000 ^ (k + 2) := Nat.le_of_lt (hnext h)
        _ = 1000 * 1000 ^ (k + 1) := by ring
        _ ≤ 100000 * 1000 ^ (k + 1) := Nat.mul_le_mul_right _ (by decide)
    · exact Nat.le_trans (Nat.le_of_lt hn) (by decide)
  have hpos : 0 < n := Nat.lt_of_lt_of_le (Nat.pow_pos (by decide)) hunit
  obtain ⟨habove, hbelow⟩ := tenthsAt_near (Nat.succ_le_of_lt hk) hpos hsize hlarge
  exact ⟨hunit, hnext, ten_le_tenthsAt hk hunit, fun h => tenthsAt_le h (hnext h),
    fun h => tenthsAt_eq_iff h (hnext h), habove, hbelow⟩

section

variable {n : Nat} {name : String}

theorem sizeText_of_none (h : scaleDown (start n) sizeNames = (size, none)) :
    sizeText n = toString n ++ " B" := by
  rw [start] at h
  unfold sizeText
  rw [h]

theorem sizeText_of_some (h : scaleDown (start n) sizeNames = (size, some name)) :
    sizeText n = String.ofList (pointed 1 (tenths size)) ++ " " ++ name := by
  rw [start] at h
  unfold sizeText
  rw [h]

end

/-- Bytes below a thousand are shown as they are, and others by tenths of a unit.  These may be a
thousand of a unit in place of one of the next. -/
theorem sizeText_cases (n : UInt64) :
    (n.toNat < 1000 → sizeText n.toNat = toString n.toNat ++ " B") ∧
    (1000 ≤ n.toNat → ∃ k name t, sizeNames[k]? = some name ∧
      sizeText n.toNat = String.ofList (pointed 1 t) ++ " " ++ name ∧ IsShown n.toNat k t) := by
  obtain ⟨k, hk, heq, hlarge, hstop⟩ := scaleDown_eq (start n.toNat) sizeNames
  have hfirst : 1000 * one ≤ scaled (start n.toNat) 0 ↔ 1000 ≤ n.toNat := le_scaled_iff (by decide)
  cases k with
  | zero =>
      have hsmall : n.toNat < 1000 := by
        rw [← Nat.not_le, ← hfirst, Nat.not_le]
        exact hstop (by decide)
      rw [if_pos rfl] at heq
      exact ⟨fun _ => sizeText_of_none heq, fun hlarge => absurd hlarge (Nat.not_le_of_lt hsmall)⟩
  | succ k =>
      have hbytes : 1000 ≤ n.toNat := hfirst.mp (hlarge 0 (Nat.succ_pos k))
      obtain ⟨name, hname⟩ : ∃ name, sizeNames[k]? = some name :=
        ⟨_, List.getElem?_eq_getElem hk⟩
      rw [if_neg (Nat.succ_ne_zero k), Nat.add_sub_cancel, hname] at heq
      exact ⟨fun hsmall => absurd hbytes (Nat.not_le_of_lt hsmall), fun _ =>
        ⟨k, name, tenthsAt n.toNat (k + 1), hname, sizeText_of_some heq,
          isShown_tenthsAt hk n.toNat_lt hlarge hstop⟩⟩

/-- Fifty bytes below a million a thousand is shown, although it is not the last unit. -/
theorem sizeText_thousand :
    sizeText 999950 = "1000.0 KB" ∧
    ¬∀ n : UInt64, 1000 ≤ n.toNat → ∃ name ∈ sizeNames, ∃ t,
      sizeText n.toNat = String.ofList (pointed 1 t) ++ " " ++ name ∧ 10 ≤ t ∧
        (name ≠ "PB" → t < 10000) := by
  have htext : sizeText 999950 = "1000.0 KB" := by decide +kernel
  refine ⟨htext, fun h => ?_⟩
  obtain ⟨name, hname, t, hshown, -, hbelow⟩ := h 999950 (by decide)
  have hchars : "1000.0".toList ++ " KB".toList = pointed 1 t ++ ' ' :: name.toList := by
    have hlist := congrArg String.toList (htext.symm.trans hshown)
    simpa using hlist
  have hlength : ∀ name ∈ sizeNames, name.toList.length = 2 := by decide
  have hsuffix : " KB".toList.length = (' ' :: name.toList).length := by
    rw [List.length_cons, hlength name hname]
    rfl
  obtain ⟨hnumber, hunit⟩ := List.append_inj' hchars hsuffix
  have hlast : name ≠ "PB" := by
    rintro rfl
    exact absurd hunit (by decide)
  have hpointed : pointed 1 t = Nat.toDigits 10 1000 ++ '.' :: ['0'] := by
    rw [← hnumber]
    decide
  have hwhole := whole_of_pointed hpointed
  have hsmall := hbelow hlast
  omega

end Host
end MonitorAgent
