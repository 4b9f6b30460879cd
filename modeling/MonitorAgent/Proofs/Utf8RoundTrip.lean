import MonitorAgent.Text.Utf8

/-!
# Reading back encoded texts

The bytes of a character are read back as that character, whatever follows them,
so decoding undoes encoding.  A zero byte encodes the zero character only.
-/

namespace MonitorAgent
namespace Text
namespace Utf8

theorem partsFrom_accepted {begun : Begun} {b : UInt8} (h : begun.accepts b = true)
    (bytes : List UInt8) :
    partsFrom (some begun) (b :: bytes) =
      (begun.next b).1 ++ partsFrom (begun.next b).2 bytes := by
  simp only [partsFrom, step, h, if_true]

theorem partsFrom_begin {b : UInt8} {begun : Begun} (h : first b = ([], some begun))
    (bytes : List UInt8) : partsFrom none (b :: bytes) = partsFrom (some begun) bytes := by
  simp only [partsFrom, step, h, List.nil_append]

theorem toNat_continuation {n : Nat} (hn : n < 64) : (UInt8.ofNat (n + 0x80)).toNat = n + 0x80 := by
  rw [UInt8.toNat_ofNat']
  exact Nat.mod_eq_of_lt (show n + 0x80 < 256 by omega)

theorem accepts_continuation {bits missing n : Nat} {low high : UInt8} (hn : n < 64)
    (hlow : low.toNat ≤ n + 0x80) (hhigh : n + 0x80 ≤ high.toNat) :
    Begun.accepts ⟨bits, missing, low, high⟩ (UInt8.ofNat (n + 0x80)) = true := by
  simp only [Begun.accepts, Bool.and_eq_true, decide_eq_true_eq, UInt8.le_iff_toNat_le,
    toNat_continuation hn]
  exact ⟨hlow, hhigh⟩

/-- The last byte of a character completes its bits. -/
theorem partsFrom_last {bits n : Nat} (hn : n < 64) (bytes : List UInt8) :
    partsFrom (some ⟨bits, 1, 0x80, 0xBF⟩) (UInt8.ofNat (n + 0x80) :: bytes) =
      some (Char.ofNat (64 * bits + n)) :: partsFrom none bytes := by
  have haccepts : Begun.accepts ⟨bits, 1, 0x80, 0xBF⟩ (UInt8.ofNat (n + 0x80)) = true :=
    accepts_continuation hn (Nat.le_add_left _ _) (show n + 0x80 ≤ 0xBF by omega)
  rw [partsFrom_accepted haccepts, Begun.next, toNat_continuation hn, Nat.add_sub_cancel]
  rfl

theorem partsFrom_middle {bits missing n : Nat} {low high : UInt8} (hn : n < 64)
    (hlow : low.toNat ≤ n + 0x80) (hhigh : n + 0x80 ≤ high.toNat) (bytes : List UInt8) :
    partsFrom (some ⟨bits, missing + 2, low, high⟩) (UInt8.ofNat (n + 0x80) :: bytes) =
      partsFrom (some ⟨64 * bits + n, missing + 1, 0x80, 0xBF⟩) bytes := by
  have hmissing : ¬missing + 2 = 1 := by omega
  rw [partsFrom_accepted (accepts_continuation hn hlow hhigh), Begun.next, toNat_continuation hn,
    Nat.add_sub_cancel, if_neg hmissing]
  rfl

theorem first_one : ∀ n < 128, first (UInt8.ofNat n) = ([some (Char.ofNat n)], none) := by
  decide

theorem first_two : ∀ n < 32, 2 ≤ n →
    first (UInt8.ofNat (n + 0xC0)) = ([], some ⟨n, 1, 0x80, 0xBF⟩) := by
  decide

/-- Below `0x800` and among the surrogates no character takes three bytes. -/
theorem first_three : ∀ n < 16,
    first (UInt8.ofNat (n + 0xE0)) =
      ([], some ⟨n, 2, if n = 0 then 0xA0 else 0x80, if n = 13 then 0x9F else 0xBF⟩) := by
  decide

theorem first_four : ∀ n < 5,
    first (UInt8.ofNat (n + 0xF0)) =
      ([], some ⟨n, 3, if n = 0 then 0x90 else 0x80, if n = 4 then 0x8F else 0xBF⟩) := by
  decide

theorem partsFrom_encodeChar (c : Char) (bytes : List UInt8) :
    partsFrom none (String.utf8EncodeChar c ++ bytes) = some c :: partsFrom none bytes := by
  have hvalid : c.toNat < 0xD800 ∨ 0xDFFF < c.toNat ∧ c.toNat < 0x110000 := c.valid
  have hchar : Char.ofNat c.toNat = c := Char.ofNat_toNat c
  have hval : c.val.toNat = c.toNat := rfl
  have hlast : c.toNat % 64 < 64 := Nat.mod_lt _ (by decide)
  have hmiddle : c.toNat / 64 % 64 < 64 := Nat.mod_lt _ (by decide)
  have hsecond : c.toNat / 4096 % 64 < 64 := Nat.mod_lt _ (by decide)
  simp only [String.utf8EncodeChar, hval]
  split
  next h =>
    have hone := first_one c.toNat (by omega)
    rw [List.singleton_append, partsFrom, step, hone, hchar]
    rfl
  split
  next h =>
    have hbits : 64 * (c.toNat / 64 % 32) + c.toNat % 64 = c.toNat := by omega
    rw [List.cons_append, List.singleton_append,
      partsFrom_begin (first_two (c.toNat / 64 % 32) (by omega) (by omega)),
      partsFrom_last hlast, hbits, hchar]
  split
  next h =>
    have hbits : 64 * (64 * (c.toNat / 4096 % 16) + c.toNat / 64 % 64) + c.toNat % 64 =
      c.toNat := by omega
    have hlow : (if c.toNat / 4096 % 16 = 0 then (0xA0 : UInt8) else 0x80).toNat ≤
        c.toNat / 64 % 64 + 0x80 := by
      rw [apply_ite UInt8.toNat, UInt8.toNat_ofNat, UInt8.toNat_ofNat]
      split <;> omega
    have hhigh : c.toNat / 64 % 64 + 0x80 ≤
        (if c.toNat / 4096 % 16 = 13 then (0x9F : UInt8) else 0xBF).toNat := by
      rw [apply_ite UInt8.toNat, UInt8.toNat_ofNat, UInt8.toNat_ofNat]
      split <;> omega
    rw [List.cons_append, List.cons_append, List.singleton_append,
      partsFrom_begin (first_three (c.toNat / 4096 % 16) (by omega)),
      partsFrom_middle hmiddle hlow hhigh,
      partsFrom_last hlast, hbits, hchar]
  next h =>
    have hbits : 64 * (64 * (64 * (c.toNat / 262144 % 8) + c.toNat / 4096 % 64) +
      c.toNat / 64 % 64) + c.toNat % 64 = c.toNat := by omega
    have hlow : (if c.toNat / 262144 % 8 = 0 then (0x90 : UInt8) else 0x80).toNat ≤
        c.toNat / 4096 % 64 + 0x80 := by
      rw [apply_ite UInt8.toNat, UInt8.toNat_ofNat, UInt8.toNat_ofNat]
      split <;> omega
    have hhigh : c.toNat / 4096 % 64 + 0x80 ≤
        (if c.toNat / 262144 % 8 = 4 then (0x8F : UInt8) else 0xBF).toNat := by
      rw [apply_ite UInt8.toNat, UInt8.toNat_ofNat, UInt8.toNat_ofNat]
      split <;> omega
    rw [List.cons_append, List.cons_append, List.cons_append, List.singleton_append,
      partsFrom_begin (first_four (c.toNat / 262144 % 8) (by omega)),
      partsFrom_middle hsecond hlow hhigh,
      partsFrom_middle hmiddle (Nat.le_add_left _ _) (show _ + 0x80 ≤ 0xBF by omega),
      partsFrom_last hlast, hbits, hchar]

theorem partsFrom_encode (s : List Char) (bytes : List UInt8) :
    partsFrom none (encode s ++ bytes) = s.map some ++ partsFrom none bytes := by
  induction s with
  | nil => rfl
  | cons c s ih =>
      rw [encode, List.flatMap_cons, List.append_assoc, partsFrom_encodeChar]
      exact congrArg (some c :: ·) ih

theorem decodeLossy_encode (s : List Char) : decodeLossy (encode s) = s := by
  have hparts : parts (encode s) = s.map some := by
    simpa [parts, partsFrom] using partsFrom_encode s []
  rw [decodeLossy, hparts, List.map_map]
  exact List.map_id s

theorem ofNat_ne_zero {n : Nat} (h : n % 256 ≠ 0) : 0 ≠ UInt8.ofNat n := by
  intro hn
  apply h
  rw [← UInt8.toNat_ofNat', ← hn]
  rfl

theorem zero_notMem_encodeChar {c : Char} (h : c ≠ '\x00') :
    (0 : UInt8) ∉ String.utf8EncodeChar c := by
  have hpos : c.toNat ≠ 0 := by
    intro hc
    apply h
    rw [← Char.ofNat_toNat c, hc]
  have hval : c.val.toNat = c.toNat := rfl
  simp only [String.utf8EncodeChar, hval]
  split
  next hc =>
    rw [List.mem_singleton]
    exact ofNat_ne_zero (by omega)
  split
  next hc =>
    simp only [List.mem_cons, List.not_mem_nil, or_false, not_or]
    exact ⟨ofNat_ne_zero (by omega), ofNat_ne_zero (by omega)⟩
  split
  next hc =>
    simp only [List.mem_cons, List.not_mem_nil, or_false, not_or]
    exact ⟨ofNat_ne_zero (by omega), ofNat_ne_zero (by omega), ofNat_ne_zero (by omega)⟩
  next hc =>
    simp only [List.mem_cons, List.not_mem_nil, or_false, not_or]
    exact ⟨ofNat_ne_zero (by omega), ofNat_ne_zero (by omega), ofNat_ne_zero (by omega),
      ofNat_ne_zero (by omega)⟩

theorem zero_notMem_encode {s : List Char} (h : '\x00' ∉ s) : (0 : UInt8) ∉ encode s := by
  intro hzero
  obtain ⟨c, hc, hbyte⟩ := List.mem_flatMap.1 hzero
  exact zero_notMem_encodeChar (fun hc' => h (hc' ▸ hc)) hbyte

end Utf8
end Text
end MonitorAgent
