import MonitorAgent.Nrpe.Packet

/-!
# Frames

The bytes of a packet determine it, and any bytes of the right number are those of
a packet.  A packet that was built verifies as its kind, and its payload is what it
was built from, cut at the size of the region and before the first zero.
-/

namespace MonitorAgent
namespace Nrpe

theorem toNat_word16 (a b : UInt8) : (word16 a b).toNat = a.toNat * 256 + b.toNat := by
  have ha := a.toNat_lt
  have hb := b.toNat_lt
  have hlow := Nat.shiftLeft_add_eq_or_of_lt hb a.toNat
  simp only [word16, UInt16.toNat_or, UInt16.toNat_shiftLeft, UInt8.toNat_toUInt16]
  change a.toNat <<< 8 % 65536 ||| b.toNat = _
  rw [Nat.mod_eq_of_lt (by rw [Nat.shiftLeft_eq]; omega), ← hlow, Nat.shiftLeft_eq]

theorem toNat_word32 (a b c d : UInt8) :
    (word32 a b c d).toNat = (word16 a b).toNat * 65536 + (word16 c d).toNat := by
  have ha := a.toNat_lt
  have hb := b.toNat_lt
  have hc := c.toNat_lt
  have hd := d.toNat_lt
  have hlow : c.toNat <<< 8 ||| d.toNat = c.toNat <<< 8 + d.toNat :=
    (Nat.shiftLeft_add_eq_or_of_lt hd c.toNat).symm
  have hmid : b.toNat <<< 16 ||| (c.toNat <<< 8 + d.toNat) =
      b.toNat <<< 16 + (c.toNat <<< 8 + d.toNat) :=
    (Nat.shiftLeft_add_eq_or_of_lt (by rw [Nat.shiftLeft_eq]; omega) b.toNat).symm
  have hhigh : a.toNat <<< 24 ||| (b.toNat <<< 16 + (c.toNat <<< 8 + d.toNat)) =
      a.toNat <<< 24 + (b.toNat <<< 16 + (c.toNat <<< 8 + d.toNat)) :=
    (Nat.shiftLeft_add_eq_or_of_lt (by simp only [Nat.shiftLeft_eq]; omega) a.toNat).symm
  simp only [word32, UInt32.toNat_or, UInt32.toNat_shiftLeft, UInt8.toNat_toUInt32]
  change a.toNat <<< 24 % 4294967296 ||| b.toNat <<< 16 % 4294967296 |||
    c.toNat <<< 8 % 4294967296 ||| d.toNat = _
  rw [Nat.mod_eq_of_lt (by rw [Nat.shiftLeft_eq]; omega),
    Nat.mod_eq_of_lt (by rw [Nat.shiftLeft_eq]; omega),
    Nat.mod_eq_of_lt (by rw [Nat.shiftLeft_eq]; omega), Nat.or_assoc, Nat.or_assoc, hlow, hmid,
    hhigh, toNat_word16, toNat_word16]
  simp only [Nat.shiftLeft_eq]
  omega

theorem word16_bytes (n : UInt16) : word16 (n >>> 8).toUInt8 n.toUInt8 = n := by
  rw [← UInt16.toNat_inj, toNat_word16, UInt16.toNat_toUInt8, UInt16.toNat_toUInt8,
    UInt16.toNat_shiftRight, Nat.shiftRight_eq_div_pow]
  have := n.toNat_lt
  change n.toNat / 256 % 256 * 256 + n.toNat % 256 = n.toNat
  omega

theorem bytes16_word16 (a b : UInt8) : bytes16 (word16 a b) = [a, b] := by
  have ha := a.toNat_lt
  have hb := b.toNat_lt
  simp only [bytes16, List.cons.injEq, and_true, ← UInt8.toNat_inj, UInt16.toNat_toUInt8,
    UInt16.toNat_shiftRight, toNat_word16, Nat.shiftRight_eq_div_pow]
  change (a.toNat * 256 + b.toNat) / 256 % 256 = a.toNat ∧ (a.toNat * 256 + b.toNat) % 256 = b.toNat
  omega

theorem word32_bytes (n : UInt32) :
    word32 (n >>> 24).toUInt8 (n >>> 16).toUInt8 (n >>> 8).toUInt8 n.toUInt8 = n := by
  rw [← UInt32.toNat_inj, toNat_word32, toNat_word16, toNat_word16]
  simp only [UInt32.toNat_toUInt8, UInt32.toNat_shiftRight, Nat.shiftRight_eq_div_pow]
  have hn := n.toNat_lt
  change (n.toNat / 16777216 % 256 * 256 + n.toNat / 65536 % 256) * 65536 +
    (n.toNat / 256 % 256 * 256 + n.toNat % 256) = n.toNat
  omega

theorem bytes32_word32 (a b c d : UInt8) : bytes32 (word32 a b c d) = [a, b, c, d] := by
  have ha := a.toNat_lt
  have hb := b.toNat_lt
  have hc := c.toNat_lt
  have hd := d.toNat_lt
  have hword := toNat_word32 a b c d
  rw [toNat_word16, toNat_word16] at hword
  simp only [bytes32, List.cons.injEq, and_true, ← UInt8.toNat_inj, UInt32.toNat_toUInt8,
    UInt32.toNat_shiftRight, Nat.shiftRight_eq_div_pow]
  change (word32 a b c d).toNat / 16777216 % 256 = a.toNat ∧
    (word32 a b c d).toNat / 65536 % 256 = b.toNat ∧
      (word32 a b c d).toNat / 256 % 256 = c.toNat ∧ (word32 a b c d).toNat % 256 = d.toNat
  omega

@[simp] theorem length_bytes16 (n : UInt16) : (bytes16 n).length = 2 := rfl

@[simp] theorem length_bytes32 (n : UInt32) : (bytes32 n).length = 4 := rfl

namespace Packet

theorem length_toBytes (p : Packet) : p.toBytes.length = packetSize := by
  simp only [toBytes, List.length_append, length_bytes16, length_bytes32, Vector.length_toList]
  rfl

theorem ofBody?_append (version kind : UInt16) (carried : UInt32) (status : UInt16)
    (region : Vector UInt8 regionSize) (padding : UInt16) :
    ofBody? version kind carried status (region.toList ++ bytes16 padding) =
      some { version, kind, carried, status, region, padding } := by
  have hsize : region.toList.length = regionSize := Vector.length_toList
  simp only [ofBody?, List.take_left' hsize, List.drop_left' hsize, hsize, dif_pos, bytes16,
    word16_bytes]
  rfl

theorem ofBytes?_toBytes (p : Packet) : ofBytes? p.toBytes = some p := by
  change ofBody? (word16 _ _) (word16 _ _) (word32 _ _ _ _) (word16 _ _)
    (p.region.toList ++ bytes16 p.padding) = some p
  simp only [word16_bytes, word32_bytes, ofBody?_append]

theorem toBytes_of_ofBody? {version kind : UInt16} {carried : UInt32} {status : UInt16}
    {body : List UInt8} {p : Packet} (h : ofBody? version kind carried status body = some p) :
    p.toBytes =
      bytes16 version ++ bytes16 kind ++ bytes32 carried ++ bytes16 status ++ body := by
  unfold ofBody? at h
  split at h
  next hsize =>
    split at h
    next a b hpadding =>
      cases h
      have hbody : body = body.take regionSize ++ [a, b] := by
        rw [← hpadding, List.take_append_drop]
      rw [toBytes, bytes16_word16, Vector.toList_mk, List.append_assoc, ← hbody]
    next => cases h
  next => cases h

theorem toBytes_of_ofBytes? {bytes : List UInt8} {p : Packet} (h : ofBytes? bytes = some p) :
    p.toBytes = bytes := by
  unfold ofBytes? at h
  split at h
  next =>
    rw [toBytes_of_ofBody? h, bytes16_word16, bytes16_word16, bytes16_word16, bytes32_word32]
    rfl
  next => cases h

theorem ofBytes?_eq_some_iff {bytes : List UInt8} {p : Packet} :
    ofBytes? bytes = some p ↔ p.toBytes = bytes :=
  ⟨toBytes_of_ofBytes?, fun h => h ▸ ofBytes?_toBytes p⟩

theorem exists_ofBody? {body : List UInt8} (hlen : body.length = regionSize + 2)
    (version kind : UInt16) (carried : UInt32) (status : UInt16) :
    ∃ p, ofBody? version kind carried status body = some p := by
  have hregion : (body.take regionSize).length = regionSize := by
    rw [List.length_take]
    omega
  have hpadding : (body.drop regionSize).length = 2 := by
    rw [List.length_drop]
    omega
  rw [ofBody?, dif_pos hregion, List.eq_getElem_of_length_eq_two _ hpadding]
  exact ⟨_, rfl⟩

theorem exists_ofBytes? {bytes : List UInt8} (hlen : bytes.length = packetSize) :
    ∃ p, ofBytes? bytes = some p := by
  match bytes, hlen with
  | v₁ :: v₂ :: k₁ :: k₂ :: c₁ :: c₂ :: c₃ :: c₄ :: s₁ :: s₂ :: body, hlen =>
    have hbody : body.length = regionSize + 2 := by
      simp only [List.length_cons, packetSize, regionSize] at hlen ⊢
      omega
    exact exists_ofBody? hbody _ _ _ _

theorem toBytes_injective {p q : Packet} (h : p.toBytes = q.toBytes) : p = q := by
  have hp := ofBytes?_toBytes p
  rw [h, ofBytes?_toBytes] at hp
  exact (Option.some.inj hp).symm

/-! ## Verification -/

theorem verify_eq_ok_iff {p : Packet} {kind : Kind} :
    p.verify kind = .ok () ↔
      p.version = protocolVersion ∧ p.kind = kind.code ∧ p.computed = p.carried ∧
        (0 : UInt8) ∈ p.region.toList := by
  unfold verify fault?
  grind

theorem exists_error_of_not_verified {p : Packet} {kind : Kind} (h : p.verify kind ≠ .ok ()) :
    ∃ error, p.verify kind = .error error := by
  cases hp : p.verify kind with
  | error error => exact ⟨error, rfl⟩
  | ok verified => exact absurd hp h

/-! ## Building -/

@[simp] theorem version_build (kind : Kind) (status : UInt16) (bytes : List UInt8)
    (padding : UInt16) : (build kind status bytes padding).version = protocolVersion := rfl

@[simp] theorem kind_build (kind : Kind) (status : UInt16) (bytes : List UInt8)
    (padding : UInt16) : (build kind status bytes padding).kind = kind.code := rfl

@[simp] theorem status_build (kind : Kind) (status : UInt16) (bytes : List UInt8)
    (padding : UInt16) : (build kind status bytes padding).status = status := rfl

theorem computed_withChecksum (p : Packet) :
    p.withChecksum.computed = p.withChecksum.carried := rfl

theorem toList_regionOf {bytes : List UInt8} (h : bytes.length ≤ regionSize) :
    (regionOf bytes).toList = bytes ++ List.replicate (regionSize - bytes.length) 0 := by
  rw [regionOf, Vector.toList_mk, List.take_of_length_le h]

/-- A payload that was cut leaves at least one zero behind it. -/
theorem toList_region_build (kind : Kind) (status : UInt16) (bytes : List UInt8)
    (padding : UInt16) :
    ∃ zeros, (build kind status bytes padding).region.toList =
      bytes.take (regionSize - 1) ++ 0 :: List.replicate zeros 0 := by
  have hcut : (bytes.take (regionSize - 1)).length < regionSize := by
    rw [List.length_take]
    exact Nat.lt_of_le_of_lt (Nat.min_le_left _ _) (by decide)
  obtain ⟨zeros, hzeros⟩ :
      ∃ zeros, regionSize - (bytes.take (regionSize - 1)).length = zeros + 1 :=
    Nat.exists_eq_succ_of_ne_zero (Nat.sub_ne_zero_of_lt hcut)
  refine ⟨zeros, ?_⟩
  change (regionOf (bytes.take (regionSize - 1))).toList = _
  rw [toList_regionOf (Nat.le_of_lt hcut), hzeros, List.replicate_succ]

theorem takeWhile_append_stop {α : Type} {keep : α → Bool} {stop : α} (h : keep stop = false)
    (before after : List α) : (before ++ stop :: after).takeWhile keep = before.takeWhile keep := by
  induction before with
  | nil => simp [h]
  | cons a before ih => cases ha : keep a <;> simp [ha, ih]

theorem payload_build (kind : Kind) (status : UInt16) (bytes : List UInt8) (padding : UInt16) :
    (build kind status bytes padding).payload =
      (bytes.take (regionSize - 1)).takeWhile (· != 0) := by
  obtain ⟨zeros, hregion⟩ := toList_region_build kind status bytes padding
  rw [payload, hregion]
  exact takeWhile_append_stop rfl _ _

/-- A payload without a zero is cut only where the region ends. -/
theorem payload_build_of_notMem (kind : Kind) (status : UInt16) {bytes : List UInt8}
    (padding : UInt16) (h : (0 : UInt8) ∉ bytes) :
    (build kind status bytes padding).payload = bytes.take (regionSize - 1) := by
  have hkeep : ∀ b ∈ bytes.take (regionSize - 1), (b != 0) = true := by
    intro b hb
    exact bne_iff_ne.mpr fun heq => h (heq ▸ List.mem_of_mem_take hb)
  rw [payload_build, ← List.append_nil (bytes.take (regionSize - 1)),
    List.takeWhile_append_of_pos hkeep, List.takeWhile_nil]

theorem verify_build (kind : Kind) (status : UInt16) (bytes : List UInt8) (padding : UInt16) :
    (build kind status bytes padding).verify kind = .ok () := by
  obtain ⟨zeros, hregion⟩ := toList_region_build kind status bytes padding
  refine verify_eq_ok_iff.2 ⟨rfl, rfl, computed_withChecksum _, ?_⟩
  rw [hregion]
  exact List.mem_append_right _ List.mem_cons_self

end Packet
end Nrpe
end MonitorAgent
