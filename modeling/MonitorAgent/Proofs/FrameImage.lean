import MonitorAgent.Proofs.Frames

/-!
# Frames that are built

Building leaves a zero at the end of the region.  Of the frames that verify as a
kind, those with such a zero are the ones that can be built: the status, the bytes
of the region before its last one, and the padding build the frame again.  A frame
that was built verifies as no other kind.
-/

namespace MonitorAgent
namespace Nrpe
namespace Packet

theorem getElem?_toBytes_region (p : Packet) {i : Nat} (hi : i < regionSize) :
    p.toBytes[10 + i]? = p.region.toList[i]? := by
  have hheader : (bytes16 p.version ++ bytes16 p.kind ++ bytes32 p.carried ++
      bytes16 p.status).length = 10 := rfl
  have hregion : i < p.region.toList.length := by rwa [Vector.length_toList]
  rw [toBytes, List.append_assoc _ p.region.toList, List.getElem?_append_right (by omega), hheader,
    Nat.add_sub_cancel_left, List.getElem?_append_left hregion]

/-- The last byte of the region is the one at 1033. -/
theorem getElem?_toBytes_last (p : Packet) :
    p.toBytes[1033]? = p.region.toList[regionSize - 1]? := by
  have hlast : regionSize - 1 < regionSize := by decide
  exact getElem?_toBytes_region p hlast

/-- Behind the region there is the padding. -/
theorem drop_toBytes (p : Packet) : p.toBytes.drop 1034 = bytes16 p.padding := by
  have hfront : (bytes16 p.version ++ bytes16 p.kind ++ bytes32 p.carried ++ bytes16 p.status ++
      p.region.toList).length = 1034 := by
    rw [List.length_append, Vector.length_toList]
    rfl
  rw [toBytes, List.drop_left' hfront]

theorem region_build_last (kind : Kind) (status : UInt16) (bytes : List UInt8)
    (padding : UInt16) :
    (build kind status bytes padding).region.toList[regionSize - 1]? = some 0 := by
  obtain ⟨zeros, hregion⟩ := toList_region_build kind status bytes padding
  have hsize := congrArg List.length hregion
  rw [Vector.length_toList, List.length_append, List.length_cons, List.length_replicate] at hsize
  rw [hregion, ← List.replicate_succ, List.getElem?_append_right (by omega),
    List.getElem?_replicate, if_pos (by omega)]

/-- All but the last byte of a region that ends with a zero make it up again. -/
theorem regionOf_take {region : Vector UInt8 regionSize}
    (hlast : region.toList[regionSize - 1]? = some 0) :
    regionOf (region.toList.take (regionSize - 1)) = region := by
  have hsize : region.toList.length = regionSize := Vector.length_toList
  have hcut : (region.toList.take (regionSize - 1)).length = regionSize - 1 := by
    rw [List.length_take, hsize]
    rfl
  have hdrop : region.toList.drop (regionSize - 1) = [0] := by
    have hend : region.toList.drop (regionSize - 1 + 1) = [] :=
      List.drop_of_length_le (Nat.le_of_eq hsize)
    rw [List.drop_eq_getElem?_toList_append, hlast, hend]
    rfl
  apply Vector.toList_inj.mp
  rw [toList_regionOf (by omega), hcut]
  calc
    region.toList.take (regionSize - 1) ++ List.replicate (regionSize - (regionSize - 1)) 0 =
        region.toList.take (regionSize - 1) ++ region.toList.drop (regionSize - 1) := by
      rw [hdrop]
      rfl
    _ = region.toList := List.take_append_drop _ _

/-- A packet that verifies and has a zero at the end of its region is built from what it holds. -/
theorem build_eq_self {p : Packet} {kind : Kind} (hverify : p.verify kind = .ok ())
    (hlast : p.region.toList[regionSize - 1]? = some 0) :
    build kind p.status (p.region.toList.take (regionSize - 1)) p.padding = p := by
  obtain ⟨hversion, hkind, hcomputed, -⟩ := verify_eq_ok_iff.1 hverify
  have hregion : regionOf ((p.region.toList.take (regionSize - 1)).take (regionSize - 1)) =
      p.region := by rw [List.take_take, Nat.min_self, regionOf_take hlast]
  obtain ⟨version, code, carried, status, region, padding⟩ := p
  simp only at hversion hkind hcomputed hregion
  subst hversion hkind
  simp only [build, withChecksum, hregion]
  rw [← hcomputed]
  rfl

theorem code_injective {a b : Kind} (h : a.code = b.code) : a = b := by
  cases a <;> cases b
  · rfl
  · exact absurd h (by decide)
  · exact absurd h (by decide)
  · rfl

theorem verify_build_of_ne {kind other : Kind} (hne : other ≠ kind) (status : UInt16)
    (bytes : List UInt8) (padding : UInt16) :
    (build kind status bytes padding).verify other =
      .error (.kindMismatch other.code kind.code) := by
  have hkind : kind.code ≠ other.code := by
    intro h
    exact hne (code_injective h).symm
  have hfault : (build kind status bytes padding).fault? other =
      some (.kindMismatch other.code kind.code) := by
    rw [fault?, version_build, kind_build, if_neg (not_not_intro rfl), if_pos hkind]
  rw [verify, hfault]

/-- The frames that can be built as a kind are those that verify as it with a zero at the end of
the region, and what a frame was built from is read back from it. -/
theorem exists_build_iff (kind : Kind) :
    (∀ frame : List UInt8,
      ((∃ p, ofBytes? frame = some p ∧ p.verify kind = .ok ()) ∧ frame[1033]? = some 0) ↔
        ∃ status payload a b, (build kind status payload (word16 a b)).toBytes = frame) ∧
    ∀ (status : UInt16) (payload : List UInt8) (a b : UInt8),
      let frame := (build kind status payload (word16 a b)).toBytes
      frame.length = 1036 ∧ frame.drop 1034 = [a, b] ∧
      ∃ p, ofBytes? frame = some p ∧ p.version = 2 ∧ p.kind = kind.code ∧ p.status = status ∧
        p.payload = (payload.take 1023).takeWhile (· != 0) ∧
        ∀ other, other ≠ kind → p.verify other = .error (.kindMismatch other.code kind.code) := by
  refine ⟨fun frame => ⟨?_, ?_⟩, fun status payload a b => ⟨length_toBytes _, ?_, _,
    ofBytes?_toBytes _, rfl, rfl, rfl, payload_build _ _ _ _, ?_⟩⟩
  · rintro ⟨⟨p, hp, hverify⟩, hlast⟩
    rw [← toBytes_of_ofBytes? hp, getElem?_toBytes_last] at hlast
    refine ⟨p.status, p.region.toList.take (regionSize - 1), (p.padding >>> 8).toUInt8,
      p.padding.toUInt8, ?_⟩
    rw [word16_bytes, build_eq_self hverify hlast, toBytes_of_ofBytes? hp]
  · rintro ⟨status, payload, a, b, rfl⟩
    refine ⟨⟨_, ofBytes?_toBytes _, verify_build _ _ _ _⟩, ?_⟩
    rw [getElem?_toBytes_last, region_build_last]
  · rw [drop_toBytes]
    exact bytes16_word16 a b
  · exact fun other hne => verify_build_of_ne hne status payload (word16 a b)

/-- A payload that does not fit is cut, and the query it was sent with is no response. -/
theorem exists_build_iff_oversized :
    let frame := (build .query 7 (List.replicate 2000 0x61) (word16 1 2)).toBytes
    Kind.response ≠ .query ∧
    ∃ p, ofBytes? frame = some p ∧ p.payload = List.replicate 1023 0x61 ∧
      p.verify .response = .error (.kindMismatch 2 1) := by
  intro frame
  have hne : Kind.response ≠ .query := by decide
  obtain ⟨-, -, p, hp, -, -, -, hpayload, hother⟩ :=
    (exists_build_iff .query).2 7 (List.replicate 2000 0x61) 1 2
  have hcut : ((List.replicate 2000 (0x61 : UInt8)).take 1023).takeWhile (· != 0) =
      List.replicate 1023 0x61 := by decide +kernel
  exact ⟨hne, p, hp, hpayload.trans hcut, hother .response hne⟩

end Packet
end Nrpe
end MonitorAgent
