import MonitorAgent.Proofs.Frames
import MonitorAgent.Proofs.ShiftRegister

/-!
# Bursts in frames

A burst is a change inside a few consecutive bytes.  One of at most four bytes
changes the checksum of any bytes.  So a frame that verifies does not verify any
more after such a burst, whether it hits the carried checksum, which is the bytes
from 4 to 7, or lies outside of it.
-/

namespace MonitorAgent
namespace Nrpe

/-- Two lists are the same outside of `length` places from `start` on. -/
def AgreeOutside (start length : Nat) (a b : List UInt8) : Prop :=
  ∀ i, i < start ∨ start + length ≤ i → a[i]? = b[i]?

theorem AgreeOutside.take_eq {start length : Nat} {a b : List UInt8}
    (h : AgreeOutside start length a b) : a.take start = b.take start := by
  apply List.ext_getElem?
  intro i
  rw [List.getElem?_take, List.getElem?_take]
  split
  next hi => exact h i (Or.inl hi)
  next => rfl

theorem AgreeOutside.drop_eq {start length : Nat} {a b : List UInt8}
    (h : AgreeOutside start length a b) : a.drop (start + length) = b.drop (start + length) := by
  apply List.ext_getElem?
  intro i
  rw [List.getElem?_drop, List.getElem?_drop]
  exact h _ (Or.inr (Nat.le_add_right _ _))

/-- A place at which the lists differ lies inside. -/
theorem AgreeOutside.exists_ne {start length : Nat} {a b : List UInt8}
    (h : AgreeOutside start length a b) (hne : a ≠ b) :
    ∃ i, start ≤ i ∧ i < start + length ∧ a[i]? ≠ b[i]? := by
  obtain ⟨i, hi⟩ : ∃ i, a[i]? ≠ b[i]? := by
    apply Classical.byContradiction
    intro hall
    exact hne (List.ext_getElem? fun i => Classical.byContradiction fun hi => hall ⟨i, hi⟩)
  have hinside : ¬(i < start ∨ start + length ≤ i) := fun houtside => hi (h i houtside)
  exact ⟨i, by omega, by omega, hi⟩

theorem agreeOutside_append {x y : List UInt8} (hsize : x.length = y.length)
    (before after : List UInt8) :
    AgreeOutside before.length x.length (before ++ (x ++ after)) (before ++ (y ++ after)) := by
  intro i hi
  rcases hi with hi | hi
  · rw [List.getElem?_append_left hi, List.getElem?_append_left hi]
  · have hbefore : before.length ≤ i := by omega
    have hx : x.length ≤ i - before.length := by omega
    rw [List.getElem?_append_right hbefore, List.getElem?_append_right hbefore,
      List.getElem?_append_right hx, List.getElem?_append_right (hsize ▸ hx), hsize]

theorem take_append_block (start length : Nat) (a : List UInt8) :
    a.take start ++ (a.drop start).take length ++ a.drop (start + length) = a := by
  rw [List.append_assoc, ← List.drop_drop, List.take_append_drop, List.take_append_drop]

theorem checksum_ne_of_agreeOutside {start length : Nat} {a b : List UInt8}
    (hlength : length ≤ 4) (hsize : a.length = b.length) (h : AgreeOutside start length a b)
    (hne : a ≠ b) : checksum a ≠ checksum b := by
  intro hsum
  have hblock : (a.drop start).take length = (b.drop start).take length := by
    rw [← take_append_block start length a, ← take_append_block start length b, h.take_eq,
      h.drop_eq] at hsum
    refine checksum_block_injective ?_ ?_ hsum
    · simp only [List.length_take, List.length_drop, hsize]
    · rw [List.length_take]
      exact Nat.le_trans (Nat.min_le_left _ _) hlength
  apply hne
  rw [← take_append_block start length a, ← take_append_block start length b, h.take_eq, hblock,
    h.drop_eq]

namespace Packet

variable {p q : Packet} {start length : Nat}

/-- The packet as its checksum sees it. -/
def cleared (p : Packet) : Packet :=
  { p with carried := 0 }

theorem agreeOutside_cleared (p : Packet) : AgreeOutside 4 4 p.cleared.toBytes p.toBytes := by
  have happend (p : Packet) : p.toBytes = (bytes16 p.version ++ bytes16 p.kind) ++
      (bytes32 p.carried ++ (bytes16 p.status ++ p.region.toList ++ bytes16 p.padding)) := by
    simp only [toBytes, List.append_assoc]
  have hsize : (bytes32 0).length = (bytes32 p.carried).length := rfl
  rw [happend, happend p]
  exact agreeOutside_append hsize (bytes16 p.version ++ bytes16 p.kind) _

theorem bytes32_carried (p : Packet) : bytes32 p.carried = (p.toBytes.drop 4).take 4 := rfl

theorem carried_eq (h : ∀ i, 4 ≤ i → i < 8 → p.toBytes[i]? = q.toBytes[i]?) :
    p.carried = q.carried := by
  have hbytes : bytes32 p.carried = bytes32 q.carried := by
    rw [bytes32_carried, bytes32_carried]
    apply List.ext_getElem?
    intro i
    rw [List.getElem?_take, List.getElem?_take]
    split
    next hi =>
      rw [List.getElem?_drop, List.getElem?_drop]
      exact h _ (by omega) (by omega)
    next => rfl
  simp only [bytes32, List.cons.injEq, and_true] at hbytes
  obtain ⟨h₁, h₂, h₃, h₄⟩ := hbytes
  rw [← word32_bytes p.carried, h₁, h₂, h₃, h₄, word32_bytes]

/-- The cleared packets differ where the packets do, as long as that is not in the checksum. -/
theorem getElem?_cleared (p : Packet) {i : Nat} (hi : i < 4 ∨ 8 ≤ i) :
    p.cleared.toBytes[i]? = p.toBytes[i]? :=
  agreeOutside_cleared p i hi

theorem getElem?_cleared_checksum (p q : Packet) {i : Nat} (hi : 4 ≤ i) (hi' : i < 8) :
    p.cleared.toBytes[i]? = q.cleared.toBytes[i]? := by
  match i, hi, hi' with
  | 4, _, _ | 5, _, _ | 6, _, _ | 7, _, _ => rfl

/-- A burst outside of the checksum leaves what is carried and changes what is computed. -/
theorem computed_ne (hlength : length ≤ 4) (hplace : start + length ≤ 4 ∨ 8 ≤ start)
    (h : AgreeOutside start length p.toBytes q.toBytes) (hne : p.toBytes ≠ q.toBytes) :
    p.carried = q.carried ∧ p.computed ≠ q.computed := by
  have hagree : AgreeOutside start length p.cleared.toBytes q.cleared.toBytes := by
    intro i hi
    by_cases hsum : i < 4 ∨ 8 ≤ i
    · rw [getElem?_cleared p hsum, getElem?_cleared q hsum]
      exact h i hi
    · exact getElem?_cleared_checksum p q (by omega) (by omega)
  have hcleared : p.cleared.toBytes ≠ q.cleared.toBytes := by
    obtain ⟨i, hi, hi', hdiff⟩ := h.exists_ne hne
    intro heq
    have hsum : i < 4 ∨ 8 ≤ i := by omega
    rw [← getElem?_cleared p hsum, ← getElem?_cleared q hsum, heq] at hdiff
    exact hdiff rfl
  have hsize : p.cleared.toBytes.length = q.cleared.toBytes.length := by
    rw [length_toBytes, length_toBytes]
  exact ⟨carried_eq fun i hi hi' => h i (by omega),
    checksum_ne_of_agreeOutside hlength hsize hagree hcleared⟩

/-- A burst in the checksum changes what is carried and leaves what is computed. -/
theorem carried_ne (hplace : 4 ≤ start ∧ start + length ≤ 8)
    (h : AgreeOutside start length p.toBytes q.toBytes) (hne : p.toBytes ≠ q.toBytes) :
    p.carried ≠ q.carried ∧ p.computed = q.computed := by
  have hcleared : p.cleared = q.cleared := by
    apply toBytes_injective
    apply List.ext_getElem?
    intro i
    by_cases hi : i < 4 ∨ 8 ≤ i
    · rw [getElem?_cleared p hi, getElem?_cleared q hi]
      exact h i (by omega)
    · exact getElem?_cleared_checksum p q (by omega) (by omega)
  refine ⟨fun hcarried => hne ?_, congrArg (fun r : Packet => checksum r.toBytes) hcleared⟩
  have hpacket : { p.cleared with carried := p.carried } =
      { q.cleared with carried := q.carried } := by rw [hcleared, hcarried]
  exact congrArg toBytes hpacket

theorem not_verified_of_agreeOutside {kind expected : Kind} (hp : p.verify kind = .ok ())
    (hlength : length ≤ 4)
    (hplace : start + length ≤ 4 ∨ (4 ≤ start ∧ start + length ≤ 8) ∨ 8 ≤ start)
    (h : AgreeOutside start length p.toBytes q.toBytes) (hne : p.toBytes ≠ q.toBytes) :
    q.verify expected ≠ .ok () := by
  intro hq
  have hpsum := (verify_eq_ok_iff.1 hp).2.2.1
  have hqsum := (verify_eq_ok_iff.1 hq).2.2.1
  rcases hplace with hplace | hplace | hplace
  · obtain ⟨hcarried, hcomputed⟩ := computed_ne hlength (Or.inl hplace) h hne
    exact hcomputed (hpsum.trans (hcarried.trans hqsum.symm))
  · obtain ⟨hcarried, hcomputed⟩ := carried_ne hplace h hne
    exact hcarried (hpsum.symm.trans (hcomputed.trans hqsum))
  · obtain ⟨hcarried, hcomputed⟩ := computed_ne hlength (Or.inr hplace) h hne
    exact hcomputed (hpsum.trans (hcarried.trans hqsum.symm))

theorem agreeOutside_modify (a : List UInt8) (i : Nat) (f : UInt8 → UInt8) :
    AgreeOutside i 1 a (a.modify i f) := by
  intro j hj
  have hij : i ≠ j := by omega
  simp [hij]

theorem flipped_ne (x : UInt8) {bit : Nat} (hbit : bit < 8) :
    x ^^^ 1 <<< UInt8.ofNat bit ≠ x := by
  have hmask : ∀ bit < 8, (1 : UInt8) <<< UInt8.ofNat bit ≠ 0 := by decide
  intro h
  apply hmask bit hbit
  rw [← UInt8.xor_right_inj x, h, UInt8.xor_zero]

/-- Every single bit counts, those of the header and of the checksum as well. -/
theorem not_verified_of_flipped_bit {kind expected : Kind} (hp : p.verify kind = .ok ())
    {i bit : Nat} (hi : i < packetSize) (hbit : bit < 8)
    (hq : q.toBytes = p.toBytes.modify i (· ^^^ 1 <<< UInt8.ofNat bit)) :
    q.verify expected ≠ .ok () := by
  have hagree : AgreeOutside i 1 p.toBytes q.toBytes := hq ▸ agreeOutside_modify p.toBytes i _
  refine not_verified_of_agreeOutside hp (by decide) (by omega) hagree ?_
  intro heq
  have hlen : i < p.toBytes.length := (length_toBytes p).symm ▸ hi
  have hbyte := congrArg (·[i]?) (heq.trans hq)
  simp only [List.getElem?_modify, if_pos, List.getElem?_eq_getElem hlen, Option.map_eq_map,
    Option.map_some, Option.some.injEq] at hbyte
  exact flipped_ne _ hbit hbyte.symm

end Packet

/-- A frame that verifies as some kind is not a packet of any kind after a burst of at most four
bytes, all of them in its checksum or all of them outside of it. -/
theorem verify_error_of_burst {a b : List UInt8} {p : Packet} {kind : Kind} {start length : Nat}
    (ha : Packet.ofBytes? a = some p) (hp : p.verify kind = .ok ())
    (hsize : b.length = packetSize) (hlength : length ≤ 4)
    (hplace : start + length ≤ 4 ∨ (4 ≤ start ∧ start + length ≤ 8) ∨ 8 ≤ start)
    (hagree : ∀ i, i < start ∨ start + length ≤ i → a[i]? = b[i]?) (hne : a ≠ b) :
    ∃ q, Packet.ofBytes? b = some q ∧
      ∀ expected, ∃ error, q.verify expected = .error error := by
  obtain ⟨q, hb⟩ := Packet.exists_ofBytes? hsize
  obtain rfl := Packet.toBytes_of_ofBytes? ha
  obtain rfl := Packet.toBytes_of_ofBytes? hb
  refine ⟨q, hb, fun expected => Packet.exists_error_of_not_verified ?_⟩
  exact Packet.not_verified_of_agreeOutside hp hlength hplace hagree hne

/-- The first four letters of a query are other ones. -/
theorem verify_error_of_burst_in_command :
    let a := (Packet.query "check_cpu" 0).toBytes
    let b := a.take 10 ++ [0x5F, 0x4E, 0x52, 0x50] ++ a.drop 14
    (Packet.query "check_cpu" 0).verify .query = .ok () ∧ a ≠ b ∧
      ∃ q, Packet.ofBytes? b = some q ∧
        ∀ expected, ∃ error, q.verify expected = .error error := by
  intro a b
  have hp : (Packet.query "check_cpu" 0).verify .query = .ok () := Packet.verify_build _ _ _ _
  have ha : a.length = packetSize := Packet.length_toBytes _
  have hne : a ≠ b := by
    have hletter : a[10]? ≠ b[10]? := by decide +kernel
    exact fun heq => hletter (heq ▸ rfl)
  have hsize : b.length = packetSize := by
    simp only [b, List.length_append, List.length_take, List.length_drop, ha]
    rfl
  have hagree : AgreeOutside 10 4 a b := by
    have hblock : a.take 10 ++ ((a.drop 10).take 4 ++ a.drop 14) = a := by
      rw [← List.append_assoc]
      exact take_append_block 10 4 a
    have happend := agreeOutside_append (x := (a.drop 10).take 4) (y := [0x5F, 0x4E, 0x52, 0x50])
      (by simp [ha, packetSize]) (a.take 10) (a.drop 14)
    rw [hblock] at happend
    simpa [b, ha, packetSize] using happend
  exact ⟨hp, hne, verify_error_of_burst (Packet.ofBytes?_toBytes _) hp hsize (by decide)
    (Or.inr (Or.inr (by decide))) hagree hne⟩

end Nrpe
end MonitorAgent
