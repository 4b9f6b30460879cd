import MonitorAgent.Nrpe.Stream
import MonitorAgent.Proofs.Frames

/-!
# Reading frames

What a read yields and what it leaves depend on the bytes that remain and on the
ending of the stream only, and not on the chunks that the bytes come in.
-/

namespace MonitorAgent
namespace Nrpe
namespace Stream

theorem takeBytes_fst (n : Nat) (chunks : List (List UInt8)) :
    (takeBytes n chunks).1 = chunks.flatten.take n := by
  fun_induction takeBytes n chunks with
  | case1 chunks => rfl
  | case2 n => rfl
  | case3 n chunk chunks hfits bytes rest hrest ih =>
    rw [hrest] at ih
    rw [List.flatten_cons, List.take_append, List.take_of_length_le hfits, ← ih]
  | case4 n chunk chunks hlong =>
    have hzero : n + 1 - chunk.length = 0 := by omega
    rw [List.flatten_cons, List.take_append, hzero, List.take_zero, List.append_nil]

theorem flatten_takeBytes_snd (n : Nat) (chunks : List (List UInt8)) :
    (takeBytes n chunks).2.flatten = chunks.flatten.drop n := by
  fun_induction takeBytes n chunks with
  | case1 chunks => rfl
  | case2 n => rfl
  | case3 n chunk chunks hfits bytes rest hrest ih =>
    rw [hrest] at ih
    rw [List.flatten_cons, List.drop_append, List.drop_of_length_le hfits, List.nil_append, ← ih]
  | case4 n chunk chunks hlong =>
    have hzero : n + 1 - chunk.length = 0 := by omega
    rw [List.flatten_cons, List.flatten_cons, List.drop_append, hzero, List.drop_zero]

variable {s : Stream} {n : Nat}

theorem readExactly_of_le (limit : Duration) (h : n ≤ s.remaining.length) :
    ∃ t, s.readExactly limit n = (.ok (s.remaining.take n), t) ∧
      t.remaining = s.remaining.drop n ∧ t.ending = s.ending := by
  refine ⟨(s.readExactly limit n).2, ?_, flatten_takeBytes_snd n s.chunks, rfl⟩
  have hlen : (s.chunks.flatten.take n).length = n := List.length_take_of_le h
  simp only [readExactly, takeBytes_fst, hlen, if_true]
  rfl

/-- What there is gets consumed. -/
theorem readExactly_of_lt (limit : Duration) (h : s.remaining.length < n) :
    ∃ t, s.readExactly limit n = (.error (Ending.error limit s.ending), t) ∧
      t.remaining = [] ∧ t.ending = s.ending := by
  have hdrop : s.remaining.drop n = [] := List.drop_of_length_le (Nat.le_of_lt h)
  refine ⟨(s.readExactly limit n).2, ?_, (flatten_takeBytes_snd n s.chunks).trans hdrop, rfl⟩
  have hlen : (s.chunks.flatten.take n).length ≠ n := by
    rw [List.length_take]
    exact Nat.ne_of_lt (Nat.lt_of_le_of_lt (Nat.min_le_right _ _) h)
  simp only [readExactly, takeBytes_fst, hlen, if_false]

end Stream

namespace Packet

variable {s : Stream}

theorem read_foreign (limit : Duration) (h : s.remaining.take 2 = bytes16 foreignVersion) :
    ∃ t, Packet.read limit s = (.error (.unsupportedVersion foreignVersion), t) ∧
      t.remaining = s.remaining.drop 2 ∧ t.ending = s.ending := by
  have hlen : 2 ≤ s.remaining.length := by
    have hsize := congrArg List.length h
    rw [List.length_take, length_bytes16] at hsize
    omega
  obtain ⟨t, hread, hrest, hending⟩ := Stream.readExactly_of_le limit hlen
  exact ⟨t, by rw [Packet.read, hread]; simp only [h, if_true], hrest, hending⟩

theorem read_short (limit : Duration) (h : s.remaining.take 2 ≠ bytes16 foreignVersion)
    (hlen : s.remaining.length < packetSize) :
    ∃ t, Packet.read limit s = (.error (Stream.Ending.error limit s.ending), t) ∧
      t.remaining = [] ∧ t.ending = s.ending := by
  by_cases hstart : 2 ≤ s.remaining.length
  · obtain ⟨t, hread, hrest, hending⟩ := Stream.readExactly_of_le limit hstart
    have hshort : t.remaining.length < packetSize - 2 := by
      rw [hrest, List.length_drop]
      omega
    obtain ⟨u, hread', hrest', hending'⟩ := Stream.readExactly_of_lt limit hshort
    refine ⟨u, ?_, hrest', hending'.trans hending⟩
    rw [Packet.read, hread]
    simp only [h, if_false, hread', hending]
  · obtain ⟨t, hread, hrest, hending⟩ :=
      Stream.readExactly_of_lt limit (Nat.lt_of_not_le hstart)
    exact ⟨t, by rw [Packet.read, hread], hrest, hending⟩

theorem read_whole (limit : Duration) {p : Packet}
    (h : s.remaining.take 2 ≠ bytes16 foreignVersion)
    (hp : ofBytes? (s.remaining.take packetSize) = some p) :
    ∃ t, Packet.read limit s = (.ok p, t) ∧
      t.remaining = s.remaining.drop packetSize ∧ t.ending = s.ending := by
  have hlen : packetSize ≤ s.remaining.length := by
    have hsize := congrArg List.length (toBytes_of_ofBytes? hp)
    rw [length_toBytes, List.length_take] at hsize
    omega
  obtain ⟨t, hread, hrest, hending⟩ :=
    Stream.readExactly_of_le limit (Nat.le_trans (by decide : 2 ≤ packetSize) hlen)
  have hbody : packetSize - 2 ≤ t.remaining.length := by
    rw [hrest, List.length_drop]
    omega
  obtain ⟨u, hread', hrest', hending'⟩ := Stream.readExactly_of_le limit hbody
  have hjoin : s.remaining.take 2 ++ t.remaining.take (packetSize - 2) =
      s.remaining.take packetSize := by
    rw [hrest, ← List.take_add]
    rfl
  refine ⟨u, ?_, ?_, hending'.trans hending⟩
  · rw [Packet.read, hread]
    simp only [h, if_false, hread', hjoin, hp]
  · rw [hrest', hrest, List.drop_drop]
    rfl

theorem read_eq_ok_iff (limit : Duration) {p : Packet} :
    (Packet.read limit s).1 = .ok p ↔
      s.remaining.take 2 ≠ bytes16 foreignVersion ∧ p.toBytes = s.remaining.take packetSize := by
  by_cases hversion : s.remaining.take 2 = bytes16 foreignVersion
  · obtain ⟨t, hread, -⟩ := read_foreign limit hversion
    rw [hread]
    exact ⟨nofun, fun h => absurd hversion h.1⟩
  by_cases hlen : s.remaining.length < packetSize
  · obtain ⟨t, hread, -⟩ := read_short limit hversion hlen
    rw [hread]
    refine ⟨nofun, fun h => ?_⟩
    have hsize := congrArg List.length h.2
    rw [length_toBytes, List.length_take] at hsize
    omega
  · obtain ⟨q, hq⟩ := exists_ofBytes? (List.length_take_of_le (Nat.le_of_not_lt hlen))
    obtain ⟨t, hread, -⟩ := read_whole limit hversion hq
    rw [hread, ← toBytes_of_ofBytes? hq]
    constructor
    · intro h
      cases h
      exact ⟨hversion, rfl⟩
    · rintro ⟨-, h⟩
      rw [toBytes_injective h]

end Packet
end Nrpe
end MonitorAgent
