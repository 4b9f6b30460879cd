import MonitorAgent.Proofs.FrameReading

/-!
# Successive reads

`Reads` says in terms of bytes alone what a read yields and what it leaves behind,
and `Run` says so of any number of reads one after the other.  Reading a stream
follows these relations whatever chunks its bytes come in, so two streams with the
same bytes and the same ending cannot be told apart, and packets that are written
one after the other are read back.
-/

namespace MonitorAgent
namespace Nrpe
namespace Packet

/-- A read of the first bytes yields the result and leaves the second. -/
inductive Reads (limit : Duration) (ending : Ending) :
    List UInt8 → Except Error Packet → List UInt8 → Prop where
  | foreign (rest : List UInt8) :
      Reads limit ending (0 :: 3 :: rest) (.error (.unsupportedVersion 3)) rest
  | whole {frame rest : List UInt8} {p : Packet} (hlen : frame.length = 1036)
      (hversion : frame.take 2 ≠ [0, 3]) (hp : p.toBytes = frame) :
      Reads limit ending (frame ++ rest) (.ok p) rest
  | short {bytes : List UInt8} (hversion : bytes.take 2 ≠ [0, 3]) (hlen : bytes.length < 1036)
      (hending : ending = .closed ∨ ending = .failed .endOfFile) :
      Reads limit ending bytes (.error .shortRead) []
  | broken {bytes : List UInt8} {fault : Fault} (hversion : bytes.take 2 ≠ [0, 3])
      (hlen : bytes.length < 1036) (hending : ending = .failed fault)
      (hfault : fault ≠ .endOfFile) :
      Reads limit ending bytes (.error (.connection fault)) []
  | stalled {bytes : List UInt8} (hversion : bytes.take 2 ≠ [0, 3]) (hlen : bytes.length < 1036)
      (hending : ending = .silent) :
      Reads limit ending bytes (.error (.timeout limit)) []

/-- Reads in a row, from the bytes there are at first to those left at the end. -/
inductive Run (limit : Duration) (ending : Ending) :
    List UInt8 → List (Except Error Packet) → List UInt8 → Prop where
  | nil (bytes : List UInt8) : Run limit ending bytes [] bytes
  | cons {bytes mid rest : List UInt8} {result : Except Error Packet}
      {results : List (Except Error Packet)} (hread : Reads limit ending bytes result mid)
      (hrun : Run limit ending mid results rest) :
      Run limit ending bytes (result :: results) rest

/-- The results of so many reads in a row, and the stream behind them. -/
def readMany (limit : Duration) : Nat → Stream → List (Except Error Packet) × Stream
  | 0, s => ([], s)
  | n + 1, s =>
    let (result, s) := Packet.read limit s
    let (results, s) := readMany limit n s
    (result :: results, s)

variable {limit : Duration} {ending : Ending}

theorem reads_error_of_short {bytes : List UInt8} (hversion : bytes.take 2 ≠ [0, 3])
    (hlen : bytes.length < 1036) :
    Reads limit ending bytes (.error (Stream.Ending.error limit ending)) [] := by
  cases ending with
  | closed => exact Reads.short hversion hlen (Or.inl rfl)
  | silent => exact Reads.stalled hversion hlen rfl
  | failed fault =>
      cases fault with
      | endOfFile => exact Reads.short hversion hlen (Or.inr rfl)
      | reset => exact Reads.broken hversion hlen rfl (by decide)
      | aborted => exact Reads.broken hversion hlen rfl (by decide)
      | unreachable => exact Reads.broken hversion hlen rfl (by decide)
      | other message => exact Reads.broken hversion hlen rfl nofun

/-- A read of a stream is one of its remaining bytes. -/
theorem read_reads (limit : Duration) (s : Stream) :
    Reads limit s.ending s.remaining (Packet.read limit s).1 (Packet.read limit s).2.remaining ∧
      (Packet.read limit s).2.ending = s.ending := by
  by_cases hversion : s.remaining.take 2 = [0, 3]
  · obtain ⟨t, hread, hrest, hending⟩ := read_foreign limit hversion
    have hbytes : s.remaining = 0 :: 3 :: s.remaining.drop 2 := by
      rw [← List.take_append_drop 2 s.remaining, hversion]
      rfl
    rw [hread]
    refine ⟨?_, hending⟩
    rw [hrest]
    generalize s.remaining.drop 2 = rest at hbytes
    rw [hbytes]
    exact Reads.foreign rest
  · by_cases hlen : s.remaining.length < 1036
    · obtain ⟨t, hread, hrest, hending⟩ := read_short limit hversion hlen
      rw [hread]
      refine ⟨?_, hending⟩
      rw [hrest]
      exact reads_error_of_short hversion hlen
    · obtain ⟨p, hp⟩ := exists_ofBytes? (List.length_take_of_le (Nat.le_of_not_lt hlen))
      obtain ⟨t, hread, hrest, hending⟩ := read_whole limit hversion hp
      have hbytes : s.remaining = s.remaining.take packetSize ++ t.remaining := by
        rw [hrest, List.take_append_drop]
      have hstart : (s.remaining.take packetSize).take 2 ≠ [0, 3] := by
        rw [List.take_take]
        exact hversion
      have hframe : (s.remaining.take packetSize).length = 1036 :=
        List.length_take_of_le (Nat.le_of_not_lt hlen)
      have hwhole : Reads limit s.ending (s.remaining.take packetSize ++ t.remaining) (.ok p)
          t.remaining := Reads.whole hframe hstart (toBytes_of_ofBytes? hp)
      rw [← hbytes] at hwhole
      rw [hread]
      exact ⟨hwhole, hending⟩

theorem take_append_toBytes (p : Packet) (rest : List UInt8) :
    (p.toBytes ++ rest).take packetSize = p.toBytes :=
  List.take_left' (length_toBytes p)

theorem take_two_append (p : Packet) (rest : List UInt8) :
    (p.toBytes ++ rest).take 2 = p.toBytes.take 2 := by
  rw [← take_append_toBytes p rest, List.take_take]
  rfl

/-- What the bytes and the ending allow is what a read does. -/
theorem Reads.read_eq {bytes rest : List UInt8} {result : Except Error Packet}
    (h : Reads limit ending bytes result rest) {s : Stream} (hbytes : s.remaining = bytes)
    (hending : s.ending = ending) :
    ∃ t, Packet.read limit s = (result, t) ∧ t.remaining = rest ∧ t.ending = ending := by
  subst hending
  cases h with
  | foreign rest =>
      obtain ⟨t, hread, hrest, hend⟩ := read_foreign limit (s := s) (by rw [hbytes]; rfl)
      exact ⟨t, hread, by rw [hrest, hbytes]; rfl, hend⟩
  | @whole frame rest p hlen hversion hp =>
      subst hp
      have hstart : s.remaining.take 2 ≠ bytes16 foreignVersion := by
        rw [hbytes, take_two_append]
        exact hversion
      have hp : ofBytes? (s.remaining.take packetSize) = some p := by
        rw [hbytes, take_append_toBytes, ofBytes?_toBytes]
      obtain ⟨t, hread, hrest, hend⟩ := read_whole limit hstart hp
      exact ⟨t, hread, by rw [hrest, hbytes, List.drop_left' (length_toBytes p)], hend⟩
  | short hversion hlen hshort =>
      obtain ⟨t, hread, hrest, hend⟩ :=
        read_short limit (s := s) (by rwa [hbytes]) (by rwa [hbytes])
      refine ⟨t, ?_, hrest, hend⟩
      rcases hshort with hshort | hshort
      · rw [hread, hshort]
        rfl
      · rw [hread, hshort]
        rfl
  | broken hversion hlen hbroken hfault =>
      obtain ⟨t, hread, hrest, hend⟩ :=
        read_short limit (s := s) (by rwa [hbytes]) (by rwa [hbytes])
      refine ⟨t, ?_, hrest, hend⟩
      rw [hread, hbroken]
      simp only [Stream.Ending.error]
  | stalled hversion hlen hsilent =>
      obtain ⟨t, hread, hrest, hend⟩ :=
        read_short limit (s := s) (by rwa [hbytes]) (by rwa [hbytes])
      refine ⟨t, ?_, hrest, hend⟩
      rw [hread, hsilent]
      rfl

theorem readMany_run (limit : Duration) (n : Nat) (s : Stream) :
    Run limit s.ending s.remaining (readMany limit n s).1 (readMany limit n s).2.remaining := by
  induction n generalizing s with
  | zero => exact Run.nil s.remaining
  | succ n ih =>
      obtain ⟨hread, hending⟩ := read_reads limit s
      have hrun := ih (Packet.read limit s).2
      rw [hending] at hrun
      exact Run.cons hread hrun

theorem length_readMany (limit : Duration) (n : Nat) (s : Stream) :
    (readMany limit n s).1.length = n := by
  induction n generalizing s with
  | zero => rfl
  | succ n ih => exact congrArg (· + 1) (ih (Packet.read limit s).2)

theorem Run.readMany_eq {bytes rest : List UInt8} {results : List (Except Error Packet)}
    (h : Run limit ending bytes results rest) {s : Stream} (hbytes : s.remaining = bytes)
    (hending : s.ending = ending) :
    (readMany limit results.length s).1 = results ∧
      (readMany limit results.length s).2.remaining = rest := by
  induction h generalizing s with
  | nil bytes => exact ⟨rfl, hbytes⟩
  | cons hread hrun ih =>
      obtain ⟨t, hread', hrest, hend⟩ := hread.read_eq hbytes hending
      obtain ⟨hresults, hleft⟩ := ih hrest hend
      rw [List.length_cons, readMany, hread']
      exact ⟨congrArg (_ :: ·) hresults, hleft⟩

theorem take_toBytes_ne_of_version {p : Packet} (h : p.version ≠ 3) :
    p.toBytes.take 2 ≠ [0, 3] := by
  intro hstart
  apply h
  have hbytes : bytes16 p.version = [0, 3] := hstart
  simp only [bytes16, List.cons.injEq, and_true] at hbytes
  rw [← word16_bytes p.version, hbytes.1, hbytes.2]
  rfl

theorem run_written (limit : Duration) (ending : Ending) {ps : List Packet}
    (h : ∀ p ∈ ps, p.version ≠ 3) : Run limit ending (ps.flatMap toBytes) (ps.map .ok) [] := by
  induction ps with
  | nil => exact Run.nil []
  | cons p ps ih =>
      have hversion := take_toBytes_ne_of_version (h p List.mem_cons_self)
      have hrun := ih fun q hq => h q (List.mem_cons_of_mem p hq)
      exact Run.cons (Reads.whole (length_toBytes p) hversion rfl) hrun

/-- However often a stream is read, every read goes by the bytes that remain and by the ending.
Chunks make no difference, and what was written packet by packet comes back so. -/
theorem readMany_outcomes (limit : Duration) (n : Nat) (s : Stream) :
    (readMany limit n s).1.length = n ∧
    Run limit s.ending s.remaining (readMany limit n s).1 (readMany limit n s).2.remaining ∧
    (∀ s' : Stream, s'.remaining = s.remaining → s'.ending = s.ending →
      (readMany limit n s').1 = (readMany limit n s).1 ∧
      (readMany limit n s').2.remaining = (readMany limit n s).2.remaining) ∧
    ∀ ps : List Packet, (∀ p ∈ ps, p.version ≠ 3) → ps.length = n →
      s.remaining = ps.flatMap toBytes →
      (readMany limit n s).1 = ps.map .ok ∧ (readMany limit n s).2.remaining = [] := by
  have hlength := length_readMany limit n s
  have hrun := readMany_run limit n s
  refine ⟨hlength, hrun, fun s' hbytes hending => ?_, fun ps hversion hcount hbytes => ?_⟩
  · have hread := hrun.readMany_eq hbytes hending
    rwa [hlength] at hread
  · have hread := (run_written limit s.ending hversion).readMany_eq hbytes rfl
    rwa [List.length_map, hcount] at hread

/-- Two packets in chunks that part neither of them at its end. -/
theorem readMany_outcomes_two :
    let p := Packet.query "check_cpu" 7
    let q := Packet.response 2 "CRITICAL" 9
    let bytes := p.toBytes ++ q.toBytes
    let s : Stream := ⟨[bytes.take 1, (bytes.drop 1).take 1500, bytes.drop 1501], .closed⟩
    (readMany .zero 2 s).1 = [.ok p, .ok q] ∧ (readMany .zero 2 s).2.remaining = [] := by
  intro p q bytes s
  have hversion : ∀ x ∈ [p, q], x.version ≠ 3 := by
    intro x hx
    simp only [List.mem_cons, List.not_mem_nil, or_false] at hx
    rcases hx with rfl | rfl
    · decide
    · decide
  have hbytes : s.remaining = [p, q].flatMap toBytes := by
    simp only [s, Stream.remaining, List.flatten_cons, List.flatten_nil, List.append_nil,
      List.flatMap_cons, List.flatMap_nil]
    rw [← List.drop_drop (i := 1500) (j := 1), List.take_append_drop, List.take_append_drop]
  exact (readMany_outcomes .zero 2 s).2.2.2 [p, q] hversion rfl hbytes

end Packet
end Nrpe
end MonitorAgent
