import MonitorAgent.Nrpe.Server
import MonitorAgent.Probe.Standard
import MonitorAgent.Proofs.FrameReading

/-!
# Connections

A peer that is not allowed, or that does not send one packet which verifies as a
query, gets no reply, and no handler runs for it.  Any other peer gets one packet
that verifies as a response, and all that is seen of it comes from the payload of
the query.  The handlers run in any lawful monad, so that `pure` stands for an
exchange in which nothing runs at all.
-/

namespace MonitorAgent

/-- Whatever a computation yields has the property. -/
def Always {m : Type → Type} [Functor m] {α : Type} (P : α → Prop) (run : m α) : Prop :=
  ∃ checked : m {a // P a}, Subtype.val <$> checked = run

section Always

variable {m : Type → Type} [Monad m] [LawfulMonad m] {α β : Type} {P : β → Prop}

theorem Always.pure {b : β} (h : P b) : Always P (Pure.pure b : m β) :=
  ⟨Pure.pure ⟨b, h⟩, map_pure _ _⟩

theorem Always.map {f : α → β} (h : ∀ a, P (f a)) (run : m α) : Always P (f <$> run) := by
  refine ⟨(fun a => ⟨f a, h a⟩) <$> run, ?_⟩
  rw [← comp_map]
  rfl

end Always

namespace Nrpe

variable {stream : Stream}

namespace Packet

theorem take_toBytes (p : Packet) : p.toBytes.take 2 = bytes16 p.version := rfl

theorem take_ne_foreign {bytes : List UInt8} {p : Packet} {kind : Kind}
    (hp : ofBytes? (bytes.take packetSize) = some p) (hverify : p.verify kind = .ok ()) :
    bytes.take 2 ≠ bytes16 foreignVersion := by
  have hversion : p.version = protocolVersion := (verify_eq_ok_iff.1 hverify).1
  have htake : bytes.take 2 = (bytes.take packetSize).take 2 := by
    rw [List.take_take]
    rfl
  rw [htake, ← toBytes_of_ofBytes? hp, take_toBytes, hversion]
  decide

end Packet

theorem receiveQuery_foreign (limit : Duration)
    (h : stream.remaining.take 2 = bytes16 foreignVersion) :
    receiveQuery limit stream = .error (.unsupportedVersion foreignVersion) := by
  obtain ⟨rest, hread, -⟩ := Packet.read_foreign limit h
  rw [receiveQuery, hread]

theorem receiveQuery_short (limit : Duration)
    (h : stream.remaining.take 2 ≠ bytes16 foreignVersion)
    (hlen : stream.remaining.length < packetSize) :
    receiveQuery limit stream = .error (Stream.Ending.error limit stream.ending) := by
  obtain ⟨rest, hread, -⟩ := Packet.read_short limit h hlen
  rw [receiveQuery, hread]

theorem receiveQuery_unverified (limit : Duration) {p : Packet} {error : Error}
    (h : stream.remaining.take 2 ≠ bytes16 foreignVersion)
    (hp : Packet.ofBytes? (stream.remaining.take packetSize) = some p)
    (hverify : p.verify .query = .error error) : receiveQuery limit stream = .error error := by
  obtain ⟨rest, hread, -⟩ := Packet.read_whole limit h hp
  simp only [receiveQuery, hread, hverify]

theorem receiveQuery_verified (limit : Duration) {p : Packet}
    (hp : Packet.ofBytes? (stream.remaining.take packetSize) = some p)
    (hverify : p.verify .query = .ok ()) :
    receiveQuery limit stream = .ok (Command.decode p.text) := by
  obtain ⟨rest, hread, -⟩ := Packet.read_whole limit (Packet.take_ne_foreign hp hverify) hp
  simp only [receiveQuery, hread, hverify]

namespace Exchange

/-- The exchange in which a result is told. -/
def answered (padding : UInt16) (done : Check.Result × List Telemetry.Event) : Exchange :=
  ⟨.ok (), some (Packet.response done.1.state.code done.1.text padding),
    done.2 ++ [.connection .answered]⟩

/-- The reply, if there is one, is a frame that verifies as a response. -/
def Sound (e : Exchange) : Prop :=
  ∀ p, e.reply = some p → p.toBytes.length = packetSize ∧ p.verify .response = .ok ()

/-- How an exchange ended, and the kind, the status and the payload of its reply. -/
def visible (e : Exchange) : Except Error Unit × Option (UInt16 × UInt16 × List UInt8) :=
  (e.outcome, e.reply.map fun p => (p.kind, p.status, p.payload))

theorem sound_of_no_reply {e : Exchange} (h : e.reply = none) : e.Sound := by
  intro p hp
  rw [h] at hp
  cases hp

theorem sound_answered (padding : UInt16) (done : Check.Result × List Telemetry.Event) :
    (answered padding done).Sound := by
  intro p hp
  obtain rfl := Option.some.inj hp
  exact ⟨Packet.length_toBytes _, Packet.verify_build _ _ _ _⟩

/-- The padding of a reply does not show. -/
theorem visible_answered (padding padding' : UInt16)
    (done : Check.Result × List Telemetry.Event) :
    (answered padding done).visible = (answered padding' done).visible := by
  simp only [visible, answered, Packet.response, Option.map_some, Packet.kind_build,
    Packet.status_build, Packet.payload_build]

end Exchange

variable {m : Type → Type} [Monad m] (registry : Check.Registry m) {policy : Policy}
  {peer : Net.Address} (padding : UInt16)

theorem connect_denied (stream : Stream) (h : policy.allows peer = false) :
    connect registry policy peer stream padding = pure ⟨.ok (), none, [.connection .denied]⟩ := by
  simp only [connect, h, Bool.not_false, if_true]

theorem connect_refused {error : Error} (h : policy.allows peer = true)
    (hquery : receiveQuery policy.timeout stream = .error error) :
    connect registry policy peer stream padding = pure ⟨.error error, none, []⟩ := by
  simp only [connect, h, Bool.not_true, Bool.false_eq_true, if_false, hquery]

theorem connect_answered [LawfulMonad m] {command : Command} (h : policy.allows peer = true)
    (hquery : receiveQuery policy.timeout stream = .ok command) :
    connect registry policy peer stream padding =
      Exchange.answered padding <$> execute registry policy command := by
  simp only [connect, h, Bool.not_true, Bool.false_eq_true, if_false, hquery]
  exact bind_pure_comp (Exchange.answered padding) (execute registry policy command)

theorem connect_sound [LawfulMonad m] (policy : Policy) (peer : Net.Address) (stream : Stream) :
    Always Exchange.Sound (connect registry policy peer stream padding) := by
  cases h : policy.allows peer with
  | false =>
      rw [connect_denied registry padding stream h]
      exact Always.pure (Exchange.sound_of_no_reply rfl)
  | true =>
      cases hquery : receiveQuery policy.timeout stream with
      | error error =>
          rw [connect_refused registry padding h hquery]
          exact Always.pure (Exchange.sound_of_no_reply rfl)
      | ok command =>
          rw [connect_answered registry padding h hquery]
          exact Always.map (Exchange.sound_answered padding) _

/-- What comes of a connection, whoever the peer is and whatever it sends.  Apart from the frames
that verify as queries nothing is answered and nothing runs; of those only the payload counts. -/
theorem connect_outcomes [LawfulMonad m] (policy : Policy) (peer : Net.Address)
    (stream : Stream) :
    let run := connect registry policy peer stream padding
    let sent := stream.remaining
    Always Exchange.Sound run ∧
    (policy.allows peer = false → run = pure ⟨.ok (), none, [.connection .denied]⟩) ∧
    (policy.allows peer = true →
      (sent.take 2 = [0, 3] → run = pure ⟨.error (.unsupportedVersion 3), none, []⟩) ∧
      (sent.take 2 ≠ [0, 3] → sent.length < packetSize →
        (stream.ending = .closed → run = pure ⟨.error .shortRead, none, []⟩) ∧
        (stream.ending = .silent → run = pure ⟨.error (.timeout policy.timeout), none, []⟩)) ∧
      (sent.take 2 ≠ [0, 3] → packetSize ≤ sent.length →
        ∃ p, Packet.ofBytes? (sent.take packetSize) = some p ∧
          (∀ error, p.verify .query = .error error → run = pure ⟨.error error, none, []⟩) ∧
          (p.verify .query = .ok () →
            Always (fun e => e.outcome = .ok () ∧ e.reply.isSome) run ∧
            ∀ (peer' : Net.Address) (stream' : Stream) (padding' : UInt16) (p' : Packet),
              policy.allows peer' = true →
              Packet.ofBytes? (stream'.remaining.take packetSize) = some p' →
              p'.verify .query = .ok () → p'.payload = p.payload →
              Exchange.visible <$> connect registry policy peer' stream' padding' =
                Exchange.visible <$> run))) := by
  intro run sent
  refine ⟨connect_sound registry padding policy peer stream, connect_denied registry padding stream,
    fun hpeer => ⟨fun hforeign => ?_, fun hversion hlen => ?_, fun hversion hlen => ?_⟩⟩
  · exact connect_refused registry padding hpeer (receiveQuery_foreign policy.timeout hforeign)
  · have hrefused := connect_refused registry padding hpeer
      (receiveQuery_short policy.timeout hversion hlen)
    refine ⟨fun hclosed => ?_, fun hsilent => ?_⟩
    · rwa [hclosed] at hrefused
    · rwa [hsilent] at hrefused
  · obtain ⟨p, hp⟩ := Packet.exists_ofBytes? (List.length_take_of_le hlen)
    refine ⟨p, hp, fun error herror => ?_, fun hverify => ?_⟩
    · exact connect_refused registry padding hpeer
        (receiveQuery_unverified policy.timeout hversion hp herror)
    have hrun : run = Exchange.answered padding <$> execute registry policy (.decode p.text) :=
      connect_answered registry padding hpeer (receiveQuery_verified policy.timeout hp hverify)
    refine ⟨?_, ?_⟩
    · rw [hrun]
      exact Always.map (fun done => ⟨rfl, rfl⟩) _
    · intro peer' stream' padding' p' hpeer' hp' hverify' hpayload
      have htext : p'.text = p.text := by rw [Packet.text, hpayload, Packet.text]
      have hrun' := connect_answered registry padding' hpeer'
        (receiveQuery_verified policy.timeout hp' hverify')
      calc
        Exchange.visible <$> connect registry policy peer' stream' padding' =
            Exchange.visible <$> Exchange.answered padding' <$>
              execute registry policy (.decode p.text) := by rw [hrun', htext]
        _ = Exchange.visible <$> Exchange.answered padding <$>
              execute registry policy (.decode p.text) := by
          rw [← comp_map, ← comp_map]
          exact congrArg (· <$> _) (funext (Exchange.visible_answered padding' padding))
        _ = Exchange.visible <$> run := by rw [← hrun]

/-- Half a frame of zeros, and then nothing any more. -/
theorem connect_outcomes_silent :
    let stream : Stream := ⟨[List.replicate 500 0, List.replicate 18 0], .silent⟩
    let policy : Policy := ⟨[], true, false, .ofSeconds 30⟩
    connect Probe.standard policy (.v4 #v[127, 0, 0, 1]) stream 0 =
      pure ⟨.error (.timeout (.ofSeconds 30)), none, []⟩ := by
  intro stream policy
  have hpeer : policy.allows (.v4 #v[127, 0, 0, 1]) = true := rfl
  have hversion : stream.remaining.take 2 ≠ [0, 3] := by decide
  have hlen : stream.remaining.length < packetSize := by decide +kernel
  have houtcomes := connect_outcomes Probe.standard 0 policy (.v4 #v[127, 0, 0, 1]) stream
  exact ((houtcomes.2.2 hpeer).2.1 hversion hlen).2 rfl

end Nrpe
end MonitorAgent
