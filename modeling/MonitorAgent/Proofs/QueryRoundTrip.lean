import MonitorAgent.Agent
import MonitorAgent.Proofs.CommandRoundTrip
import MonitorAgent.Proofs.ResponseReport
import MonitorAgent.Proofs.Utf8RoundTrip

/-!
# Queries from client to server and back

A command that fits into a query arrives as it was sent, and what comes back is one
response with the state and the text of its result.  The network may cut what is
written to it into chunks in any way, in both directions.
-/

namespace MonitorAgent
namespace Nrpe

/-- How a network hands on the bytes that are written to it. -/
structure Carrier where
  chunks : List UInt8 → List (List UInt8)
  flatten_chunks : ∀ bytes, (chunks bytes).flatten = bytes

/-- All in one chunk. -/
def Carrier.whole : Carrier where
  chunks bytes := [bytes]
  flatten_chunks _ := List.append_nil _

theorem Carrier.remaining_chunks (k : Carrier) (bytes : List UInt8) (ending : Ending) :
    Stream.remaining ⟨k.chunks bytes, ending⟩ = bytes :=
  k.flatten_chunks bytes

namespace Packet

theorem text_query {s : String} (padding : UInt16)
    (hfits : (Text.Utf8.encode s.toList).length < regionSize) (hzero : '\x00' ∉ s.toList) :
    (query s padding).text = s := by
  rw [text, query, payload_build_of_notMem _ _ _ (Text.Utf8.zero_notMem_encode hzero),
    List.take_of_length_le (Nat.le_sub_one_of_lt hfits), Text.Utf8.decodeLossy_encode,
    String.ofList_toList]

end Packet

variable {m : Type → Type} [Monad m]

/-- The stream that a server answers some bytes with, over a network. -/
def respondOver (there back : Carrier) (registry : Check.Registry m) (policy : Policy)
    (peer : Net.Address) (padding : UInt16) (bytes : List UInt8) : m Stream := do
  let exchange ← connect registry policy peer ⟨there.chunks bytes, .silent⟩ padding
  pure ⟨(exchange.reply.map fun p => back.chunks p.toBytes).getD [], .closed⟩

theorem respondOver_whole (registry : Check.Registry m) (policy : Policy) (peer : Net.Address)
    (padding : UInt16) :
    respondOver .whole .whole registry policy peer padding =
      respond registry policy peer padding := by
  funext bytes
  have hstream (exchange : Exchange) :
      (exchange.reply.map fun p => Carrier.whole.chunks p.toBytes).getD [] =
        (exchange.reply.map Packet.toBytes).toList := by
    cases exchange.reply <;> rfl
  simp only [respondOver, respond, hstream]
  rfl

/-- Any stream with the bytes of a packet in front is read as that packet. -/
theorem take_frame {stream : Stream} {p : Packet} (h : stream.remaining = p.toBytes) :
    Packet.ofBytes? (stream.remaining.take packetSize) = some p := by
  rw [h, ← Packet.length_toBytes p, List.take_length]
  exact Packet.ofBytes?_toBytes p

theorem receiveQuery_query (limit : Duration) {c : Command} {padding : UInt16}
    (hplain : ∀ field ∈ c.name :: c.args, '!' ∉ field.toList ∧ '\x00' ∉ field.toList)
    (hfits : (Text.Utf8.encode c.encode.toList).length < regionSize) {stream : Stream}
    (hsent : stream.remaining = (Packet.query c.encode padding).toBytes) :
    receiveQuery limit stream = .ok c := by
  have hzero : '\x00' ∉ c.encode.toList := by
    intro hmem
    obtain ⟨field, hfield, hmem'⟩ := Command.mem_encode hmem (by decide)
    exact (hplain field hfield).2 hmem'
  have hdecode : Command.decode c.encode = c :=
    Command.decode_encode (hplain c.name List.mem_cons_self).1
      fun arg harg => (hplain arg (List.mem_cons_of_mem _ harg)).1
  have hverify : (Packet.query c.encode padding).verify .query = .ok () :=
    Packet.verify_build _ _ _ _
  rw [receiveQuery_verified limit (take_frame hsent) hverify,
    Packet.text_query padding hfits hzero, hdecode]

theorem receiveResponse_response (limit : Duration) {status : UInt16} {s : String}
    {padding : UInt16} {stream : Stream}
    (hsent : stream.remaining = (Packet.response status s padding).toBytes) :
    receiveResponse limit stream = .ok (Packet.response status s padding) := by
  have hbytes := Packet.toBytes_of_ofBytes? (take_frame hsent)
  exact (receiveResponse_eq_ok_iff limit).mpr ⟨hbytes, Packet.verify_build _ _ _ _⟩

section

variable [LawfulMonad m] (there back : Carrier) (registry : Check.Registry m) {policy : Policy}
  {peer : Net.Address} (padding padding' : UInt16) {c : Command}

theorem respondOver_query (hpeer : policy.allows peer = true)
    (hplain : ∀ field ∈ c.name :: c.args, '!' ∉ field.toList ∧ '\x00' ∉ field.toList)
    (hfits : (Text.Utf8.encode c.encode.toList).length < regionSize) :
    respondOver there back registry policy peer padding' (Packet.query c.encode padding).toBytes =
      (fun done => ⟨back.chunks (Packet.response done.1.state.code done.1.text padding').toBytes,
        .closed⟩) <$> execute registry policy c := by
  have hquery := receiveQuery_query policy.timeout hplain hfits
    (there.remaining_chunks (Packet.query c.encode padding).toBytes .silent)
  rw [respondOver, connect_answered registry padding' hpeer hquery, bind_map_left]
  exact bind_pure_comp _ _

/-- The whole way of a command: the server runs it once, and the client gets its result. -/
theorem ask_respondOver (limit : Duration) (hpeer : policy.allows peer = true)
    (hplain : ∀ field ∈ c.name :: c.args, '!' ∉ field.toList ∧ '\x00' ∉ field.toList)
    (hfits : (Text.Utf8.encode c.encode.toList).length < regionSize) :
    ask (.peer (respondOver there back registry policy peer padding')) c limit padding =
      (fun done => .ok (Packet.response done.1.state.code done.1.text padding')) <$>
        execute registry policy c := by
  have hresponse (done : Check.Result × List Telemetry.Event) :=
    receiveResponse_response limit (back.remaining_chunks
      (Packet.response done.1.state.code done.1.text padding').toBytes .closed)
  simp only [ask, respondOver_query there back registry padding padding' hpeer hplain hfits,
    bind_map_left, hresponse]
  exact bind_pure_comp _ _

end

/-- An agent that is asked for a command answers with what it gets when it runs that very command
by itself, cut at the first zero and at the size of the region. -/
theorem ask_agent_answers_executed (a : Agent) (now : Int) (there back : Carrier)
    (peer : Net.Address) (limit : Duration) (padding padding' : UInt16) (c : Command)
    (hpeer : a.policy.allows peer = true)
    (hplain : ∀ field ∈ c.name :: c.args, '!' ∉ field.toList ∧ '\x00' ∉ field.toList)
    (hfits : (Text.Utf8.encode c.encode.toList).length ≤ 1023) :
    let server := respondOver there back a.registry a.policy peer padding'
    ∃ r packet, (a.step now (.execute c)).2 = .executed r ∧
      (ask (.peer server) c limit padding).run (a.view now) = .ok packet ∧
      packet.verify .response = .ok () ∧ packet.status = r.state.code ∧
      packet.payload = ((Text.Utf8.encode r.text.toList).take 1023).takeWhile (· != 0) := by
  intro server
  let r := ((execute a.registry a.policy c).run (a.view now)).1
  have hask := ask_respondOver there back a.registry padding padding' limit hpeer hplain
    (Nat.lt_succ_of_le hfits)
  refine ⟨r, Packet.response r.state.code r.text padding', rfl, ?_, ?_, ?_, ?_⟩
  · exact congrFun hask (a.view now)
  · exact Packet.verify_build _ _ _ _
  · exact Packet.status_build _ _ _ _
  · exact Packet.payload_build _ _ _ _

theorem execute_dummy {policy : Policy} {args : List String} {r : Check.Result}
    (hallowed : policy.refusal? args = none) (hcheck : Probe.Dummy.check args = .ok r) :
    execute Probe.standard policy ⟨"check_dummy", args⟩ =
      pure (r, [.execution "check_dummy" r.state]) := by
  have hname : "check_dummy" ≠ versionCommand := by decide
  have hfind : Probe.standard.find? "check_dummy" = some Probe.dummy := rfl
  have hprobe : Probe.dummy args = pure (.done r) := by
    funext view
    rw [Probe.dummy, hcheck]
    rfl
  simp only [execute, if_neg hname, hallowed, Check.Registry.runGuarded, Check.Registry.run,
    hfind, hprobe, pure_bind, Check.Outcome.settle]

/-- The dummy check is run with all three of its words, one of them empty. -/
theorem ask_agent_answers_executed_dummy :
    let a : Agent := { host := .new 0, policy := ⟨[], true, false, .ofSeconds 30⟩ }
    let c : Command := ⟨"check_dummy", ["1", "disk", "", "größer"]⟩
    let server := respondOver .whole .whole a.registry a.policy (.v4 #v[127, 0, 0, 1]) 0
    ∃ packet, (ask (.peer server) c (.ofSeconds 5) 0).run (a.view 0) = .ok packet ∧
      packet.status = 1 ∧ packet.payload = Text.Utf8.encode "disk  größer".toList := by
  intro a c server
  have hplain : ∀ field ∈ c.name :: c.args, '!' ∉ field.toList ∧ '\x00' ∉ field.toList := by
    decide
  have hfits : (Text.Utf8.encode c.encode.toList).length ≤ 1023 := by decide +kernel
  have hallowed : a.policy.refusal? c.args = none := by decide
  have hcheck : Probe.Dummy.check c.args = .ok { state := .warning, output := "disk  größer" } :=
    rfl
  have hexecute := congrFun (execute_dummy hallowed hcheck) (a.view 0)
  obtain ⟨r, packet, hr, hask, -, hstatus, hpayload⟩ := ask_agent_answers_executed a 0 .whole .whole
    (.v4 #v[127, 0, 0, 1]) (.ofSeconds 5) 0 0 c rfl hplain hfits
  obtain rfl : _ = r := (congrArg Prod.fst hexecute).symm.trans (Agent.Answer.executed.inj hr)
  refine ⟨packet, hask, hstatus, hpayload.trans ?_⟩
  decide +kernel

end Nrpe
end MonitorAgent
