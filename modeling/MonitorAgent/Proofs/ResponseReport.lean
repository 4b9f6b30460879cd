import MonitorAgent.Nrpe.Client
import MonitorAgent.Proofs.Connections

/-!
# Reports of responses

Who asks another agent is told a state only if the first bytes that come back are a packet which
verifies as a response, and then it is that of the packet.  A peer that sends less, or something
else, or nothing at all, is reported as unknown.  The line alone does not tell the two apart,
since the text of a response may be any; the response does.
-/

namespace MonitorAgent
namespace Nrpe

/-- The stream begins with the bytes of the packet, which verifies as a response. -/
def Stream.Carries (s : Stream) (p : Packet) : Prop :=
  p.toBytes = s.remaining.take 1036 ∧ p.verify .response = .ok ()

variable {stream : Stream} {p : Packet}

theorem receiveResponse_eq_ok_iff (limit : Duration) :
    receiveResponse limit stream = .ok p ↔ stream.Carries p := by
  rw [receiveResponse]
  constructor
  · intro h
    cases hread : (Packet.read limit stream).1 with
    | error error =>
        rw [hread] at h
        cases h
    | ok q =>
        have hbytes := ((Packet.read_eq_ok_iff limit).mp hread).2
        simp only [hread] at h
        cases hverify : q.verify .response with
        | error error =>
            rw [hverify] at h
            cases h
        | ok =>
            rw [hverify] at h
            cases h
            exact ⟨hbytes, hverify⟩
  · rintro ⟨hbytes, hverify⟩
    have hversion := Packet.take_ne_foreign (Packet.ofBytes?_eq_some_iff.mpr hbytes) hverify
    rw [(Packet.read_eq_ok_iff limit).mpr ⟨hversion, hbytes⟩]
    simp only [hverify]

namespace Exit

theorem code_ofResponse_le (response : Except Error Packet) :
    (Exit.ofResponse response).code ≤ 3 := by
  cases response with
  | ok p => exact Nat.min_le_right _ _
  | error error => exact Nat.le_refl 3

/-- A code below that of an unknown state is the status of a response. -/
theorem exists_of_code_lt {response : Except Error Packet}
    (h : (Exit.ofResponse response).code < 3) :
    ∃ p, response = .ok p ∧ (Exit.ofResponse response).code = p.status.toNat := by
  cases response with
  | ok p =>
      have hstatus : min p.status.toNat 3 < 3 := h
      have hcode : min p.status.toNat 3 = p.status.toNat := by omega
      exact ⟨p, rfl, hcode⟩
  | error error => exact absurd h (Nat.lt_irrefl 3)

end Exit

section

variable {m : Type → Type} [Monad m] [LawfulMonad m] {respond : List UInt8 → m Stream}
  {c : Command} {padding : UInt16}

theorem ask_peer (limit : Duration)
    (hsent : respond (Packet.query c.encode padding).toBytes = pure stream) :
    ask (.peer respond) c limit padding = pure (receiveResponse limit stream) := by
  rw [ask, hsent, pure_bind]

theorem report_peer {limit : String} {d : Duration} (hlimit : Duration.read limit = .ok d)
    (hsent : respond (Packet.query c.encode padding).toBytes = pure stream) :
    report (.peer respond) c limit padding =
      pure (Exit.ofResponse (receiveResponse d stream)) := by
  simp only [report, hlimit, ask_peer d hsent, pure_bind]

/-- What a program that asks another agent ends with, whatever the other one sends back. -/
theorem report_outcomes {limit : String} {d : Duration} (c : Command) (padding : UInt16)
    (hlimit : Duration.read limit = .ok d)
    (hsent : respond (Packet.query c.encode padding).toBytes = pure stream) :
    ∃ response exit, ask (.peer respond) c d padding = pure response ∧
      report (.peer respond) c limit padding = pure exit ∧ exit.code ≤ 3 ∧
      (∀ p, response = .ok p ↔ stream.Carries p) ∧
      (∀ p, response = .ok p → exit = ⟨min p.status.toNat 3, p.text ++ "\n"⟩) ∧
      (∀ error, response = .error error →
        exit = ⟨3, "UNKNOWN - " ++ error.message ++ "\n"⟩) ∧
      (exit.code < 3 → ∃ p, stream.Carries p ∧ exit.code = p.status.toNat) := by
  refine ⟨receiveResponse d stream, _, ask_peer d hsent, report_peer hlimit hsent,
    Exit.code_ofResponse_le _, fun p => receiveResponse_eq_ok_iff d, ?_, ?_, ?_⟩
  · intro p hp
    rw [hp]
    rfl
  · intro error herror
    rw [herror]
    rfl
  · intro hcode
    obtain ⟨p, hp, hstatus⟩ := Exit.exists_of_code_lt hcode
    exact ⟨p, (receiveResponse_eq_ok_iff d).mp hp, hstatus⟩

end

/-- A warning in two parts, with more bytes behind it and a peer that stays. -/
theorem report_outcomes_warning :
    let p := Packet.response 1 "WARNING: disk" 7
    let stream : Stream := ⟨[p.toBytes.take 700, p.toBytes.drop 700 ++ [0, 1, 2]], .silent⟩
    let c : Command := ⟨"check_drivesize", []⟩
    let respond (_ : List UInt8) : Id Stream := pure stream
    Duration.read "5s" = .ok (.ofSeconds 5) ∧ stream.Carries p ∧
      report (.peer respond) c "5s" 0 = pure ⟨1, "WARNING: disk\n"⟩ := by
  intro p stream c respond
  have hlimit : Duration.read "5s" = .ok (.ofSeconds 5) := rfl
  have hbytes : stream.remaining = p.toBytes ++ [0, 1, 2] := by
    simp only [stream, Stream.remaining, List.flatten_cons, List.flatten_nil, List.append_nil]
    rw [← List.append_assoc, List.take_append_drop]
  have hcarries : stream.Carries p := by
    refine ⟨?_, Packet.verify_build _ _ _ _⟩
    rw [hbytes]
    exact (List.take_left' (Packet.length_toBytes p)).symm
  have htext : p.text = "WARNING: disk" := by decide +kernel
  have hsent : respond (Packet.query c.encode 0).toBytes = pure stream := rfl
  obtain ⟨response, exit, -, hreport, -, hresponse, htold, -, -⟩ :=
    report_outcomes c 0 hlimit hsent
  have hexit := htold p ((hresponse p).mpr hcarries)
  rw [htext] at hexit
  exact ⟨hlimit, hcarries, hreport.trans (congrArg pure hexit)⟩

end Nrpe
end MonitorAgent
