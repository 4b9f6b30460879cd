import MonitorAgent.Nrpe.Policy
import MonitorAgent.Text.Span
import Mathlib.Data.List.DropRight
import Mathlib.Data.List.Forall2

/-!
# Allowed hosts of a configuration

A configuration in which nothing is wrong is one whose texts can all be read, and then the
policy is made of what they stand for.  A policy passes over hosts that are no addresses and falls
back to a standard timeout, but neither happens once the configuration has been checked: as many
hosts are allowed as are listed, so that a list with hosts on it never admits every peer.
-/

namespace MonitorAgent

variable {s : List Char}

theorem Text.trim_eq_nil_iff : trim s = [] ↔ ∀ c ∈ s, isSpace c = true := by
  have hstart : s.dropWhile isSpace = [] ↔ ∀ c ∈ s, isSpace c = true := List.dropWhile_eq_nil_iff
  calc
    trim s = [] ↔ (s.dropWhile isSpace).rdropWhile isSpace = [] := Iff.rfl
    _ ↔ (s.dropWhile isSpace).dropWhile isSpace = [] := by
      rw [List.rdropWhile_eq_nil_iff, List.dropWhile_eq_nil_iff]
    _ ↔ ∀ c ∈ s, isSpace c = true := by rw [List.dropWhile_idempotent, hstart]

/-! ## Blank texts are no endpoints -/

namespace Net

theorem octet?_of_stops (h : Text.Stops Char.isDigit s) : octet? s = none := by
  have hdigits : Decimal.spanDigits s = ([], s) :=
    Prod.ext (Text.takeWhile_of_stops h) (Text.dropWhile_of_stops h)
  simp [octet?, number?, hdigits]

theorem Endpoint.read?_of_stops (hdigit : Text.Stops Char.isDigit s) (hbracket : '[' ∉ s.head?) :
    Endpoint.read? s = none := by
  have hv4 : endpointV4? s = none := by
    simp [endpointV4?, v4?, octets?, octet?_of_stops hdigit]
  have hafter : after? '[' s = none := by
    cases s with
    | nil => rfl
    | cons c s => exact if_neg fun hc => hbracket (congrArg some hc)
  have hv6 : endpointV6? s = none := by simp [endpointV6?, hafter]
  rw [Endpoint.read?, complete?, complete?, hv4, hv6]
  rfl

theorem Endpoint.read?_of_blank (h : ∀ c ∈ s, Text.isSpace c = true) :
    Endpoint.read? s = none := by
  have hspace : ∀ c ∈ s.head?, Text.isSpace c = true := fun c hc => h c (List.mem_of_mem_head? hc)
  refine read?_of_stops (fun c hc => ?_) fun hbracket => absurd (hspace _ hbracket) (by decide)
  rw [← Bool.not_eq_true]
  intro hdigit
  cases (hspace c hc).symm.trans (Text.isSpace_of_isDigit hdigit)

end Net

namespace Config

/-- An entry of the list of hosts stands for an address, with white space around it or not. -/
def Denotes (host : String) (address : Net.Address) : Prop :=
  Net.Address.read? (Text.trim host.toList) = some address

structure Requests.Valid (r : Requests) : Prop where
  listen : ∃ endpoint, Net.Endpoint.read? r.listen.toList = some endpoint
  timeout : ∃ d, Duration.read r.timeout = .ok d ∧ 0 < d.nanoseconds
  hosts : ∀ host ∈ r.allowedHosts, ∃ address, Denotes host address

/-- Everything in the configuration stands for something. -/
structure Valid (c : Config) : Prop where
  listen : ∃ endpoint, Net.Endpoint.read? c.listen.toList = some endpoint
  interval : 1 ≤ c.interval
  requests : c.requests.Valid

theorem isEndpoint_iff {text : String} :
    isEndpoint text = true ↔ ∃ endpoint, Net.Endpoint.read? text.toList = some endpoint :=
  Option.isSome_iff_exists

theorem timeoutFault?_eq_none_iff {text : String} :
    timeoutFault? text = none ↔ ∃ d, Duration.read text = .ok d ∧ 0 < d.nanoseconds := by
  rw [timeoutFault?]
  cases Duration.read text with
  | error fault => exact ⟨nofun, fun ⟨_, h, _⟩ => nomatch h⟩
  | ok d =>
      by_cases hzero : d.nanoseconds = 0
      · simp [Duration.isZero, hzero]
      · simp [Duration.isZero, hzero, Nat.pos_of_ne_zero hzero]

theorem find?_unread_eq_none_iff {hosts : List String} :
    (hosts.find? fun host => (readHost? host).isNone) = none ↔
      ∀ host ∈ hosts, ∃ address, Denotes host address := by
  rw [List.find?_eq_none]
  refine forall₂_congr fun host _ => ?_
  rw [Option.isNone_iff_eq_none]
  exact Option.ne_none_iff_exists'

theorem Requests.fault?_eq_none_iff (r : Requests) : r.fault? = none ↔ r.Valid := by
  constructor
  · intro h
    rw [Requests.fault?] at h
    split at h
    · cases h
    next hlisten =>
      split at h
      · cases h
      next htimeout =>
        rw [Bool.not_eq_true', Bool.not_eq_false] at hlisten
        exact ⟨isEndpoint_iff.mp hlisten, timeoutFault?_eq_none_iff.mp htimeout,
          find?_unread_eq_none_iff.mp (Option.map_eq_none_iff.mp h)⟩
  · rintro ⟨hlisten, htimeout, hhosts⟩
    simp only [Requests.fault?, isEndpoint_iff.mpr hlisten, timeoutFault?_eq_none_iff.mpr htimeout,
      find?_unread_eq_none_iff.mpr hhosts, Bool.not_true, Bool.false_eq_true, if_false, Option.map_none]

theorem isEmpty_trim_of_isEndpoint {text : String} (h : isEndpoint text = true) :
    (Text.trim text.toList).isEmpty = false := by
  rw [List.isEmpty_eq_false_iff]
  intro hblank
  rw [isEndpoint, Net.Endpoint.read?_of_blank (Text.trim_eq_nil_iff.mp hblank)] at h
  cases h

theorem one_le_iff {n : UInt64} : 1 ≤ n ↔ n ≠ 0 := by
  rw [UInt64.le_iff_toNat_le, ne_eq, ← UInt64.toNat_inj]
  exact Nat.one_le_iff_ne_zero

theorem fault?_eq_none_iff (c : Config) : c.fault? = none ↔ c.Valid := by
  constructor
  · intro h
    rw [fault?] at h
    split at h
    · cases h
    split at h
    · cases h
    split at h
    · cases h
    next hlisten hinterval =>
      rw [Bool.not_eq_true', Bool.not_eq_false] at hlisten
      exact ⟨isEndpoint_iff.mp hlisten, one_le_iff.mpr hinterval,
        c.requests.fault?_eq_none_iff.mp h⟩
  · rintro ⟨hlisten, hinterval, hrequests⟩
    -- A blank text is no endpoint either, so that the first check refuses nothing more.
    have hendpoint := isEndpoint_iff.mpr hlisten
    simp only [fault?, isEmpty_trim_of_isEndpoint hendpoint, hendpoint, one_le_iff.mp hinterval,
      c.requests.fault?_eq_none_iff.mpr hrequests, Bool.not_true, Bool.false_eq_true, if_false]

/-! ## The policy -/

theorem forall₂_filterMap {α β : Type} {f : α → Option β} {l : List α}
    (h : ∀ a ∈ l, ∃ b, f a = some b) :
    List.Forall₂ (fun a b => f a = some b) l (l.filterMap f) := by
  induction l with
  | nil => exact .nil
  | cons a l ih =>
      obtain ⟨⟨b, hb⟩, hl⟩ := List.forall_mem_cons.mp h
      rw [List.filterMap_cons_some hb]
      exact .cons hb (ih hl)

end Config

theorem Nrpe.Policy.allows_iff {p : Nrpe.Policy} {peer : Net.Address} :
    p.allows peer = true ↔ p.allowedHosts = [] ∨ peer ∈ p.allowedHosts := by
  rw [Nrpe.Policy.allows, Bool.or_eq_true, List.isEmpty_iff, List.contains_iff_mem]

namespace Config

namespace Requests

variable {r : Requests}

theorem Valid.denotes (h : r.Valid) :
    List.Forall₂ Denotes r.allowedHosts (Nrpe.Policy.ofRequests r).allowedHosts :=
  forall₂_filterMap h.hosts

theorem Valid.allows_iff (h : r.Valid) (peer : Net.Address) :
    (Nrpe.Policy.ofRequests r).allows peer = true ↔
      r.allowedHosts = [] ∨ ∃ host ∈ r.allowedHosts, Denotes host peer := by
  have hempty : (Nrpe.Policy.ofRequests r).allowedHosts = [] ↔ r.allowedHosts = [] := by
    rw [← List.length_eq_zero_iff, ← h.denotes.length_eq, List.length_eq_zero_iff]
  have hmem : peer ∈ (Nrpe.Policy.ofRequests r).allowedHosts ↔
      ∃ host ∈ r.allowedHosts, Denotes host peer := List.mem_filterMap
  rw [Nrpe.Policy.allows_iff, hempty, hmem]

theorem Valid.timeout_eq (h : r.Valid) :
    ∃ d, Duration.read r.timeout = .ok d ∧ 0 < d.nanoseconds ∧
      (Nrpe.Policy.ofRequests r).timeout = d := by
  obtain ⟨d, hread, hpos⟩ := h.timeout
  refine ⟨d, hread, hpos, ?_⟩
  rw [Nrpe.Policy.ofRequests, hread]
  rfl

end Requests

/-- A configuration has no fault just if all of it can be read, and then the policy allows just
the hosts that are listed, and waits as long as is written. -/
theorem policy_of_checked (c : Config) :
    (c.fault? = none ↔ c.Valid) ∧
    (c.fault? = none →
      let policy := Nrpe.Policy.ofRequests c.requests
      List.Forall₂ Denotes c.requests.allowedHosts policy.allowedHosts ∧
      (∃ d, Duration.read c.requests.timeout = .ok d ∧ 0 < d.nanoseconds ∧
        policy.timeout = d) ∧
      ∀ peer, policy.allows peer = true ↔
        c.requests.allowedHosts = [] ∨ ∃ host ∈ c.requests.allowedHosts, Denotes host peer) := by
  refine ⟨c.fault?_eq_none_iff, fun hchecked => ?_⟩
  have hrequests := (c.fault?_eq_none_iff.mp hchecked).requests
  exact ⟨hrequests.denotes, hrequests.timeout_eq, hrequests.allows_iff⟩

/-- Two hosts, one of them with white space around it; a third one is not answered. -/
theorem policy_of_checked_hosts :
    let requests : Requests := { timeout := "1m 30s", allowedHosts := [" 10.0.0.1 ", "::1"] }
    let c : Config := { listen := "127.0.0.1:9108", interval := 5, requests }
    let policy := Nrpe.Policy.ofRequests requests
    c.fault? = none ∧ policy.timeout = .ofSeconds 90 ∧
      policy.allows (.v4 #v[10, 0, 0, 1]) = true ∧ policy.allows (.v4 #v[10, 0, 0, 2]) = false := by
  intro requests c policy
  have hchecked : c.fault? = none := by decide +kernel
  have hread : Duration.read "1m 30s" = .ok (.ofSeconds 90) := rfl
  have hlisted : Denotes " 10.0.0.1 " (.v4 #v[10, 0, 0, 1]) := by
    rw [Denotes]
    decide +kernel
  have hother : ¬∃ host ∈ requests.allowedHosts, Denotes host (.v4 #v[10, 0, 0, 2]) := by
    simp only [Denotes]
    decide +kernel
  obtain ⟨-, ⟨d, hd, -, htimeout⟩, hallows⟩ := (policy_of_checked c).2 hchecked
  refine ⟨hchecked, ?_, (hallows _).mpr (.inr ⟨" 10.0.0.1 ", List.mem_cons_self, hlisted⟩), ?_⟩
  · rw [htimeout, ← Except.ok.inj (hd.symm.trans hread)]
  · rw [← Bool.not_eq_true, hallows]
    exact not_or.mpr ⟨List.cons_ne_nil _ _, hother⟩

end Config
end MonitorAgent
