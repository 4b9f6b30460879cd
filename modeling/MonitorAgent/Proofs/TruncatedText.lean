import MonitorAgent.Proofs.Frames
import MonitorAgent.Proofs.Utf8RoundTrip

/-!
# Texts that are cut

A payload is cut after a number of bytes, which may part a character.  All characters before the
cut are read back.  The bytes of the parted one are the beginning of a character that never ends,
and are told by one mark.
-/

namespace MonitorAgent
namespace Text
namespace Utf8

variable {s kept other : List Char} {limit : Nat}

/-! ## Begun characters -/

theorem step_ne_silent (p : Option Begun) (b : UInt8) : step p b ≠ ([], none) := by
  have hfirst : first b ≠ ([], none) := by
    rw [first]
    split
    · simp
    · split <;> simp
  cases p with
  | none => exact hfirst
  | some begun =>
      rw [step]
      split
      · rw [Begun.next]
        split <;> simp
      · simp

theorem partsFrom_eq_nil_iff {p : Option Begun} {bytes : List UInt8} :
    partsFrom p bytes = [] ↔ p = none ∧ bytes = [] := by
  induction bytes generalizing p with
  | nil => cases p <;> simp [partsFrom]
  | cons b bytes ih =>
      rw [partsFrom]
      simp only [List.append_eq_nil_iff, ih]
      constructor
      · rintro ⟨hparts, hrest, -⟩
        exact absurd (Prod.ext hparts hrest) (step_ne_silent p b)
      · rintro ⟨-, ⟨⟩⟩

theorem exists_partsFrom_append (p : Option Begun) (a : List UInt8) :
    ∃ parts rest, ∀ b, partsFrom p (a ++ b) = parts ++ partsFrom rest b := by
  induction a generalizing p with
  | nil => exact ⟨[], p, fun b => rfl⟩
  | cons x a ih =>
      obtain ⟨parts, rest, happend⟩ := ih (step p x).2
      refine ⟨(step p x).1 ++ parts, rest, fun b => ?_⟩
      rw [List.cons_append, partsFrom, List.append_assoc, ← happend b]

/-- The first bytes of a character are one ill-formed part, however many of them there are. -/
theorem partsFrom_parted {c : Char} {front back : List UInt8}
    (hc : String.utf8EncodeChar c = front ++ back) (hfront : front ≠ []) (hback : back ≠ []) :
    partsFrom none front = [none] := by
  obtain ⟨parts, rest, happend⟩ := exists_partsFrom_append none front
  have hwhole : parts ++ partsFrom rest back = [some c] := by
    rw [← happend back, ← hc]
    simpa [partsFrom] using partsFrom_encodeChar c []
  -- The character is there only when its last bytes are, so that nothing came before these.
  have hnone : parts = [] := by
    have hlength := congrArg List.length hwhole
    have hlast : 0 < (partsFrom rest back).length :=
      List.length_pos_iff.mpr fun hnil => hback (partsFrom_eq_nil_iff.mp hnil).2
    simp only [List.length_append, List.length_singleton] at hlength
    exact List.eq_nil_of_length_eq_zero (by omega)
  have hbegun := happend []
  rw [List.append_nil, hnone, List.nil_append] at hbegun
  cases rest with
  | none => exact absurd (partsFrom_eq_nil_iff.mp hbegun).2 hfront
  | some begun => exact hbegun

/-! ## The characters before a cut -/

theorem length_encode (s : String) : (encode s.toList).length = s.utf8ByteSize := by
  have hbytes : s.toByteArray = s.toList.utf8Encode := by simp
  rw [String.utf8ByteSize, hbytes, List.utf8Encode, List.size_toByteArray]
  rfl

theorem encode_cons (c : Char) (s : List Char) :
    encode (c :: s) = String.utf8EncodeChar c ++ encode s :=
  List.flatMap_cons

/-- As many whole characters from the start as fit. -/
def fitting (limit : Nat) : List Char → List Char
  | [] => []
  | c :: s => if c.utf8Size ≤ limit then c :: fitting (limit - c.utf8Size) s else []

theorem fitting_prefix (limit : Nat) (s : List Char) : fitting limit s <+: s := by
  induction s generalizing limit with
  | nil => exact List.nil_prefix
  | cons c s ih =>
      rw [fitting]
      split
      · exact List.cons_prefix_cons.mpr ⟨rfl, ih _⟩
      · exact List.nil_prefix

theorem length_encode_fitting (limit : Nat) (s : List Char) :
    (encode (fitting limit s)).length ≤ limit := by
  induction s generalizing limit with
  | nil => exact Nat.zero_le limit
  | cons c s ih =>
      rw [fitting]
      split
      next hc =>
        have hrest := ih (limit - c.utf8Size)
        rw [encode_cons, List.length_append, String.length_utf8EncodeChar]
        omega
      next => exact Nat.zero_le limit

theorem prefix_fitting (h : other <+: s) (hfits : (encode other).length ≤ limit) :
    other <+: fitting limit s := by
  induction s generalizing limit other with
  | nil => exact h
  | cons c s ih =>
      cases other with
      | nil => exact List.nil_prefix
      | cons c' other =>
          obtain ⟨rfl, hother⟩ := List.cons_prefix_cons.mp h
          rw [encode_cons, List.length_append, String.length_utf8EncodeChar] at hfits
          rw [fitting, if_pos (by omega)]
          exact List.cons_prefix_cons.mpr ⟨rfl, ih hother (by omega)⟩

/-- A cut leaves the characters that fit, and of the next one its first bytes or nothing. -/
theorem take_encode (limit : Nat) (s : List Char) :
    ∃ front, (encode s).take limit = encode (fitting limit s) ++ front ∧
      (front ≠ [] → partsFrom none front = [none]) := by
  induction s generalizing limit with
  | nil => exact ⟨[], by simp [encode, fitting], fun h => absurd rfl h⟩
  | cons c s ih =>
      have hsize := String.length_utf8EncodeChar c
      rw [encode_cons, List.take_append, hsize, fitting]
      split
      next hc =>
        obtain ⟨front, htake, hfront⟩ := ih (limit - c.utf8Size)
        refine ⟨front, ?_, hfront⟩
        rw [htake, List.take_of_length_le (by omega), encode_cons, List.append_assoc]
      next hc =>
        have hparts := (List.take_append_drop limit (String.utf8EncodeChar c)).symm
        refine ⟨(String.utf8EncodeChar c).take limit, ?_, fun hfront => ?_⟩
        · rw [Nat.sub_eq_zero_of_le (by omega), List.take_zero, List.append_nil]
          rfl
        · apply partsFrom_parted hparts hfront
          apply List.ne_nil_of_length_pos
          rw [List.length_drop]
          omega

theorem decodeLossy_take (h : limit < (encode s).length) :
    decodeLossy ((encode s).take limit) =
      fitting limit s ++
        if (encode (fitting limit s)).length < limit then [replacement] else [] := by
  obtain ⟨front, htake, hfront⟩ := take_encode limit s
  have hlength := congrArg List.length htake
  rw [List.length_take_of_le (Nat.le_of_lt h), List.length_append] at hlength
  rw [decodeLossy, parts, htake, partsFrom_encode, List.map_append, List.map_map]
  congr 1
  · exact List.map_id _
  · cases hempty : front with
    | nil =>
        rw [hempty, List.length_nil] at hlength
        rw [if_neg (by omega)]
        rfl
    | cons b more =>
        rw [hempty, List.length_cons] at hlength
        rw [if_pos (by omega), ← hempty, hfront (by simp [hempty])]
        rfl

/-! ## The text of a packet -/

/-- What is kept is the longest beginning that takes up no more than so many bytes. -/
structure LongestFit (limit : Nat) (s kept : String) : Prop where
  isPrefix : kept.toList <+: s.toList
  fits : kept.utf8ByteSize ≤ limit
  longest : ∀ other : String, other.toList <+: s.toList → other.utf8ByteSize ≤ limit →
    other.toList <+: kept.toList

theorem longestFit_fitting (limit : Nat) (s : String) :
    LongestFit limit s (String.ofList (fitting limit s.toList)) := by
  constructor
  · rw [String.toList_ofList]
    exact fitting_prefix limit s.toList
  · rw [← length_encode, String.toList_ofList]
    exact length_encode_fitting limit s.toList
  · intro other hother hfits
    rw [← length_encode] at hfits
    rw [String.toList_ofList]
    exact prefix_fitting hother hfits

theorem LongestFit.unique {limit : Nat} {s a b : String} (ha : LongestFit limit s a)
    (hb : LongestFit limit s b) : a = b := by
  have hab := hb.longest a ha.isPrefix ha.fits
  have hba := ha.longest b hb.isPrefix hb.fits
  exact String.toList_inj.mp (hab.eq_of_length_le hba.length_le)

end Utf8
end Text

namespace Nrpe
namespace Packet

open Text.Utf8 (LongestFit encode fitting)

variable {s : String}

/-- A text that fits is the text of its response.  Of one that does not fit the longest beginning
that does is read, and one mark if a part of the next character is left behind it. -/
theorem text_response (status padding : UInt16) (h : '\x00' ∉ s.toList) :
    (s.utf8ByteSize ≤ 1023 → (response status s padding).text = s) ∧
    (1023 < s.utf8ByteSize → ∃ kept, LongestFit 1023 s kept ∧
      (response status s padding).text =
        kept ++ if kept.utf8ByteSize < 1023 then "\ufffd" else "") := by
  have htext : (response status s padding).text =
      String.ofList (Text.Utf8.decodeLossy ((encode s.toList).take 1023)) := by
    have hzero := Text.Utf8.zero_notMem_encode h
    rw [text, response, payload_build_of_notMem _ _ _ hzero]
    rfl
  have hsize := Text.Utf8.length_encode s
  refine ⟨fun hfits => ?_, fun hcut => ?_⟩
  · rw [htext, List.take_of_length_le (by omega), Text.Utf8.decodeLossy_encode,
      String.ofList_toList]
  · refine ⟨_, Text.Utf8.longestFit_fitting 1023 s, ?_⟩
    have hmark (p : Prop) [Decidable p] :
        String.ofList (if p then [Text.Utf8.replacement] else []) = if p then "\ufffd" else "" := by
      split <;> rfl
    rw [htext, Text.Utf8.decodeLossy_take (by omega), String.ofList_append, hmark,
      ← Text.Utf8.length_encode, String.toList_ofList]

/-- A character of one byte and 256 of four: the cut leaves two bytes of the last one. -/
theorem text_response_parted :
    let s := String.ofList ('x' :: List.replicate 256 '😀')
    '\x00' ∉ s.toList ∧ 1023 < s.utf8ByteSize ∧
    (response 2 s 7).text = String.ofList ('x' :: List.replicate 255 '😀') ++ "\ufffd" := by
  intro s
  have hlist : s.toList = 'x' :: List.replicate 256 '😀' := String.toList_ofList
  have hzero : '\x00' ∉ s.toList := by
    rw [hlist]
    decide +kernel
  have hcut : 1023 < s.utf8ByteSize := by
    rw [← Text.Utf8.length_encode, hlist]
    decide +kernel
  have hfitting : fitting 1023 ('x' :: List.replicate 256 '😀') = 'x' :: List.replicate 255 '😀' := by
    decide +kernel
  have hshort : (encode ('x' :: List.replicate 255 '😀')).length < 1023 := by decide +kernel
  have hlongest := Text.Utf8.longestFit_fitting 1023 s
  rw [hlist, hfitting] at hlongest
  obtain ⟨kept, hkept, htext⟩ := (text_response 2 7 hzero).2 hcut
  rw [hkept.unique hlongest, ← Text.Utf8.length_encode, String.toList_ofList,
    if_pos hshort] at htext
  exact ⟨hzero, hcut, htext⟩

end Packet
end Nrpe
end MonitorAgent
