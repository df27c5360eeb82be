import DoomSat.Model.Receiver
import DoomSat.Model.Downlink

/-!
# `DoomSat.Proofs.Receiver.Classify`: the payload of a received datagram

`unpackRtpHeader` and `classify` check every byte they read, so neither of them reads past
the datagram (`unpackRtpHeader_ok`, `classify_ok`). The result of `classify` is therefore a
function of the datagram, `payloadOf`, and `fragmentOf` is its FU-A part.

`unpackRtpHeader_pack` reads back the header of the sender. With it, the payload behind a
header of the sender is classified on its own (`payloadOf_pack`). The lemmas
`branchOf_startCode`, `branchOf_fuA` and `branchOf_zero` name the branch for the first
payload bytes that matter.
-/

set_option autoImplicit false

namespace DoomSat.Receiver

open Support
open Downlink (packRtpHeader)

/-! ### No read past the datagram -/

/-- The first 8 bytes of a datagram of at least 8 bytes can be read. -/
theorem unpackFields_ok {buf : Datagram} (h : 8 ≤ buf.length) :
    ∃ hdr, unpackFields buf = .ok hdr := by
  unfold unpackFields
  rw [byteAt_of_lt (i := 0) (by omega), byteAt_of_lt (i := 1) (by omega),
    byteAt_of_lt (i := 2) (by omega), byteAt_of_lt (i := 3) (by omega),
    byteAt_of_lt (i := 4) (by omega), byteAt_of_lt (i := 5) (by omega),
    byteAt_of_lt (i := 6) (by omega), byteAt_of_lt (i := 7) (by omega)]
  exact ⟨_, rfl⟩

/-- The extension length is only read inside the datagram, and the offset returned is inside it
too. The code checks the length once before it reads the two bytes and once behind them. -/
theorem payloadOffset_ok (buf : Datagram) (hdr : RtpHeader) :
    ∃ r, payloadOffset buf buf.length hdr = .ok r ∧ ∀ off, r = some off → off ≤ buf.length := by
  unfold payloadOffset
  by_cases hext : hdr.extension ≠ 0
  · rw [if_pos hext]
    by_cases hlen : 8 + hdr.cc.toNat * 4 + 4 > buf.length
    · rw [if_pos hlen]
      exact ⟨none, rfl, by simp⟩
    · -- Both length bytes are among the 4 bytes that were checked.
      rw [if_neg hlen, byteAt_of_lt (i := 8 + hdr.cc.toNat * 4 + 2) (by omega),
        byteAt_of_lt (i := 8 + hdr.cc.toNat * 4 + 3) (by omega)]
      refine ⟨_, rfl, fun off hoff => ?_⟩
      split at hoff <;> simp_all
  · rw [if_neg hext]
    refine ⟨_, rfl, fun off hoff => ?_⟩
    split at hoff <;> simp_all

/-- `unpackRtpHeader` reads no byte outside the datagram. It looks at the length first, and the
parts behind it are the two lemmas above. -/
theorem unpackRtpHeader_ok (buf : Datagram) :
    ∃ r, unpackRtpHeader buf buf.length = .ok r := by
  unfold unpackRtpHeader
  by_cases hlen : buf.length < 8
  · rw [if_pos hlen]
    exact ⟨none, rfl⟩
  · obtain ⟨hdr, hhdr⟩ := @unpackFields_ok buf (by omega)
    obtain ⟨off, hoff, -⟩ := payloadOffset_ok buf hdr
    rw [if_neg hlen, hhdr]
    show ∃ r, (payloadOffset buf buf.length hdr >>= _) = .ok r
    rw [hoff]
    exact ⟨_, rfl⟩

/-- The start-code test reads at most the first four bytes, and only when they exist. It is the
test whether the start code is a prefix. -/
theorem hasStartCode_eq (payload : List UInt8) :
    hasStartCode payload = .ok (startCode.isPrefixOf payload) := by
  unfold hasStartCode
  by_cases hlen : payload.length ≥ 4
  · obtain ⟨p0, p1, p2, p3, rest, rfl⟩ : ∃ p0 p1 p2 p3 rest,
        payload = p0 :: p1 :: p2 :: p3 :: rest := by
      match payload, hlen with
      | p0 :: p1 :: p2 :: p3 :: rest, _ => exact ⟨p0, p1, p2, p3, rest, rfl⟩
    rw [if_pos hlen]
    simp only [byteAt, List.getElem?_cons_zero, List.getElem?_cons_succ, startCode,
      List.isPrefixOf]
    -- Both tests stop at the first byte that differs.
    by_cases h0 : p0 = 0 <;> by_cases h1 : p1 = 0 <;> by_cases h2 : p2 = 0 <;>
      simp [bind, Except.bind, pure, Except.pure, h0, h1, h2, eq_comm (a := (0 : UInt8)),
        eq_comm (a := (1 : UInt8)), beq_eq_decide]
  · rw [if_neg hlen]
    have hfalse : startCode.isPrefixOf payload = false := by
      rw [Bool.eq_false_iff, Ne, List.isPrefixOf_iff_prefix]
      intro h
      have := h.length_le
      simp only [startCode, List.length_cons, List.length_nil] at this
      omega
    rw [hfalse]
    rfl

/-- The branch that `receiver_poll` takes on a non-empty payload. -/
def branchOf (payload : List UInt8) : Payload :=
  if startCode.isPrefixOf payload then .annexB payload
  else match payload with
    | [] => .ignored
    | p0 :: rest =>
      match rest with
      | p1 :: bytes =>
        if p0 &&& 0x1F == 28 then .fuA ⟨p0, p1, bytes⟩
        else if p0 &&& 0x1F ≥ 1 && p0 &&& 0x1F ≤ 23 then .singleNal payload
        else .ignored
      | [] => if p0 &&& 0x1F ≥ 1 && p0 &&& 0x1F ≤ 23 then .singleNal payload else .ignored

/-- The branches on a non-empty payload read no byte outside it. -/
theorem classifyPayload_eq {payload : List UInt8} (h : payload ≠ []) :
    classifyPayload payload = .ok (branchOf payload) := by
  obtain ⟨p0, rest, rfl⟩ := List.exists_cons_of_ne_nil h
  unfold classifyPayload branchOf
  rw [hasStartCode_eq]
  cases hsc : startCode.isPrefixOf (p0 :: rest) with
  | true => rfl
  | false =>
    -- The conditions of the remaining branches decide both sides.
    cases h28 : (p0 &&& 0x1F == 28) <;>
      cases hsingle : (decide (p0 &&& 0x1F ≥ 1) && decide (p0 &&& 0x1F ≤ 23)) <;>
      cases rest <;>
      simp [byteAt, bind, Except.bind, pure, Except.pure, h28, hsingle]

/-- `classify` reads no byte outside the datagram. A header that is too short, another version
and an empty payload end it before the payload is looked at. -/
theorem classify_ok (buf : Datagram) : ∃ p, classify buf = .ok p := by
  obtain ⟨r, hr⟩ := unpackRtpHeader_ok buf
  unfold classify
  rw [hr]
  match r with
  | none => exact ⟨_, rfl⟩
  | some (off, hdr) =>
    show ∃ p, (if hdr.version ≠ 2 then Except.ok Payload.ignored
      else if (buf.drop off).length ≤ 0 then Except.ok Payload.ignored
      else classifyPayload (buf.drop off)) = Except.ok p
    split
    · exact ⟨_, rfl⟩
    · split
      · exact ⟨_, rfl⟩
      · rename_i hlen
        exact ⟨_, classifyPayload_eq (fun h => hlen (by rw [h]; exact Nat.le_refl 0))⟩

/-- What `receiver_poll` does with the received bytes. -/
def payloadOf (buf : Datagram) : Payload :=
  match classify buf with
  | .ok p => p
  | .error _ => .ignored

/-- The FU-A fragment in the received bytes, if they hold one. -/
def fragmentOf (buf : Datagram) : Option Fragment :=
  match payloadOf buf with
  | .fuA fragment => some fragment
  | _ => none

/-- `classify` returns `payloadOf`. -/
theorem classify_eq (buf : Datagram) : classify buf = .ok (payloadOf buf) := by
  obtain ⟨p, hp⟩ := classify_ok buf
  unfold payloadOf
  rw [hp]

/-- A datagram with a fragment takes the FU-A branch with it. -/
theorem payloadOf_of_fragmentOf {buf : Datagram} {f : Fragment}
    (h : fragmentOf buf = some f) : payloadOf buf = .fuA f := by
  unfold fragmentOf at h
  split at h
  · cases h
    assumption
  · cases h

/-! ### Behind a header of the sender -/

/-- The header that the receiver reads from `packRtpHeader`. -/
def senderHeader (seq : UInt16) (timestamp : UInt32) (marker : UInt8) : RtpHeader where
  version := 2
  padding := 0
  extension := 0
  cc := 0
  marker := marker &&& 1
  payloadType := 96
  seq := seq
  timestamp := timestamp

/-- The fields of a header that the sender packed. The version, the padding and the two counts
are constants of the sender, and the other fields come back. -/
theorem unpackFields_pack (seq : UInt16) (timestamp : UInt32) (marker : UInt8)
    (payload : List UInt8) :
    unpackFields (packRtpHeader seq timestamp marker ++ payload)
      = .ok (senderHeader seq timestamp marker) := by
  -- The marker bit and the payload type share a byte.
  have hbyte1 : ∀ m : UInt8,
      (((m &&& 0x01) <<< 7) ||| (96 &&& 0x7F)) >>> 7 &&& 0x01 = m &&& 1 ∧
      (((m &&& 0x01) <<< 7) ||| (96 &&& 0x7F)) &&& 0x7F = 96 :=
    forall_byte (by decide +kernel)
  show Except.ok _ = Except.ok _
  congr 2
  · exact (hbyte1 marker).1
  · exact (hbyte1 marker).2
  · exact word16_bytes seq
  · exact word32_bytes timestamp

/-- The header of the sender has 8 bytes, the least that the receiver takes. -/
@[simp] theorem length_packRtpHeader (seq : UInt16) (timestamp : UInt32) (marker : UInt8) :
    (packRtpHeader seq timestamp marker).length = 8 := rfl

/-- Parsing a datagram of the sender gives offset 8 and the packed fields. -/
theorem unpackRtpHeader_pack (seq : UInt16) (timestamp : UInt32) (marker : UInt8)
    (payload : List UInt8) :
    unpackRtpHeader (packRtpHeader seq timestamp marker ++ payload)
        (packRtpHeader seq timestamp marker ++ payload).length
      = .ok (some (8, senderHeader seq timestamp marker)) := by
  have hlen : ¬ (packRtpHeader seq timestamp marker ++ payload).length < 8 := by simp
  have hle : 8 ≤ (packRtpHeader seq timestamp marker ++ payload).length := by simp
  unfold unpackRtpHeader
  rw [if_neg hlen, unpackFields_pack]
  show Except.ok ((if 8 ≤ (packRtpHeader seq timestamp marker ++ payload).length then some 8
    else none).map _) = _
  rw [if_pos hle]
  rfl

/-- A non-empty payload behind a header of the sender is classified on its own. The sender
writes no CSRC and no extension, so the payload begins at byte 8. -/
theorem payloadOf_pack (seq : UInt16) (timestamp : UInt32) (marker : UInt8)
    {payload : List UInt8} (h : payload ≠ []) :
    payloadOf (packRtpHeader seq timestamp marker ++ payload) = branchOf payload := by
  have hlen : ¬ payload.length ≤ 0 := by
    have := List.length_pos_iff.mpr h
    omega
  have hdrop : (packRtpHeader seq timestamp marker ++ payload).drop 8 = payload := rfl
  have hclass : classify (packRtpHeader seq timestamp marker ++ payload)
      = .ok (branchOf payload) := by
    unfold classify
    rw [unpackRtpHeader_pack]
    show (if ((packRtpHeader seq timestamp marker ++ payload).drop 8).length ≤ 0 then _
      else _) = _
    rw [hdrop, if_neg hlen, classifyPayload_eq h]
  unfold payloadOf
  rw [hclass]

/-- A payload that starts with the 4-byte start code goes to the decoder as it is. -/
theorem branchOf_startCode {payload : List UInt8} (h : startCode <+: payload) :
    branchOf payload = .annexB payload := by
  unfold branchOf
  rw [if_pos (List.isPrefixOf_iff_prefix.mpr h)]

/-- A payload with a non-zero first byte does not start with the start code. -/
theorem not_startCode_of_ne {p0 : UInt8} {rest : List UInt8} (h : p0 ≠ 0) :
    startCode.isPrefixOf (p0 :: rest) = false := by
  simp [startCode, List.isPrefixOf, h.symm]

/-- A payload of FU-A type with both FU bytes is a fragment. -/
theorem branchOf_fuA {p0 : UInt8} (h : p0 &&& 0x1F = 28) (p1 : UInt8) (bytes : List UInt8) :
    branchOf (p0 :: p1 :: bytes) = .fuA ⟨p0, p1, bytes⟩ := by
  have hne : p0 ≠ 0 := by
    rintro rfl
    exact absurd h (by decide)
  unfold branchOf
  rw [not_startCode_of_ne hne]
  simp [h]

/-- A payload that starts with a zero byte but not with the start code is dropped. -/
theorem branchOf_zero {rest : List UInt8} (h : ¬ startCode <+: 0 :: rest) :
    branchOf (0 :: rest) = .ignored := by
  unfold branchOf
  rw [if_neg (by rwa [List.isPrefixOf_iff_prefix])]
  cases rest with
  | nil => rfl
  | cons p1 bytes => rfl

end DoomSat.Receiver
