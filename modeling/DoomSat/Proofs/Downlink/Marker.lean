import DoomSat.Proofs.Downlink.Packets
import DoomSat.Proofs.Receiver.Classify

/-!
# `DoomSat.Proofs.Downlink.Marker`: the marker bit closes a frame

`downlink.h` states that the last packet of a frame has the marker bit set. The code sets it
from the index of the NAL unit, and it skips empty NAL units. So the marker is missing when
the last NAL unit of the frame is empty and another one is not.

`FrameDelimited` is the contract for the datagrams of one call, as the receiver parses them.
`frameDelimited_iff` states when the packets of a frame meet it, and `callWires_delimited_iff`
states it for every sequence of calls. `not_frameDelimited_trailing_empty` is a frame that
fails.
-/

set_option autoImplicit false

namespace DoomSat.Downlink

open Receiver (RtpHeader unpackRtpHeader unpackRtpHeader_pack senderHeader)

/-- The RTP header that the receiver reads from a datagram. -/
def headerOf (packet : Datagram) : Option RtpHeader :=
  match unpackRtpHeader packet packet.length with
  | .ok (some (_, hdr)) => some hdr
  | _ => none

/-- Whether the datagram has the marker bit set. -/
def marked (packet : Datagram) : Bool := (headerOf packet).any fun hdr => hdr.marker == 1

/-- Whether the datagram carries the timestamp. -/
def stamped (timestamp : UInt32) (packet : Datagram) : Bool :=
  (headerOf packet).any fun hdr => hdr.timestamp == timestamp

/-- The contract for the datagrams of one call: when there are any, the last one has the
marker bit and no other one has, and all carry the timestamp of the call. -/
def FrameDelimited (timestamp : UInt32) (sent : List Datagram) : Prop :=
  sent ≠ [] →
    (∃ init last, sent = init ++ [last] ∧ marked last = true ∧ ∀ d ∈ init, marked d = false) ∧
    ∀ d ∈ sent, stamped timestamp d = true

/-- The frame ends with a NAL unit that is sent, or no NAL unit of it is sent. -/
def FrameClosed (nals : List Nal) : Prop :=
  (∃ nal, nals.getLast? = some nal ∧ nal ≠ []) ∨ ∀ nal ∈ nals, nal = []

/-! ### The headers of the packets -/

/-- The header of a packed datagram. -/
theorem headerOf_pack (seq : UInt16) (timestamp : UInt32) (marker : UInt8)
    (payload : List UInt8) :
    headerOf (packRtpHeader seq timestamp marker ++ payload)
      = some (senderHeader seq timestamp marker) := by
  unfold headerOf
  rw [unpackRtpHeader_pack]

/-- A packed datagram has the marker bit that the sender chose. -/
theorem marked_pack (seq : UInt16) (timestamp : UInt32) (last : Bool) (payload : List UInt8) :
    marked (packRtpHeader seq timestamp (if last then 1 else 0) ++ payload) = last := by
  show (headerOf _).any _ = last
  rw [headerOf_pack]
  cases last <;> rfl

/-- A packed datagram carries the timestamp that the sender wrote. -/
theorem stamped_pack (seq : UInt16) (timestamp : UInt32) (marker : UInt8)
    (payload : List UInt8) :
    stamped timestamp (packRtpHeader seq timestamp marker ++ payload) = true := by
  show (headerOf _).any _ = true
  rw [headerOf_pack]
  simp [senderHeader]

/-- A fragment datagram has the marker bit exactly when it is the last fragment of the last
NAL unit. -/
theorem marked_headPacket (timestamp : UInt32) (isLastNal : Bool) (fuIndicator nalType : UInt8)
    (payload : List UInt8) (isFirst : Bool) (seq : UInt16) :
    marked (headPacket timestamp isLastNal fuIndicator nalType payload isFirst seq)
      = (isLastNal && (fragSize payload.length == payload.length)) := by
  unfold headPacket fragmentPacket
  rw [List.append_assoc]
  exact marked_pack seq timestamp _ _

/-- Only the last fragment of a NAL unit can have the marker bit, and it has it exactly when the
NAL unit is the last one. All fragments carry the timestamp. The recursion is the one of the
loop. -/
theorem marked_fragmentPackets (timestamp : UInt32) (isLastNal : Bool)
    (fuIndicator nalType : UInt8) (payload : List UInt8) (isFirst : Bool) (seq : UInt16)
    (hpos : 0 < payload.length) :
    ∃ k, (fragmentPackets timestamp isLastNal fuIndicator nalType payload isFirst seq).map marked
        = List.replicate k false ++ [isLastNal] ∧
      ∀ d ∈ fragmentPackets timestamp isLastNal fuIndicator nalType payload isFirst seq,
        stamped timestamp d = true := by
  rw [fragmentPackets, dif_pos hpos]
  have hhead : stamped timestamp
      (headPacket timestamp isLastNal fuIndicator nalType payload isFirst seq) = true := by
    unfold headPacket fragmentPacket
    rw [List.append_assoc]
    exact stamped_pack seq timestamp _ _
  by_cases hlast : fragSize payload.length = payload.length
  · -- The last fragment: nothing is left for the next round.
    have hnil : payload.drop (fragSize payload.length) = [] := by
      rw [hlast, List.drop_length]
    refine ⟨0, ?_, ?_⟩
    · rw [hnil, fragmentPackets, dif_neg (by simp), List.map_cons, marked_headPacket, hlast]
      simp
    · rw [hnil, fragmentPackets, dif_neg (by simp)]
      simpa using hhead
  · -- More fragments follow, so this one has no marker bit, and the marker bit of the
    -- others is the one of the shorter payload.
    have hsize := fragSize_le payload.length
    have hfrag := fragSize_pos hpos
    obtain ⟨k, hk, hstamp⟩ := marked_fragmentPackets timestamp isLastNal fuIndicator nalType
      (payload.drop (fragSize payload.length)) false (seq + 1)
      (by rw [List.length_drop]; omega)
    refine ⟨k + 1, ?_, ?_⟩
    · rw [List.map_cons, hk, marked_headPacket, beq_false_of_ne hlast, Bool.and_false,
        List.replicate_succ, List.cons_append]
    · intro d hd
      rcases List.mem_cons.mp hd with rfl | hd
      · exact hhead
      · exact hstamp d hd
termination_by payload.length
decreasing_by exact length_drop_fragSize hpos

/-- The packets of a NAL unit that is not empty: no marker bit before the last of them. -/
theorem marked_nalPackets (timestamp : UInt32) (isLastNal : Bool) (nal : Nal) (seq : UInt16)
    (hnal : nal ≠ []) :
    ∃ k, (nalPackets timestamp isLastNal nal seq).map marked
        = List.replicate k false ++ [isLastNal] ∧
      ∀ d ∈ nalPackets timestamp isLastNal nal seq, stamped timestamp d = true := by
  by_cases hsmall : nal.length ≤ MAX_PAYLOAD_SIZE
  · rw [nalPackets_of_le timestamp isLastNal seq hnal hsmall]
    refine ⟨0, ?_, ?_⟩
    · rw [List.map_singleton, marked_pack]
      rfl
    · intro d hd
      rw [List.mem_singleton.mp hd]
      exact stamped_pack _ _ _ _
  · rw [nalPackets_of_lt timestamp isLastNal seq (Nat.not_le.mp hsmall)]
    apply marked_fragmentPackets
    unfold MAX_PAYLOAD_SIZE at hsmall
    rw [List.length_drop]
    omega

/-! ### The frame -/

/-- An empty NAL unit has no packets. -/
@[simp] theorem nalPackets_nil (timestamp : UInt32) (isLastNal : Bool) (seq : UInt16) :
    nalPackets timestamp isLastNal [] seq = [] := rfl

/-- All packets of a frame carry its timestamp. -/
theorem stamped_framePackets (timestamp : UInt32) (numNals i : Nat) (nals : List Nal)
    (seq : UInt16) :
    ∀ d ∈ (framePackets timestamp numNals i nals seq).flatten, stamped timestamp d = true := by
  induction nals generalizing i seq with
  | nil =>
    intro d hd
    simp [framePackets] at hd
  | cons nal nals ih =>
    intro d hd
    simp only [framePackets, List.flatten_cons, List.mem_append] at hd
    rcases hd with hd | hd
    · by_cases hnal : nal = []
      · subst hnal
        simp [nalPackets] at hd
      · obtain ⟨-, -, hstamp⟩ := marked_nalPackets timestamp (i == numNals - 1) nal seq hnal
        exact hstamp d hd
    · exact ih _ _ d hd

/-- A frame has no packets exactly when all its NAL units are empty. The loop skips only those. -/
theorem framePackets_eq_nil_iff (timestamp : UInt32) (numNals i : Nat) (nals : List Nal)
    (seq : UInt16) :
    (framePackets timestamp numNals i nals seq).flatten = [] ↔ ∀ nal ∈ nals, nal = [] := by
  induction nals generalizing i seq with
  | nil => simp [framePackets]
  | cons nal nals ih =>
    simp only [framePackets, List.flatten_cons, List.append_eq_nil_iff, List.forall_mem_cons, ih]
    refine and_congr_left fun _ => ⟨fun h => ?_, fun h => by rw [h]; rfl⟩
    -- A NAL unit that is not empty has a packet, since it has a last marker bit.
    by_contra hnal
    obtain ⟨k, hk, -⟩ := marked_nalPackets timestamp (i == numNals - 1) nal seq hnal
    rw [h] at hk
    simp at hk

/-- The marker bits of the packets of a frame, from the NAL unit `i` on: at most one is set, on
the last packet, and only when the last NAL unit is not empty. The code compares the index of a
NAL unit with the last index, so an empty last one takes the marker bit with it. -/
theorem marked_framePackets (timestamp : UInt32) (numNals i : Nat) (nals : List Nal)
    (seq : UInt16) (hi : i + nals.length = numNals) :
    ∃ k, (framePackets timestamp numNals i nals seq).flatten.map marked
      = List.replicate k false
        ++ (if nals.getLast?.any (fun nal => nal ≠ []) then [true] else []) := by
  induction nals generalizing i seq with
  | nil => exact ⟨0, rfl⟩
  | cons nal nals ih =>
    simp only [framePackets, List.flatten_cons, List.map_append]
    cases nals with
    | nil =>
      -- `i` is the last index.
      have hlast : (i == numNals - 1) = true := by
        simp only [List.length_cons, List.length_nil] at hi
        simp only [beq_iff_eq]
        omega
      rw [hlast]
      by_cases hnal : nal = []
      · exact ⟨0, by simp [framePackets, hnal]⟩
      · obtain ⟨k, hk, -⟩ := marked_nalPackets timestamp true nal seq hnal
        exact ⟨k, by simp [hk, framePackets, hnal]⟩
    | cons next nals =>
      -- Another NAL unit follows, so the packets of this one have no marker bit.
      have hlast : (i == numNals - 1) = false := by
        simp only [List.length_cons] at hi
        simp only [beq_eq_false_iff_ne]
        omega
      obtain ⟨k, hk⟩ := ih (i + 1) (seq + UInt16.ofNat
        (nalPackets timestamp (i == numNals - 1) nal seq).length)
        (by simp only [List.length_cons] at hi ⊢; omega)
      rw [hk, List.getLast?_cons_cons, hlast]
      by_cases hnal : nal = []
      · exact ⟨k, by simp [hnal]⟩
      · obtain ⟨k', hk', -⟩ := marked_nalPackets timestamp false nal seq hnal
        refine ⟨k' + 1 + k, ?_⟩
        rw [hk', ← List.append_assoc, ← List.replicate_append_replicate, List.replicate_succ']

/-- The packets of a frame are delimited exactly when the frame ends with a NAL unit that is
sent, or sends nothing. In the other case there are packets, and none of them is marked. -/
theorem frameDelimited_iff (timestamp : UInt32) (nals : List Nal) (seq : UInt16) :
    FrameDelimited timestamp (framePackets timestamp nals.length 0 nals seq).flatten
      ↔ FrameClosed nals := by
  obtain ⟨k, hk⟩ := marked_framePackets timestamp nals.length 0 nals seq (Nat.zero_add _)
  have hstamp := stamped_framePackets timestamp nals.length 0 nals seq
  have hempty := framePackets_eq_nil_iff timestamp nals.length 0 nals seq
  generalize (framePackets timestamp nals.length 0 nals seq).flatten = sent at *
  constructor
  · intro h
    by_cases hsent : sent = []
    · exact Or.inr (hempty.mp hsent)
    · left
      obtain ⟨⟨init, last, rfl, hmark, -⟩, -⟩ := h hsent
      -- The last packet is marked, so the list of marker bits does not end with `false`.
      by_contra hopen
      have hany : nals.getLast?.any (fun nal => decide (nal ≠ [])) = false := by
        cases hl : nals.getLast? with
        | none => rfl
        | some nal =>
          by_contra hne
          exact hopen ⟨nal, hl, by simpa using hne⟩
      rw [hany] at hk
      have hmem : marked last ∈ List.replicate k false := by
        have : marked last ∈ (init ++ [last]).map marked := List.mem_map_of_mem (by simp)
        rw [hk] at this
        simpa using this
      rw [hmark] at hmem
      exact absurd (List.eq_of_mem_replicate hmem) (by decide)
  · rintro (⟨nal, hl, hnal⟩ | hall) hsent
    · -- The list of marker bits ends with its only `true`.
      rw [hl] at hk
      simp only [Option.any_some, decide_not, hnal, decide_false, Bool.not_false, if_true] at hk
      obtain ⟨init, last, rfl⟩ : ∃ init last, sent = init ++ [last] :=
        ⟨_, _, (List.dropLast_concat_getLast hsent).symm⟩
      rw [List.map_append, List.map_singleton] at hk
      obtain ⟨hinit, hlast⟩ := List.append_inj' hk rfl
      refine ⟨⟨init, last, rfl, by simpa using hlast, fun d hd => ?_⟩, hstamp⟩
      have : marked d ∈ init.map marked := List.mem_map_of_mem hd
      rw [hinit] at this
      exact List.eq_of_mem_replicate this
    · exact absurd (hempty.mpr hall) hsent

/-- In a sequence of calls on an open socket, without send failures, every call delimits its
frame exactly when every frame ends with a NAL unit that is sent, or sends nothing. -/
theorem callWires_delimited_iff {net : Nat → Bool} (hnet : ∀ k, net k = true) (st : State)
    (hsock : 0 ≤ st.udpSocket) (calls : List Call) :
    List.Forall₂ (fun call sent => FrameDelimited call.timestamp sent) calls
        (callWires net st calls)
      ↔ ∀ call ∈ calls, FrameClosed call.nals := by
  induction calls generalizing st with
  | nil => simp [callWires]
  | cons call calls ih =>
    have hsock' : 0 ≤ (runCall net st call).udpSocket := by
      rw [(runCall_sent hnet st call hsock).2]
      exact hsock
    rw [callWires, List.forall₂_cons, callWire_eq hnet st call hsock, frameDelimited_iff,
      ih _ hsock', List.forall_mem_cons]

/-- A frame of one NAL unit, and a frame whose last NAL unit is empty. -/
def twoFrames : List Call := [⟨[[0x65]], 7⟩, ⟨[[0x65], []], 8⟩]

/-- The equivalence at `twoFrames`, where the second frame fails. -/
theorem callWires_delimited_iff_twoFrames :
    List.Forall₂ (fun (call : Call) sent => FrameDelimited call.timestamp sent) twoFrames
        (callWires (fun _ => true) (downlinkInit 3) twoFrames)
      ↔ ∀ call ∈ twoFrames, FrameClosed call.nals :=
  callWires_delimited_iff (fun _ => rfl) (downlinkInit 3) (by decide) twoFrames

/-- A frame of a one-byte NAL unit and an empty one: its only datagram is not marked. -/
theorem not_frameDelimited_trailing_empty :
    ¬ FrameDelimited 0 (callWire (fun _ => true) (downlinkInit 3) ⟨[[0x65], []], 0⟩) := by
  rw [callWire_eq (fun _ => rfl) (downlinkInit 3) _ (by decide), frameDelimited_iff]
  rintro (⟨nal, hlast, hnal⟩ | hall)
  · cases hlast
    exact hnal rfl
  · exact absurd (hall [0x65] (by simp)) (by simp)

end DoomSat.Downlink
