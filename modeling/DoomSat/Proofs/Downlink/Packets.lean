import DoomSat.Model.Downlink
import DoomSat.Support.BigEndian

/-!
# `DoomSat.Proofs.Downlink.Packets`: the sender as packetiser and transmitter

`downlinkSendNals` mixes three things: it cuts NAL units into datagrams, it numbers them,
and it stops at the first failing `sendto`. This module separates them.

* `framePackets` is the list of datagrams of one frame, as a function of the NAL units, the
  timestamp and the first sequence number. `nalPackets` and `fragmentPackets` are its parts.
* `transmit` sends a list of datagrams in order, up to the first failure.

`downlinkSendNals_eq` states that an accepted call is `transmit` of `framePackets`. Under a
network without failures, `runCall_sent` gives the wire after one call, and `callWire_eq` the
datagrams of that call.

`fuHeaderByte_bits` and `fuIndicatorByte_bits` are the facts about the two FU bytes that both the
fragmentation and the reassembly use. `length_framePackets_le` bounds the number of datagrams.
-/

set_option autoImplicit false

namespace DoomSat.Downlink

open Support (forall_byte)

/-! ### The transmitter -/

/-- The state after a datagram left the socket. -/
def sendOne (st : State) (packet : Datagram) : State :=
  countSent { st with sendCalls := st.sendCalls + 1, wire := st.wire ++ [packet] } packet.length

/-- Sends the datagrams in order and stops at the first failure. -/
def transmit (net : Nat → Bool) : List Datagram → State → Bool × State
  | [], st => (true, st)
  | packet :: packets, st =>
    if net st.sendCalls then transmit net packets (sendOne st packet)
    else (false, { st with sendCalls := st.sendCalls + 1 })

/-- Transmitting a concatenation transmits the second part after the first one succeeded. -/
theorem transmit_append (net : Nat → Bool) (ps qs : List Datagram) (st : State) :
    transmit net (ps ++ qs) st
      = match transmit net ps st with
        | (true, st') => transmit net qs st'
        | (false, st') => (false, st') := by
  induction ps generalizing st with
  | nil => rfl
  | cons p ps ih =>
    simp only [List.cons_append, transmit]
    split
    · exact ih _
    · rfl

/-- A full transmission advances the sequence number by the number of datagrams. -/
theorem transmit_seq (net : Nat → Bool) (ps : List Datagram) (st st' : State)
    (h : transmit net ps st = (true, st')) :
    st'.rtpSeqNumber = st.rtpSeqNumber + UInt16.ofNat ps.length := by
  induction ps generalizing st with
  | nil =>
    cases h
    simp
  | cons p ps ih =>
    unfold transmit at h
    split at h
    · -- One datagram and then the others. The sum is modulo 2^16 on both sides.
      rw [ih _ h]
      show st.rtpSeqNumber + 1 + UInt16.ofNat ps.length = _
      rw [List.length_cons, UInt16.ofNat_add, UInt16.add_assoc, UInt16.add_comm 1]
      rfl
    · cases h

/-- Without failures the datagrams are all on the wire, behind what was there. -/
theorem transmit_wire {net : Nat → Bool} (hnet : ∀ k, net k = true) (ps : List Datagram)
    (st : State) :
    ∃ st', transmit net ps st = (true, st') ∧ st'.wire = st.wire ++ ps ∧
      st'.udpSocket = st.udpSocket := by
  induction ps generalizing st with
  | nil => exact ⟨st, rfl, (List.append_nil _).symm, rfl⟩
  | cons p ps ih =>
    obtain ⟨st', hrun, hwire, hsock⟩ := ih (sendOne st p)
    refine ⟨st', ?_, ?_, hsock⟩
    · rw [transmit, if_pos (hnet _)]
      exact hrun
    · rw [hwire]
      show st.wire ++ [p] ++ ps = _
      rw [List.append_assoc]
      rfl

/-! ### The packetiser -/

/-- A fragment takes no more than what is left. -/
theorem fragSize_le (remaining : Nat) : fragSize remaining ≤ remaining := by
  unfold fragSize
  split <;> omega

/-- A fragment takes no more than the room of a datagram. -/
theorem fragSize_le_max (remaining : Nat) : fragSize remaining ≤ maxFragPayload := by
  unfold fragSize
  split <;> omega

/-- The next FU-A datagram for what is left of a NAL unit. `isFirst` tells whether it is the
first one of the NAL unit. -/
def headPacket (timestamp : UInt32) (isLastNal : Bool) (fuIndicator nalType : UInt8)
    (payload : List UInt8) (isFirst : Bool) (seq : UInt16) : Datagram :=
  let isLastFrag := fragSize payload.length == payload.length
  fragmentPacket seq timestamp (if isLastNal && isLastFrag then 1 else 0) fuIndicator nalType
    isFirst isLastFrag (payload.take (fragSize payload.length))

/-- The FU-A datagrams for what is left of a NAL unit. -/
def fragmentPackets (timestamp : UInt32) (isLastNal : Bool) (fuIndicator nalType : UInt8)
    (payload : List UInt8) (isFirst : Bool) (seq : UInt16) : List Datagram :=
  if _h : payload.length > 0 then
    headPacket timestamp isLastNal fuIndicator nalType payload isFirst seq
      :: fragmentPackets timestamp isLastNal fuIndicator nalType
        (payload.drop (fragSize payload.length)) false (seq + 1)
  else []
termination_by payload.length
decreasing_by exact length_drop_fragSize _h

/-- The datagrams of one NAL unit. -/
def nalPackets (timestamp : UInt32) (isLastNal : Bool) (nal : Nal) (seq : UInt16) :
    List Datagram :=
  if nal.length = 0 then []
  else if nal.length ≤ MAX_PAYLOAD_SIZE then
    [packRtpHeader seq timestamp (if isLastNal then 1 else 0) ++ nal]
  else
    fragmentPackets timestamp isLastNal ((nal.headD 0 &&& 0xE0) ||| 28) (nal.headD 0 &&& 0x1F)
      (nal.drop 1) true seq

/-- A NAL unit that fits in a datagram is one datagram. -/
theorem nalPackets_of_le (timestamp : UInt32) (isLastNal : Bool) {nal : Nal} (seq : UInt16)
    (hne : nal ≠ []) (hsmall : nal.length ≤ MAX_PAYLOAD_SIZE) :
    nalPackets timestamp isLastNal nal seq
      = [packRtpHeader seq timestamp (if isLastNal then 1 else 0) ++ nal] := by
  have hlen : ¬ nal.length = 0 := fun h => hne (List.length_eq_zero_iff.mp h)
  rw [nalPackets, if_neg hlen, if_pos hsmall]

/-- A longer NAL unit is cut behind its header byte. -/
theorem nalPackets_of_lt (timestamp : UInt32) (isLastNal : Bool) {nal : Nal} (seq : UInt16)
    (hbig : MAX_PAYLOAD_SIZE < nal.length) :
    nalPackets timestamp isLastNal nal seq
      = fragmentPackets timestamp isLastNal ((nal.headD 0 &&& 0xE0) ||| 28)
        (nal.headD 0 &&& 0x1F) (nal.drop 1) true seq := by
  have hlen : ¬ nal.length = 0 := by omega
  rw [nalPackets, if_neg hlen, if_neg (Nat.not_le.mpr hbig)]

/-- The datagrams of the NAL units from index `i` on, NAL unit by NAL unit. -/
def framePackets (timestamp : UInt32) (numNals : Nat) :
    Nat → List Nal → UInt16 → List (List Datagram)
  | _, [], _ => []
  | i, nal :: nals, seq =>
    let packets := nalPackets timestamp (i == numNals - 1) nal seq
    packets :: framePackets timestamp numNals (i + 1) nals (seq + UInt16.ofNat packets.length)

/-! ### The two FU bytes -/

/-- The FU header byte of a NAL type, with the two bits that the loop sets. -/
def fuHeaderByte (nalType : UInt8) (isFirst isLast : Bool) : UInt8 :=
  let fuHeader := if isFirst then nalType ||| 0x80 else nalType
  if isLast then fuHeader ||| 0x40 else fuHeader

/-- The bits of the FU header byte, for every NAL header and both flags. -/
theorem fuHeaderByte_bits (nalHeader : UInt8) (isFirst isLast : Bool) :
    ((fuHeaderByte (nalHeader &&& 0x1F) isFirst isLast &&& 0x80 ≠ 0 ↔ isFirst = true) ∧
      (fuHeaderByte (nalHeader &&& 0x1F) isFirst isLast &&& 0x40 ≠ 0 ↔ isLast = true)) ∧
    fuHeaderByte (nalHeader &&& 0x1F) isFirst isLast &&& 0x20 = 0 ∧
    fuHeaderByte (nalHeader &&& 0x1F) isFirst isLast &&& 0x1F = nalHeader &&& 0x1F := by
  revert nalHeader
  cases isFirst <;> cases isLast <;> exact forall_byte (by decide +kernel)

/-- The bits of the FU indicator byte, for every NAL header. -/
theorem fuIndicatorByte_bits (nalHeader : UInt8) :
    ((nalHeader &&& 0xE0) ||| 28) &&& 0xE0 = nalHeader &&& 0xE0 ∧
      ((nalHeader &&& 0xE0) ||| 28) &&& 0x1F = 28 := by
  revert nalHeader
  exact forall_byte (by decide +kernel)

/-- The header byte of a NAL unit is split over the two FU bytes. -/
theorem nalHeader_split (nalHeader : UInt8) :
    (nalHeader &&& 0xE0) ||| (nalHeader &&& 0x1F) = nalHeader := by
  revert nalHeader
  exact forall_byte (by decide +kernel)

/-! ### The number of packets -/

/-- Each fragment takes at least one byte of the payload. -/
theorem length_fragmentPackets_le (timestamp : UInt32) (isLastNal : Bool)
    (fuIndicator nalType : UInt8) (payload : List UInt8) (isFirst : Bool) (seq : UInt16) :
    (fragmentPackets timestamp isLastNal fuIndicator nalType payload isFirst seq).length
      ≤ payload.length := by
  rw [fragmentPackets]
  by_cases hpos : payload.length > 0
  · have hshorter := length_drop_fragSize hpos
    have hrest := length_fragmentPackets_le timestamp isLastNal fuIndicator nalType
      (payload.drop (fragSize payload.length)) false (seq + 1)
    rw [dif_pos hpos, List.length_cons]
    omega
  · rw [dif_neg hpos]
    exact Nat.zero_le _
termination_by payload.length
decreasing_by exact length_drop_fragSize hpos

/-- A NAL unit takes at most one datagram for each of its bytes. -/
theorem length_nalPackets_le (timestamp : UInt32) (isLastNal : Bool) (nal : Nal)
    (seq : UInt16) : (nalPackets timestamp isLastNal nal seq).length ≤ nal.length := by
  unfold nalPackets
  split
  · exact Nat.zero_le _
  · next hne =>
    split
    · exact Nat.pos_of_ne_zero hne
    · refine (length_fragmentPackets_le ..).trans ?_
      rw [List.length_drop]
      exact Nat.sub_le _ _

/-- A frame takes at most one datagram for each byte of its NAL units. The source counts the
datagrams in an `int`, which is enough for NAL units of 2,147,483,647 bytes together. -/
theorem length_framePackets_le (timestamp : UInt32) (numNals i : Nat) (nals : List Nal)
    (seq : UInt16) :
    (framePackets timestamp numNals i nals seq).flatten.length
      ≤ (nals.map List.length).sum := by
  induction nals generalizing i seq with
  | nil => exact Nat.le_refl 0
  | cons nal nals ih =>
    rw [framePackets, List.flatten_cons, List.length_append, List.map_cons, List.sum_cons]
    exact Nat.add_le_add (length_nalPackets_le ..) (ih ..)

/-! ### The sender is the transmitter of the packets -/

/-- What `downlinkSendNals` and its loops make of a transmission. -/
def countedResult (packets : List Datagram) : Bool × State → Option Nat × State
  | (true, st) => (some packets.length, st)
  | (false, st) => (none, st)

/-- The fragment loop transmits the fragment packets. The recursion of the proof is the one
of the loop: the next call starts after this datagram, at `fragIndex + 1`. -/
theorem sendFragments_eq (net : Nat → Bool) (timestamp : UInt32) (isLastNal : Bool)
    (fuIndicator nalType : UInt8) (payload : List UInt8) (fragIndex : Nat) (st : State) :
    sendFragments net timestamp isLastNal fuIndicator nalType payload fragIndex st
      = countedResult
          (fragmentPackets timestamp isLastNal fuIndicator nalType payload (fragIndex == 0)
            st.rtpSeqNumber)
          (transmit net
            (fragmentPackets timestamp isLastNal fuIndicator nalType payload (fragIndex == 0)
              st.rtpSeqNumber) st) := by
  rw [fragmentPackets, sendFragments]
  by_cases hpos : payload.length > 0
  · rw [dif_pos hpos, dif_pos hpos]
    have hpacket : fragmentPacket st.rtpSeqNumber timestamp
          (if isLastNal && fragSize payload.length == payload.length then 1 else 0)
          fuIndicator nalType (fragIndex == 0) (fragSize payload.length == payload.length)
          (payload.take (fragSize payload.length))
        = headPacket timestamp isLastNal fuIndicator nalType payload (fragIndex == 0)
          st.rtpSeqNumber := rfl
    simp only [hpacket, sendto, transmit]
    generalize headPacket timestamp isLastNal fuIndicator nalType payload (fragIndex == 0)
      st.rtpSeqNumber = packet
    have ih := sendFragments_eq net timestamp isLastNal fuIndicator nalType
      (payload.drop (fragSize payload.length)) (fragIndex + 1) (sendOne st packet)
    have hfirst : (fragIndex + 1 == 0) = false := by simp
    have hseq : (sendOne st packet).rtpSeqNumber = st.rtpSeqNumber + 1 := rfl
    have hone : countSent { st with sendCalls := st.sendCalls + 1, wire := st.wire ++ [packet] }
        packet.length = sendOne st packet := rfl
    rw [hfirst, hseq] at ih
    -- A failing `sendto` ends both sides. Otherwise both go on after this datagram.
    cases net st.sendCalls with
    | false => rfl
    | true =>
      simp only [if_true, hone, ih]
      cases transmit net _ (sendOne st packet) with
      | mk sent st' => cases sent <;> rfl
  · rw [dif_neg hpos, dif_neg hpos]
    rfl
termination_by payload.length
decreasing_by exact length_drop_fragSize hpos

/-- The loop body transmits the packets of the NAL unit. -/
theorem sendNal_eq (net : Nat → Bool) (timestamp : UInt32) (isLastNal : Bool) (nal : Nal)
    (st : State) :
    sendNal net timestamp isLastNal nal st
      = countedResult (nalPackets timestamp isLastNal nal st.rtpSeqNumber)
          (transmit net (nalPackets timestamp isLastNal nal st.rtpSeqNumber) st) := by
  unfold sendNal nalPackets
  -- The three cases of the loop body: an empty, a small and a large NAL unit.
  by_cases hempty : nal.length = 0
  · rw [if_pos hempty, if_pos hempty]
    rfl
  · rw [if_neg hempty, if_neg hempty]
    by_cases hsmall : nal.length ≤ MAX_PAYLOAD_SIZE
    · rw [if_pos hsmall, if_pos hsmall]
      simp only [sendSingleNal, sendto, transmit]
      cases net st.sendCalls <;> rfl
    · rw [if_neg hsmall, if_neg hsmall]
      exact sendFragments_eq net timestamp isLastNal _ _ _ 0 st

/-- The loop over the NAL units transmits the packets of the frame. -/
theorem sendNals_eq (net : Nat → Bool) (timestamp : UInt32) (numNals i : Nat)
    (nals : List Nal) (st : State) :
    sendNals net timestamp numNals i nals st
      = countedResult (framePackets timestamp numNals i nals st.rtpSeqNumber).flatten
          (transmit net (framePackets timestamp numNals i nals st.rtpSeqNumber).flatten st) := by
  induction nals generalizing i st with
  | nil => rfl
  | cons nal nals ih =>
    simp only [sendNals, framePackets, List.flatten_cons]
    rw [sendNal_eq, transmit_append]
    cases hrun : transmit net (nalPackets timestamp (i == numNals - 1) nal st.rtpSeqNumber) st with
    | mk sent st' =>
      cases sent with
      | false => rfl
      | true =>
        -- The next NAL unit starts with the sequence number that this one left.
        rw [← transmit_seq net _ st st' hrun]
        dsimp only [countedResult]
        rw [ih (i + 1) st']
        cases transmit net (framePackets timestamp numNals (i + 1) nals st'.rtpSeqNumber).flatten
            st' with
        | mk sent st'' => cases sent <;> simp [countedResult]

/-- An accepted call of `downlinkSendNals` transmits the packets of the frame. It returns
their number, or -1 when a `sendto` failed. -/
theorem downlinkSendNals_eq (net : Nat → Bool) (st : State) (nals : List Nal)
    (timestamp : UInt32) (hsock : 0 ≤ st.udpSocket) (hnals : nals ≠ []) :
    let packets := (framePackets timestamp nals.length 0 nals st.rtpSeqNumber).flatten
    downlinkSendNals net st (some nals) timestamp
      = (if (transmit net packets st).1 then (packets.length : Int) else -1,
        (transmit net packets st).2) := by
  intro packets
  have hreject : ¬ (st.udpSocket < 0 ∨ nals.length ≤ 0) := by
    have := List.length_pos_iff.mpr hnals
    omega
  unfold downlinkSendNals
  simp only [if_neg hreject, sendNals_eq]
  cases transmit net packets st with
  | mk sent st' => cases sent <;> rfl

/-! ### A network without failures -/

/-- The datagrams that each NAL unit puts on the wire, from index `i` on. -/
def nalWiresFrom (net : Nat → Bool) (timestamp : UInt32) (numNals : Nat) :
    Nat → List Nal → State → List (List Datagram)
  | _, [], _ => []
  | i, nal :: nals, st =>
    let st' := (sendNal net timestamp (i == numNals - 1) nal st).2
    st'.wire.drop st.wire.length :: nalWiresFrom net timestamp numNals (i + 1) nals st'

/-- The datagrams that each NAL unit of a call puts on the wire. A closed socket sends
nothing. -/
def nalWires (net : Nat → Bool) (st : State) (call : Call) : List (List Datagram) :=
  if st.udpSocket < 0 then call.nals.map fun _ => []
  else nalWiresFrom net call.timestamp call.nals.length 0 call.nals st

section
variable {net : Nat → Bool} (hnet : ∀ k, net k = true)
include hnet

/-- A call on an open socket puts the packets of its frame on the wire. -/
theorem runCall_sent (st : State) (call : Call) (hsock : 0 ≤ st.udpSocket) :
    (runCall net st call).wire = st.wire
        ++ (framePackets call.timestamp call.nals.length 0 call.nals st.rtpSeqNumber).flatten ∧
      (runCall net st call).udpSocket = st.udpSocket := by
  unfold runCall
  by_cases hnals : call.nals = []
  · -- The call is rejected, and its frame has no packets.
    have hreject : st.udpSocket < 0 ∨ call.nals.length ≤ 0 := by simp [hnals]
    rw [downlinkSendNals]
    simp [hnals, framePackets]
  · obtain ⟨st', hrun, hwire, hsock'⟩ := transmit_wire hnet
      (framePackets call.timestamp call.nals.length 0 call.nals st.rtpSeqNumber).flatten st
    rw [downlinkSendNals_eq net st call.nals call.timestamp hsock hnals, hrun]
    exact ⟨hwire, hsock'⟩

/-- The datagrams of one call are the packets of its frame. -/
theorem callWire_eq (st : State) (call : Call) (hsock : 0 ≤ st.udpSocket) :
    callWire net st call
      = (framePackets call.timestamp call.nals.length 0 call.nals st.rtpSeqNumber).flatten := by
  show (runCall net st call).wire.drop st.wire.length = _
  rw [(runCall_sent hnet st call hsock).1, List.drop_left]

/-- The datagrams of each NAL unit are its packets. -/
theorem nalWiresFrom_eq (timestamp : UInt32) (numNals i : Nat) (nals : List Nal)
    (st : State) :
    nalWiresFrom net timestamp numNals i nals st
      = framePackets timestamp numNals i nals st.rtpSeqNumber := by
  induction nals generalizing i st with
  | nil => rfl
  | cons nal nals ih =>
    obtain ⟨st', hrun, hwire, -⟩ := transmit_wire hnet
      (nalPackets timestamp (i == numNals - 1) nal st.rtpSeqNumber) st
    have hsend : (sendNal net timestamp (i == numNals - 1) nal st).2 = st' := by
      rw [sendNal_eq, hrun]
      rfl
    rw [nalWiresFrom, framePackets, hsend, ih, hwire, List.drop_left,
      transmit_seq net _ st st' hrun]

/-- With an open socket, the datagrams of a call are those of its frame. -/
theorem nalWires_eq (st : State) (call : Call) (hsock : 0 ≤ st.udpSocket) :
    nalWires net st call
      = framePackets call.timestamp call.nals.length 0 call.nals st.rtpSeqNumber := by
  unfold nalWires
  rw [if_neg (Int.not_lt.mpr hsock)]
  exact nalWiresFrom_eq hnet _ _ _ _ _

end

/-- The packets of a NAL unit inside a frame are those of the NAL unit on its own, for some
sequence number. -/
theorem exists_nalPackets_of_framePackets (timestamp : UInt32) (numNals i : Nat)
    (seq : UInt16) {nals : List Nal} {j : Nat} {nal : Nal} (hnal : nals[j]? = some nal) :
    ∃ isLastNal seq', (framePackets timestamp numNals i nals seq)[j]?
      = some (nalPackets timestamp isLastNal nal seq') := by
  induction nals generalizing i j seq with
  | nil => simp at hnal
  | cons n nals ih =>
    cases j with
    | zero =>
      cases hnal
      exact ⟨_, _, rfl⟩
    | succ j => exact ih _ _ hnal

end DoomSat.Downlink
