import DoomSat.Proofs.Downlink.Accounting
import DoomSat.Support.Chunks

/-!
# `DoomSat.Proofs.Downlink.Fragments`: the FU-A fragments of a NAL unit

The fragment loop cuts the bytes behind the NAL header into pieces of `maxFragPayload` bytes.
`fragmentPackets_eq` states this with the `chunks` of `Support.Chunks`: the `k`-th datagram
carries the `k`-th piece, the start bit belongs to the first piece and the end bit to the last.

`WellFragmented` is the contract for the datagrams of one NAL unit, and
`nalPackets_wellFragmented` proves it. `sendNal_wellFragmented` adds what goes out: these
datagrams, or the first ones of them when a `sendto` fails.
-/

set_option autoImplicit false

namespace DoomSat.Downlink

open Support

/-! ### The pieces of the loop -/

/-- The `k`-th of `count` fragment datagrams, with this piece of the NAL unit. -/
def indexedPacket (timestamp : UInt32) (isLastNal : Bool) (fuIndicator nalType : UInt8)
    (isFirst : Bool) (seq : UInt16) (count k : Nat) (piece : List UInt8) : Datagram :=
  fragmentPacket (seq + UInt16.ofNat k) timestamp
    (if isLastNal && (k + 1 == count) then 1 else 0) fuIndicator nalType
    (isFirst && k == 0) (k + 1 == count) piece

/-- A fragment has room for a byte of the NAL unit, so the loop comes to its end. -/
theorem maxFragPayload_pos : 0 < maxFragPayload := by decide

/-- The first bytes that a fragment takes are the first piece. -/
theorem take_fragSize (payload : List UInt8) :
    payload.take (fragSize payload.length) = payload.take maxFragPayload := by
  unfold fragSize
  split
  · rfl
  · rw [List.take_length, List.take_of_length_le (by omega)]

/-- The bytes that a fragment leaves are the ones behind the first piece. -/
theorem drop_fragSize (payload : List UInt8) :
    payload.drop (fragSize payload.length) = payload.drop maxFragPayload := by
  unfold fragSize
  split
  · rfl
  · rw [List.drop_length, List.drop_of_length_le (by omega)]

/-- A fragment is the last one exactly when no piece is left behind it. The code compares the
size of the fragment with what remains, so a payload of exactly one piece is a last fragment. -/
theorem fragSize_eq_iff {payload : List UInt8} :
    fragSize payload.length = payload.length
      ↔ chunks maxFragPayload (payload.drop maxFragPayload) = [] := by
  have hcount := length_chunks maxFragPayload_pos (payload.drop maxFragPayload)
  rw [← List.length_eq_zero_iff, hcount, List.length_drop, Nat.ceilDiv_eq_add_pred_div]
  unfold fragSize maxFragPayload MAX_PAYLOAD_SIZE
  split <;> omega

/-- The first piece makes the datagram of this round. The code knows that it is the last one
from the bytes that remain, and the piece knows it from the number of pieces. -/
theorem headPacket_eq (timestamp : UInt32) (isLastNal : Bool) (fuIndicator nalType : UInt8)
    (payload : List UInt8) (isFirst : Bool) (seq : UInt16) :
    headPacket timestamp isLastNal fuIndicator nalType payload isFirst seq
      = indexedPacket timestamp isLastNal fuIndicator nalType isFirst seq
        ((chunks maxFragPayload (payload.drop maxFragPayload)).length + 1) 0
        (payload.take maxFragPayload) := by
  have hlast : (fragSize payload.length == payload.length)
      = (0 + 1 == (chunks maxFragPayload (payload.drop maxFragPayload)).length + 1) := by
    rw [Bool.eq_iff_iff, beq_iff_eq, beq_iff_eq, fragSize_eq_iff, ← List.length_eq_zero_iff]
    omega
  show fragmentPacket seq timestamp _ fuIndicator nalType isFirst _ _
    = fragmentPacket (seq + 0) timestamp _ fuIndicator nalType (isFirst && true) _ _
  rw [hlast, take_fragSize, UInt16.add_zero, Bool.and_true]

/-- The pieces behind the first one make the datagrams of the next rounds. -/
theorem indexedPacket_succ (timestamp : UInt32) (isLastNal : Bool)
    (fuIndicator nalType : UInt8) (isFirst : Bool) (seq : UInt16) (count k : Nat)
    (piece : List UInt8) :
    indexedPacket timestamp isLastNal fuIndicator nalType isFirst seq (count + 1) (k + 1) piece
      = indexedPacket timestamp isLastNal fuIndicator nalType false (seq + 1) count k
        piece := by
  have hseq : seq + UInt16.ofNat (k + 1) = seq + 1 + UInt16.ofNat k := by
    rw [UInt16.add_assoc, Nat.add_comm, UInt16.ofNat_add]
    rfl
  have hfirst : (isFirst && (k + 1 == 0)) = (false && (k == 0)) := by simp
  have hlast : (k + 1 + 1 == count + 1) = (k + 1 == count) := by
    rw [Bool.eq_iff_iff, beq_iff_eq, beq_iff_eq, Nat.add_right_cancel_iff]
  show fragmentPacket _ timestamp _ fuIndicator nalType _ _ piece = _
  rw [hseq, hfirst, hlast]
  rfl

/-- The datagrams of the fragment loop, piece by piece. The induction cuts one piece off, as
one round of the loop does. -/
theorem fragmentPackets_eq (timestamp : UInt32) (isLastNal : Bool)
    (fuIndicator nalType : UInt8) (payload : List UInt8) (isFirst : Bool) (seq : UInt16) :
    fragmentPackets timestamp isLastNal fuIndicator nalType payload isFirst seq
      = (chunks maxFragPayload payload).mapIdx
        (indexedPacket timestamp isLastNal fuIndicator nalType isFirst seq
          (chunks maxFragPayload payload).length) := by
  induction payload using chunks_induction maxFragPayload_pos generalizing isFirst seq with
  | hnil =>
    rw [fragmentPackets]
    simp
  | hstep payload hpos ih =>
    rw [fragmentPackets, dif_pos hpos, chunks_of_pos hpos maxFragPayload_pos, drop_fragSize,
      ih, List.mapIdx_cons, headPacket_eq]
    congr 2
    funext k piece
    exact (indexedPacket_succ timestamp isLastNal fuIndicator nalType isFirst seq _ k
      piece).symm

/-! ### The contract of the fragmentation -/

/-- The FU indicator of a fragment datagram, behind the RTP header. -/
def fuIndicatorOf (packet : Datagram) : UInt8 := packet.getD 8 0

/-- The FU header of a fragment datagram. -/
def fuHeaderOf (packet : Datagram) : UInt8 := packet.getD 9 0

/-- The S bit of the FU header. -/
def startBit (packet : Datagram) : Bool := fuHeaderOf packet &&& 0x80 ≠ 0

/-- The E bit of the FU header. -/
def endBit (packet : Datagram) : Bool := fuHeaderOf packet &&& 0x40 ≠ 0

/-- The fragment that a fragment datagram carries. -/
def fragmentBytes (packet : Datagram) : List UInt8 := packet.drop 10

/-- The datagrams of a NAL unit that is cut into FU-A fragments. -/
structure WellFragmented (nal : Nal) (packets : List Datagram) : Prop where
  /-- A fragment takes 1,462 of the bytes behind the NAL header. -/
  count : packets.length = (nal.length - 1) ⌈/⌉ 1462
  two_le : 2 ≤ packets.length
  /-- The IP and UDP headers have 28 bytes. -/
  size : ∀ d ∈ packets, d.length ≤ 1472 ∧ d.length + 28 ≤ 1500 ∧ fragmentBytes d ≠ []
  contents : (packets.map fragmentBytes).flatten = nal.drop 1
  start_iff : ∀ k d, packets[k]? = some d → (startBit d = true ↔ k = 0)
  end_iff : ∀ k d, packets[k]? = some d → (endBit d = true ↔ k + 1 = packets.length)
  not_both : ∀ d ∈ packets, ¬ (startBit d = true ∧ endBit d = true)
  reserved : ∀ d ∈ packets, fuHeaderOf d &&& 0x20 = 0
  indicator : ∀ d ∈ packets, fuIndicatorOf d &&& 0xE0 = nal.headD 0 &&& 0xE0 ∧
    fuIndicatorOf d &&& 0x1F = 28
  type : ∀ d ∈ packets, fuHeaderOf d &&& 0x1F = nal.headD 0 &&& 0x1F

/-- The size of a fragment datagram and the fragment in it. -/
theorem indexedPacket_bytes (timestamp : UInt32) (isLastNal : Bool)
    (fuIndicator nalType : UInt8) (isFirst : Bool) (seq : UInt16) (count k : Nat)
    (piece : List UInt8) :
    let d := indexedPacket timestamp isLastNal fuIndicator nalType isFirst seq count k piece
    fragmentBytes d = piece ∧ d.length = piece.length + 10 :=
  ⟨rfl, rfl⟩

/-- The two FU bytes of the `k`-th datagram of a NAL unit: the start bit marks the first one and
the end bit the last one, and the other bits are those of the NAL header. -/
theorem indexedPacket_fu (timestamp : UInt32) (isLastNal : Bool) (nalHeader : UInt8)
    (seq : UInt16) (count k : Nat) (piece : List UInt8) :
    let d := indexedPacket timestamp isLastNal ((nalHeader &&& 0xE0) ||| 28)
      (nalHeader &&& 0x1F) true seq count k piece
    ((startBit d = true ↔ k = 0) ∧ (endBit d = true ↔ k + 1 = count)) ∧
      fuHeaderOf d &&& 0x20 = 0 ∧ fuHeaderOf d &&& 0x1F = nalHeader &&& 0x1F ∧
      fuIndicatorOf d &&& 0xE0 = nalHeader &&& 0xE0 ∧ fuIndicatorOf d &&& 0x1F = 28 := by
  intro d
  have hheader : fuHeaderOf d
      = fuHeaderByte (nalHeader &&& 0x1F) (true && k == 0) (k + 1 == count) := rfl
  have hindicator : fuIndicatorOf d = (nalHeader &&& 0xE0) ||| 28 := rfl
  obtain ⟨⟨hstart, hend⟩, hreserved, htype⟩ :=
    fuHeaderByte_bits nalHeader (true && k == 0) (k + 1 == count)
  rw [← hheader] at hstart hend hreserved htype
  refine ⟨⟨?_, ?_⟩, hreserved, htype, hindicator ▸ fuIndicatorByte_bits nalHeader⟩
  · show decide (fuHeaderOf d &&& 0x80 ≠ 0) = true ↔ _
    rw [decide_eq_true_iff, hstart, Bool.true_and, beq_iff_eq]
  · show decide (fuHeaderOf d &&& 0x40 ≠ 0) = true ↔ _
    rw [decide_eq_true_iff, hend, beq_iff_eq]

/-- The datagrams of the pieces of a NAL unit meet the contract. It is enough to know of the
pieces that there are two or more, that they join to the NAL unit without its header, and that
none is empty or too long. -/
theorem indexedPackets_wellFragmented (timestamp : UInt32) (isLastNal : Bool) {nal : Nal}
    (seq : UInt16) {pieces : List (List UInt8)}
    (hcount : pieces.length = (nal.length - 1) ⌈/⌉ 1462) (htwo : 2 ≤ pieces.length)
    (hcontents : pieces.flatten = nal.drop 1)
    (hsize : ∀ piece ∈ pieces, piece ≠ [] ∧ piece.length ≤ 1462) :
    WellFragmented nal (pieces.mapIdx (indexedPacket timestamp isLastNal
      ((nal.headD 0 &&& 0xE0) ||| 28) (nal.headD 0 &&& 0x1F) true seq pieces.length)) := by
  generalize hpackets : pieces.mapIdx (indexedPacket timestamp isLastNal
    ((nal.headD 0 &&& 0xE0) ||| 28) (nal.headD 0 &&& 0x1F) true seq pieces.length) = packets
  have hlen : packets.length = pieces.length := by rw [← hpackets, List.length_mapIdx]
  -- Every datagram is the one of a piece, with the index of the piece.
  have hat : ∀ k d, packets[k]? = some d → ∃ piece, pieces[k]? = some piece ∧
      d = indexedPacket timestamp isLastNal ((nal.headD 0 &&& 0xE0) ||| 28)
        (nal.headD 0 &&& 0x1F) true seq pieces.length k piece := by
    intro k d hd
    rw [← hpackets, List.getElem?_mapIdx] at hd
    obtain ⟨piece, hpiece, rfl⟩ := Option.map_eq_some_iff.mp hd
    exact ⟨piece, hpiece, rfl⟩
  have hmem : ∀ d ∈ packets, ∃ k piece, pieces[k]? = some piece ∧
      d = indexedPacket timestamp isLastNal ((nal.headD 0 &&& 0xE0) ||| 28)
        (nal.headD 0 &&& 0x1F) true seq pieces.length k piece := by
    intro d hd
    obtain ⟨k, hk⟩ := List.getElem?_of_mem hd
    exact ⟨k, hat k d hk⟩
  -- Each clause speaks of a datagram, so it is shown for the piece with the same index.
  constructor
  case count => rw [hlen, hcount]
  case two_le => rw [hlen]; exact htwo
  case size =>
    intro d hd
    obtain ⟨k, piece, hpiece, rfl⟩ := hmem d hd
    obtain ⟨hne, hle⟩ := hsize piece (List.mem_of_getElem? hpiece)
    obtain ⟨hbytes, hlength⟩ := indexedPacket_bytes timestamp isLastNal
      ((nal.headD 0 &&& 0xE0) ||| 28) (nal.headD 0 &&& 0x1F) true seq pieces.length k piece
    rw [hbytes, hlength]
    exact ⟨by omega, by omega, hne⟩
  case contents =>
    rw [← hcontents, ← hpackets]
    congr 1
    apply List.ext_getElem?
    intro k
    rw [List.getElem?_map, List.getElem?_mapIdx, Option.map_map]
    exact Option.map_id'
  case start_iff =>
    intro k d hd
    obtain ⟨piece, -, rfl⟩ := hat k d hd
    exact (indexedPacket_fu timestamp isLastNal (nal.headD 0) seq pieces.length k piece).1.1
  case end_iff =>
    intro k d hd
    obtain ⟨piece, -, rfl⟩ := hat k d hd
    rw [hlen]
    exact (indexedPacket_fu timestamp isLastNal (nal.headD 0) seq pieces.length k piece).1.2
  case not_both =>
    intro d hd
    obtain ⟨k, piece, -, rfl⟩ := hmem d hd
    obtain ⟨⟨hstart, hend⟩, -⟩ :=
      indexedPacket_fu timestamp isLastNal (nal.headD 0) seq pieces.length k piece
    -- The first datagram is not the last one, since there are two.
    rw [hstart, hend]
    omega
  case reserved =>
    intro d hd
    obtain ⟨k, piece, -, rfl⟩ := hmem d hd
    exact (indexedPacket_fu timestamp isLastNal (nal.headD 0) seq pieces.length k piece).2.1
  case indicator =>
    intro d hd
    obtain ⟨k, piece, -, rfl⟩ := hmem d hd
    exact (indexedPacket_fu timestamp isLastNal (nal.headD 0) seq pieces.length k piece).2.2.2
  case type =>
    intro d hd
    obtain ⟨k, piece, -, rfl⟩ := hmem d hd
    exact (indexedPacket_fu timestamp isLastNal (nal.headD 0) seq pieces.length k piece).2.2.1

/-- The datagrams of a NAL unit that does not fit in one datagram meet the contract. From 1,465
bytes on there are 1,464 behind the header, which is more than one piece of 1,462. -/
theorem nalPackets_wellFragmented (timestamp : UInt32) (isLastNal : Bool) {nal : Nal}
    (seq : UInt16) (hbig : 1464 < nal.length) :
    WellFragmented nal (nalPackets timestamp isLastNal nal seq) := by
  rw [nalPackets_of_lt timestamp isLastNal seq hbig, fragmentPackets_eq]
  have hcount : (chunks maxFragPayload (nal.drop 1)).length = (nal.length - 1) ⌈/⌉ 1462 := by
    rw [length_chunks maxFragPayload_pos, List.length_drop]
    rfl
  have htwo : 2 ≤ (chunks maxFragPayload (nal.drop 1)).length := by
    rw [hcount, Nat.ceilDiv_eq_add_pred_div]
    omega
  have hcontents := flatten_chunks maxFragPayload_pos (nal.drop 1)
  have hsize : ∀ piece ∈ chunks maxFragPayload (nal.drop 1),
      piece ≠ [] ∧ piece.length ≤ 1462 := fun piece hpiece =>
    ⟨ne_nil_of_mem_chunks maxFragPayload_pos hpiece,
      length_le_of_mem_chunks maxFragPayload_pos hpiece⟩
  exact indexedPackets_wellFragmented timestamp isLastNal seq hcount htwo hcontents hsize

/-! ### The loop -/

/-- The fragment loop on a NAL unit that does not fit in one datagram, for every behaviour of
the network. Its datagrams meet the contract. The loop returns their number after all of them
when each `sendto` succeeds, and else it stops behind the first ones of them. -/
theorem sendNal_wellFragmented (net : Nat → Bool) (timestamp : UInt32) (isLastNal : Bool)
    (nal : Nal) (st : State) (hbig : 1464 < nal.length) :
    ∃ packets, WellFragmented nal packets ∧
      ((∀ k, k < packets.length → net (st.sendCalls + k) = true) →
        (sendNal net timestamp isLastNal nal st).1 = some packets.length ∧
          (sendNal net timestamp isLastNal nal st).2.wire = st.wire ++ packets) ∧
      ∃ m, (sendNal net timestamp isLastNal nal st).2.wire = st.wire ++ packets.take m := by
  refine ⟨nalPackets timestamp isLastNal nal st.rtpSeqNumber,
    nalPackets_wellFragmented timestamp isLastNal st.rtpSeqNumber hbig, ?_⟩
  rw [sendNal_eq]
  generalize nalPackets timestamp isLastNal nal st.rtpSeqNumber = packets
  obtain ⟨m, hm, hsent, hcomplete⟩ := transmit_sent net packets st
  have hstate : (countedResult packets (transmit net packets st)).2
      = (transmit net packets st).2 := by
    cases transmit net packets st with
    | mk ok st' => cases ok <;> rfl
  rw [hstate]
  refine ⟨fun hnet => ?_, m, hsent.wire⟩
  have hok : (transmit net packets st).1 = true := by
    by_contra hfail
    have hlt : m < packets.length :=
      Nat.lt_of_le_of_ne hm fun h => hfail (hcomplete.mpr h)
    have hfailed := hsent.failed (Bool.eq_false_iff.mpr hfail)
    rw [List.length_take_of_le hm, hnet m hlt] at hfailed
    cases hfailed
  refine ⟨?_, ?_⟩
  · show (countedResult packets ((transmit net packets st).1, _)).1 = _
    rw [hok]
    rfl
  · rw [hsent.wire, hcomplete.mp hok, List.take_length]

/-- A NAL unit of 1465 bytes, one more than what fits in a datagram. -/
theorem sendNal_wellFragmented_cut :
    ∃ packets, WellFragmented (List.replicate 1465 0x65) packets ∧
      ((∀ k, k < packets.length → (fun _ => true) (0 + k) = true) →
        (sendNal (fun _ => true) 0 true (List.replicate 1465 0x65) (downlinkInit 3)).1
            = some packets.length ∧
          (sendNal (fun _ => true) 0 true (List.replicate 1465 0x65) (downlinkInit 3)).2.wire
            = [] ++ packets) ∧
      ∃ m, (sendNal (fun _ => true) 0 true (List.replicate 1465 0x65) (downlinkInit 3)).2.wire
        = [] ++ packets.take m :=
  sendNal_wellFragmented (fun _ => true) 0 true (List.replicate 1465 0x65) (downlinkInit 3)
    (by rw [List.length_replicate]; decide)

end DoomSat.Downlink
