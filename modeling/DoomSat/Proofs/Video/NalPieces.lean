import DoomSat.Proofs.Downlink.Packets
import DoomSat.Proofs.Receiver.Reassembly

/-!
# `DoomSat.Proofs.Video.NalPieces`: the packets of a NAL unit as the receiver sees them

A NAL unit of at most `MAX_PAYLOAD_SIZE` bytes arrives as one payload
(`nalPackets_small`). A longer one arrives as FU-A fragments, and they are a
whole message in the sense of `Support.Reassembly` (`whole_nalPackets`): the start code, then
the NAL unit.

The sender splits the first byte of the NAL unit over the FU indicator and the FU header.
`pieces_headPacket` shows that the receiver rebuilds it.
-/

set_option autoImplicit false

namespace DoomSat.Video

open Support
open Downlink
open Receiver (Fragment Payload recvfrom payloadOf fragmentOf pieceOf pieces branchOf startCode
  payloadOf_pack branchOf_fuA length_packRtpHeader)

/-! ### One fragment -/

/-- The two FU bytes, as the receiver reads them: the two bits are those that the sender set,
and the header byte of the NAL unit comes back. -/
theorem fuBytes_read (header : UInt8) (isFirst isLastFrag : Bool) :
    decide (fuHeaderByte (header &&& 0x1F) isFirst isLastFrag &&& 0x80 ≠ 0) = isFirst ∧
      decide (fuHeaderByte (header &&& 0x1F) isFirst isLastFrag &&& 0x40 ≠ 0) = isLastFrag ∧
      (((header &&& 0xE0) ||| 28) &&& 0xE0)
        ||| (fuHeaderByte (header &&& 0x1F) isFirst isLastFrag &&& 0x1F) = header := by
  obtain ⟨⟨hstart, hend⟩, -, htype⟩ := fuHeaderByte_bits header isFirst isLastFrag
  refine ⟨?_, ?_, ?_⟩
  · rw [Bool.eq_iff_iff, decide_eq_true_iff, hstart]
  · rw [Bool.eq_iff_iff, decide_eq_true_iff, hend]
  · rw [(fuIndicatorByte_bits header).1, htype, nalHeader_split]

/-- The fragment that the receiver reads from a fragment datagram: the two FU bytes and the
bytes behind them, as the sender wrote them. -/
theorem fragmentOf_fragmentPacket (seq : UInt16) (timestamp : UInt32) (marker header : UInt8)
    (isFirst isLastFrag : Bool) (bytes : List UInt8) :
    fragmentOf (fragmentPacket seq timestamp marker ((header &&& 0xE0) ||| 28)
        (header &&& 0x1F) isFirst isLastFrag bytes)
      = some ⟨(header &&& 0xE0) ||| 28,
        fuHeaderByte (header &&& 0x1F) isFirst isLastFrag, bytes⟩ := by
  unfold fragmentPacket
  rw [List.append_assoc, fragmentOf, payloadOf_pack _ _ _ (by simp), List.cons_append,
    List.cons_append, List.nil_append, branchOf_fuA (fuIndicatorByte_bits header).2]
  rfl

/-- A datagram of the sender fits in the receive buffer, so the call of `recvfrom` cuts nothing
off. -/
theorem recvfrom_of_le {d : Datagram} (h : d.length ≤ RTP_HEADER_SIZE + MAX_PAYLOAD_SIZE) :
    recvfrom d = d := by
  apply List.take_of_length_le
  unfold RTP_HEADER_SIZE MAX_PAYLOAD_SIZE at h
  unfold Receiver.UDP_BUF_SIZE
  omega

/-- A fragment datagram has at most the size of a full one. -/
theorem length_headPacket_le (timestamp : UInt32) (isLastNal : Bool)
    (fuIndicator nalType : UInt8) (payload : List UInt8) (isFirst : Bool) (seq : UInt16) :
    (headPacket timestamp isLastNal fuIndicator nalType payload isFirst seq).length
      ≤ RTP_HEADER_SIZE + MAX_PAYLOAD_SIZE := by
  have hsize := fragSize_le_max payload.length
  unfold headPacket fragmentPacket
  rw [List.length_append, List.length_append, length_packRtpHeader, List.length_take]
  unfold maxFragPayload at hsize
  unfold RTP_HEADER_SIZE MAX_PAYLOAD_SIZE at *
  simp only [List.length_cons, List.length_nil]
  omega

/-- The piece in a datagram of the fragment loop. A first piece has the start code and the
header byte in front, which the receiver writes when it sees the start bit. -/
theorem pieces_headPacket (timestamp : UInt32) (isLastNal : Bool) (header : UInt8)
    (payload : List UInt8) (isFirst : Bool) (seq : UInt16) (rest : List Datagram) :
    pieces ((headPacket timestamp isLastNal ((header &&& 0xE0) ||| 28) (header &&& 0x1F)
        payload isFirst seq :: rest).map recvfrom)
      = { isFirst := isFirst
          isLast := fragSize payload.length == payload.length
          content := (if isFirst then startCode ++ [header] else [])
            ++ payload.take (fragSize payload.length) }
        :: pieces (rest.map recvfrom) := by
  obtain ⟨hstart, hend, horig⟩ :=
    fuBytes_read header isFirst (fragSize payload.length == payload.length)
  rw [List.map_cons, recvfrom_of_le (length_headPacket_le _ _ _ _ _ _ _), Receiver.pieces_cons]
  unfold headPacket
  rw [fragmentOf_fragmentPacket]
  simp only [Option.map_some, Option.toList_some, List.singleton_append, pieceOf,
    Fragment.isStart, Fragment.isEnd, Fragment.origNal, hstart, hend, horig]
  cases isFirst <;> simp

/-! ### The fragments of a NAL unit -/

section
variable (timestamp : UInt32) (isLastNal : Bool) (header : UInt8)

/-- The pieces of the fragment loop for what is left of a NAL unit. -/
def loopPieces (payload : List UInt8) (isFirst : Bool) (seq : UInt16) : List (Piece UInt8) :=
  pieces ((fragmentPackets timestamp isLastNal ((header &&& 0xE0) ||| 28) (header &&& 0x1F)
    payload isFirst seq).map recvfrom)

/-- One round of the loop: it sends all that is left, or a part with more to follow. The proofs
about the whole loop use only this, and not the size of a fragment. -/
theorem loopPieces_cases {payload : List UInt8} (isFirst : Bool) (seq : UInt16)
    (hpos : 0 < payload.length) :
    let start := if isFirst then startCode ++ [header] else []
    loopPieces timestamp isLastNal header payload isFirst seq
        = [⟨isFirst, true, start ++ payload⟩] ∨
      ∃ k, k < payload.length ∧ 0 < k ∧
        loopPieces timestamp isLastNal header payload isFirst seq
          = ⟨isFirst, false, start ++ payload.take k⟩
            :: loopPieces timestamp isLastNal header (payload.drop k) false (seq + 1) := by
  intro start
  unfold loopPieces
  rw [fragmentPackets, dif_pos hpos, pieces_headPacket]
  -- The sender sets the end bit when the fragment takes all that is left.
  by_cases hlast : fragSize payload.length = payload.length
  · left
    rw [hlast, List.drop_length, List.take_length, fragmentPackets, dif_neg (by simp)]
    simp [pieces, start]
  · right
    have hsize := fragSize_le payload.length
    refine ⟨fragSize payload.length, by omega, fragSize_pos hpos, ?_⟩
    rw [beq_false_of_ne hlast]

/-- After the first fragment, the fragments of what is left are the rest of a message: no other
start bit, and the end bit on the last one. -/
theorem rest_loopPieces (payload : List UInt8) (seq : UInt16) (hpos : 0 < payload.length) :
    Piece.Rest (loopPieces timestamp isLastNal header payload false seq) ∧
      Piece.contents (loopPieces timestamp isLastNal header payload false seq) = payload := by
  rcases loopPieces_cases timestamp isLastNal header false seq hpos with h | ⟨k, hk, hk0, h⟩
  · rw [h]
    exact ⟨.last _ rfl rfl, by simp⟩
  · obtain ⟨hrest, hcontents⟩ := rest_loopPieces (payload.drop k) (seq + 1)
      (by rw [List.length_drop]; omega)
    rw [h]
    refine ⟨.more _ _ rfl rfl hrest, ?_⟩
    rw [Piece.contents_cons, hcontents]
    simp
termination_by payload.length
decreasing_by
  simp only [List.length_drop]
  omega

/-- The whole loop sends a message: the start code, the header byte and the payload. -/
theorem whole_loopPieces {payload : List UInt8} (seq : UInt16) (hpos : 0 < payload.length) :
    Piece.Whole (loopPieces timestamp isLastNal header payload true seq) ∧
      Piece.contents (loopPieces timestamp isLastNal header payload true seq)
        = startCode ++ header :: payload := by
  rcases loopPieces_cases timestamp isLastNal header true seq hpos with h | ⟨k, hk, hk0, h⟩
  · rw [h]
    exact ⟨.single _ rfl rfl, by simp⟩
  · obtain ⟨hrest, hcontents⟩ := rest_loopPieces timestamp isLastNal header (payload.drop k)
      (seq + 1) (by rw [List.length_drop]; omega)
    rw [h]
    refine ⟨.more _ _ rfl rfl hrest, ?_⟩
    rw [Piece.contents_cons, hcontents]
    simp

end

/-- The fragments of a NAL unit are a whole message: the start code, then the NAL unit. The
header byte travels in the FU bytes, and the receiver puts it back in front. -/
theorem whole_nalPackets (timestamp : UInt32) (isLastNal : Bool) {nal : Nal} (seq : UInt16)
    (hbig : MAX_PAYLOAD_SIZE < nal.length) :
    Piece.Whole (pieces ((nalPackets timestamp isLastNal nal seq).map recvfrom)) ∧
      Piece.contents (pieces ((nalPackets timestamp isLastNal nal seq).map recvfrom))
        = startCode ++ nal := by
  obtain ⟨header, payload, rfl⟩ : ∃ header payload, nal = header :: payload := by
    cases nal with
    | nil => simp at hbig
    | cons header payload => exact ⟨header, payload, rfl⟩
  have hpos : 0 < payload.length := by
    unfold MAX_PAYLOAD_SIZE at hbig
    rw [List.length_cons] at hbig
    omega
  rw [nalPackets_of_lt timestamp isLastNal seq hbig]
  exact whole_loopPieces timestamp isLastNal header seq hpos

/-- A NAL unit of at most 199996 bytes and its start code fit in the reassembly buffer. -/
theorem length_startCode_append_le {nal : Nal} (hmax : nal.length ≤ 199996) :
    (startCode ++ nal).length ≤ Receiver.H264_BUF_SIZE := by
  show ([0, 0, 0, 1] ++ nal).length ≤ 200000
  rw [List.length_append]
  exact Nat.add_le_add_left hmax 4

/-- The receiver takes the FU-A path with every datagram of the loop. The type in the FU
indicator is 28 in each of them. -/
theorem isSome_fragmentOf_fragmentPackets (timestamp : UInt32) (isLastNal : Bool)
    (header : UInt8) (payload : List UInt8) (isFirst : Bool) (seq : UInt16) :
    ∀ d ∈ fragmentPackets timestamp isLastNal ((header &&& 0xE0) ||| 28) (header &&& 0x1F)
      payload isFirst seq, (fragmentOf (recvfrom d)).isSome = true := by
  rw [fragmentPackets]
  by_cases hpos : payload.length > 0
  · rw [dif_pos hpos]
    intro d hd
    rcases List.mem_cons.mp hd with rfl | hd
    · rw [recvfrom_of_le (length_headPacket_le _ _ _ _ _ _ _)]
      unfold headPacket
      rw [fragmentOf_fragmentPacket]
      rfl
    · exact isSome_fragmentOf_fragmentPackets timestamp isLastNal header _ false (seq + 1) d hd
  · rw [dif_neg hpos]
    simp
termination_by payload.length
decreasing_by exact length_drop_fragSize hpos

/-- The receiver takes the FU-A path with every datagram of a NAL unit that is cut. -/
theorem isSome_fragmentOf_nalPackets (timestamp : UInt32) (isLastNal : Bool) {nal : Nal}
    (seq : UInt16) (hbig : MAX_PAYLOAD_SIZE < nal.length) :
    ∀ d ∈ nalPackets timestamp isLastNal nal seq, (fragmentOf (recvfrom d)).isSome = true := by
  rw [nalPackets_of_lt timestamp isLastNal seq hbig]
  exact isSome_fragmentOf_fragmentPackets _ _ _ _ _ _

/-- A NAL unit that fits in one datagram is the payload of this datagram. The receiver looks at
its first bytes to tell what it is. -/
theorem nalPackets_small (timestamp : UInt32) (isLastNal : Bool) {nal : Nal} (seq : UInt16)
    (hne : nal ≠ []) (hsmall : nal.length ≤ MAX_PAYLOAD_SIZE) :
    ∃ d, nalPackets timestamp isLastNal nal seq = [d] ∧
      payloadOf (recvfrom d) = branchOf nal := by
  refine ⟨packRtpHeader seq timestamp (if isLastNal then 1 else 0) ++ nal,
    nalPackets_of_le timestamp isLastNal seq hne hsmall, ?_⟩
  · rw [recvfrom_of_le, payloadOf_pack _ _ _ hne]
    rw [List.length_append, length_packRtpHeader]
    unfold RTP_HEADER_SIZE
    omega

/-- No packet is an empty datagram. An empty one has no fragment, and a single packet has its
header. -/
theorem ne_nil_of_mem_nalPackets (timestamp : UInt32) (isLastNal : Bool) (nal : Nal)
    (seq : UInt16) : ∀ d ∈ nalPackets timestamp isLastNal nal seq, d ≠ [] := by
  intro d hd
  by_cases hbig : MAX_PAYLOAD_SIZE < nal.length
  · rintro rfl
    exact absurd (isSome_fragmentOf_nalPackets timestamp isLastNal seq hbig [] hd) (by decide)
  · unfold nalPackets at hd
    split at hd
    · simp at hd
    · rw [if_pos (Nat.not_lt.mp hbig)] at hd
      rw [List.mem_singleton.mp hd]
      exact List.cons_ne_nil _ _

/-- No packet of a frame is empty: each begins with the RTP header. -/
theorem ne_nil_of_mem_framePackets (timestamp : UInt32) (numNals i : Nat) (nals : List Nal)
    (seq : UInt16) : ∀ d ∈ (framePackets timestamp numNals i nals seq).flatten, d ≠ [] := by
  induction nals generalizing i seq with
  | nil => simp [framePackets]
  | cons nal nals ih =>
    intro d hd
    rw [framePackets, List.flatten_cons] at hd
    rcases List.mem_append.mp hd with hd | hd
    · exact ne_nil_of_mem_nalPackets _ _ _ _ d hd
    · exact ih _ _ d hd

/-- A NAL unit that is at most two full fragments long gives two packets. -/
theorem nalPackets_two (timestamp : UInt32) (isLastNal : Bool) (header : UInt8)
    {payload : List UInt8} (seq : UInt16) (hmin : 1464 ≤ payload.length)
    (hmax : payload.length ≤ 2924) :
    nalPackets timestamp isLastNal (header :: payload) seq
      = [headPacket timestamp isLastNal ((header &&& 0xE0) ||| 28) (header &&& 0x1F)
          payload true seq,
        headPacket timestamp isLastNal ((header &&& 0xE0) ||| 28) (header &&& 0x1F)
          (payload.drop 1462) false (seq + 1)] := by
  have hbig : MAX_PAYLOAD_SIZE < (header :: payload).length := by
    rw [List.length_cons]
    unfold MAX_PAYLOAD_SIZE
    omega
  -- The first fragment is a full one, and the second one takes what is left.
  have hfull : fragSize payload.length = 1462 :=
    if_pos (by unfold maxFragPayload MAX_PAYLOAD_SIZE; omega)
  have hrest : fragSize (payload.drop 1462).length = (payload.drop 1462).length :=
    if_neg (by unfold maxFragPayload MAX_PAYLOAD_SIZE; rw [List.length_drop]; omega)
  rw [nalPackets_of_lt timestamp isLastNal seq hbig, List.headD_cons, List.drop_succ_cons,
    List.drop_zero, fragmentPackets, dif_pos (by omega), hfull, fragmentPackets,
    dif_pos (by rw [List.length_drop]; omega), hrest, List.drop_length, fragmentPackets,
    dif_neg (by simp)]

end DoomSat.Video
