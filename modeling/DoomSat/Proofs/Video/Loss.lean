import DoomSat.Proofs.Video.NalPieces
import DoomSat.Proofs.Receiver.BufferSafety

/-!
# `DoomSat.Proofs.Video.Loss`: what a loss of datagrams makes of the NAL units

The documentation introduces the sequence number of the RTP header for the detection of
losses. The receiver parses it and never looks at it. So the FU-A path joins whatever
fragments arrive, and an end fragment hands over the result.

A `Transfer` is one NAL unit, the datagrams sent for it, and those of them that arrive.
`OnlyWholeNals` says that the FU-A path hands over exactly the NAL units that arrive whole.
`onlyWholeNals_iff` states when this holds: an end fragment arrives only with the whole NAL
unit, and no run of fragments overflows the reassembly buffer.
`not_onlyWholeNals_lostMiddle` is a loss that joins two NAL units.
-/

set_option autoImplicit false

namespace DoomSat.Video

open Support
open Downlink (Call Nal nalWires nalWires_eq nalPackets framePackets runCall runCall_sent
  downlinkInit headPacket MAX_PAYLOAD_SIZE)
open Receiver

variable {δ : Type}

/-- The NAL units of a sequence of calls, each with the datagrams sent for it. -/
def sentNals (net : Nat → Bool) : Downlink.State → List Call → List (Nal × List Datagram)
  | _, [] => []
  | tx, call :: calls =>
    call.nals.zip (nalWires net tx call) ++ sentNals net (runCall net tx call) calls

/-- A NAL unit on its way: the datagrams sent for it, and those of them that arrive. -/
structure Transfer where
  nal : Nal
  sent : List Datagram
  arrived : List Datagram
  subseq : arrived.Sublist sent

namespace Transfer

/-- The NAL unit was cut into fragments, and all of them arrive. -/
def isWhole (t : Transfer) : Bool :=
  decide (MAX_PAYLOAD_SIZE < t.nal.length) && t.arrived == t.sent

/-- An end fragment arrives only with all the fragments of a NAL unit that was cut. -/
def EndsWhole (t : Transfer) : Prop :=
  (∃ d ∈ t.arrived, ∃ f, fragmentOf (recvfrom d) = some f ∧ f.isEnd = true) →
    t.isWhole = true

end Transfer

/-- The polls run without a fault, read everything, and the FU-A path hands over the NAL
units that arrive whole, in order, and nothing else. -/
def OnlyWholeNals (ff : Ffmpeg δ) (rx : Receiver.State δ) (arrivals : List (List Datagram))
    (transfers : List Transfer) : Prop :=
  ∃ st, receiverRun ff arrivals (rx, []) = .ok (st, []) ∧
    st.handedFuA = rx.handedFuA
      ++ (transfers.filter Transfer.isWhole).map fun t => startCode ++ t.nal

/-! ### The datagrams of a transfer -/

/-- The transfers carry packets of the sender. -/
def Packetised (transfers : List Transfer) : Prop :=
  ∀ t ∈ transfers, ∃ timestamp isLastNal seq,
    t.sent = nalPackets timestamp isLastNal t.nal seq

/-- A NAL unit of a frame comes with its own packets, for some marker and some sequence number.
Neither matters to the receiver. -/
theorem mem_zip_framePackets {timestamp : UInt32} {numNals i : Nat} {nals : List Nal}
    {seq : UInt16} {entry : Nal × List Datagram}
    (h : entry ∈ nals.zip (framePackets timestamp numNals i nals seq)) :
    ∃ isLastNal seq', entry.2 = nalPackets timestamp isLastNal entry.1 seq' := by
  induction nals generalizing i seq with
  | nil => simp at h
  | cons nal nals ih =>
    rw [framePackets, List.zip_cons_cons] at h
    rcases List.mem_cons.mp h with rfl | h
    · exact ⟨_, _, rfl⟩
    · exact ih h

section
variable {net : Nat → Bool} (hnet : ∀ k, net k = true)
include hnet

/-- Every entry of a sequence of calls is a NAL unit with its packets. The socket stays open
from call to call, so the induction over the calls goes through. -/
theorem mem_sentNals {tx : Downlink.State} (hsock : 0 ≤ tx.udpSocket) {calls : List Call}
    {entry : Nal × List Datagram} (h : entry ∈ sentNals net tx calls) :
    ∃ timestamp isLastNal seq, entry.2 = nalPackets timestamp isLastNal entry.1 seq := by
  induction calls generalizing tx with
  | nil => simp [sentNals] at h
  | cons call calls ih =>
    rw [sentNals, nalWires_eq hnet tx call hsock] at h
    rcases List.mem_append.mp h with h | h
    · obtain ⟨isLastNal, seq, heq⟩ := mem_zip_framePackets h
      exact ⟨_, isLastNal, seq, heq⟩
    · exact ih (by rw [(runCall_sent hnet tx call hsock).2]; exact hsock) h

end

/-- The datagrams that arrive, in order. -/
def arrivedOf (transfers : List Transfer) : List Datagram := transfers.flatMap (·.arrived)

/-- The pieces that arrive of one NAL unit. -/
def Transfer.pieces (t : Transfer) : List (Piece UInt8) :=
  Receiver.pieces (t.arrived.map recvfrom)

/-- The pieces that arrive come NAL unit by NAL unit: the network may lose datagrams, but it
keeps their order. -/
theorem pieces_arrivedOf_cons (t : Transfer) (transfers : List Transfer) :
    pieces ((arrivedOf (t :: transfers)).map recvfrom)
      = t.pieces ++ pieces ((arrivedOf transfers).map recvfrom) := by
  rw [arrivedOf, List.flatMap_cons, List.map_append, pieces_append]
  rfl

/-- The pieces of a NAL unit that arrives whole are one message: the start code and the NAL
unit. -/
theorem Transfer.whole_pieces {t : Transfer} (hsent : ∃ timestamp isLastNal seq,
    t.sent = nalPackets timestamp isLastNal t.nal seq) (h : t.isWhole = true) :
    Piece.Whole t.pieces ∧ Piece.contents t.pieces = startCode ++ t.nal := by
  obtain ⟨timestamp, isLastNal, seq, hsent⟩ := hsent
  simp only [isWhole, Bool.and_eq_true, decide_eq_true_eq, beq_iff_eq] at h
  unfold Transfer.pieces
  rw [h.2, hsent]
  exact whole_nalPackets timestamp isLastNal seq h.1

/-- A last piece is an end fragment among the datagrams that arrive. The left side is what
`Support.Reassembly` counts, the right side is what `EndsWhole` says. -/
theorem Transfer.exists_isLast_iff (t : Transfer) :
    (∃ p ∈ t.pieces, p.isLast = true) ↔
      ∃ d ∈ t.arrived, ∃ f, fragmentOf (recvfrom d) = some f ∧ f.isEnd = true := by
  simp only [Transfer.pieces, Receiver.pieces, List.mem_map, List.mem_filterMap]
  constructor
  · rintro ⟨_, ⟨f, ⟨_, ⟨d, hd, rfl⟩, hf⟩, rfl⟩, hlast⟩
    exact ⟨d, hd, f, hf, hlast⟩
  · rintro ⟨d, hd, f, hf, hend⟩
    exact ⟨pieceOf f, ⟨f, ⟨_, ⟨d, hd, rfl⟩, hf⟩, rfl⟩, hend⟩

/-- When end fragments arrive only with whole NAL units, the whole NAL units are what the
pieces deliver. The induction is over the NAL units, with any buffer before them. -/
theorem delivered_of_endsWhole {transfers : List Transfer} (hsent : Packetised transfers)
    (h : ∀ t ∈ transfers, t.EndsWhole) (acc : List UInt8) :
    Piece.delivered acc (pieces ((arrivedOf transfers).map recvfrom))
      = (transfers.filter Transfer.isWhole).map fun t => startCode ++ t.nal := by
  induction transfers generalizing acc with
  | nil => rfl
  | cons t transfers ih =>
    have hrest := ih (fun u hu => hsent u (List.mem_cons_of_mem _ hu))
      (fun u hu => h u (List.mem_cons_of_mem _ hu))
    rw [pieces_arrivedOf_cons, Piece.delivered_append, hrest]
    cases hwhole : t.isWhole with
    | true =>
      -- The message is delivered as it is, whatever an earlier loss left in the buffer.
      obtain ⟨hmessage, hcontents⟩ := t.whole_pieces (hsent t List.mem_cons_self) hwhole
      rw [(Piece.delivered_whole hmessage acc).1, hcontents, List.filter_cons_of_pos hwhole]
      rfl
    | false =>
      -- Without an end fragment the NAL unit delivers nothing.
      have hnone : ∀ p ∈ t.pieces, p.isLast = false := by
        intro p hp
        by_contra hlast
        have hend := t.exists_isLast_iff.mp ⟨p, hp, by simpa using hlast⟩
        rw [h t List.mem_cons_self hend] at hwhole
        cases hwhole
      rw [Piece.delivered_eq_nil hnone, List.filter_cons_of_neg (by simp [hwhole]),
        List.nil_append]

/-- The last pieces that arrive of a NAL unit. -/
def Transfer.lastPieces (t : Transfer) : Nat := t.pieces.countP Piece.isLast

/-- A NAL unit that arrives whole has a last piece. -/
theorem one_le_lastPieces {t : Transfer} (hsent : ∃ timestamp isLastNal seq,
    t.sent = nalPackets timestamp isLastNal t.nal seq) (h : t.isWhole = true) :
    1 ≤ t.lastPieces := by
  have hone := congrArg List.length (Piece.delivered_whole (t.whole_pieces hsent h).1 []).1
  rw [Piece.length_delivered] at hone
  exact Nat.le_of_eq hone.symm

/-- At least one buffer is delivered for each NAL unit that arrives whole, since its last piece
delivers one. -/
theorem length_whole_le {transfers : List Transfer} (hsent : Packetised transfers) :
    (transfers.filter Transfer.isWhole).length ≤ (transfers.map Transfer.lastPieces).sum := by
  induction transfers with
  | nil => simp
  | cons t transfers ih =>
    have hrest := ih (fun u hu => hsent u (List.mem_cons_of_mem _ hu))
    rw [List.map_cons, List.sum_cons]
    cases hwhole : t.isWhole with
    | true =>
      have := one_le_lastPieces (hsent t List.mem_cons_self) hwhole
      rw [List.filter_cons_of_pos hwhole, List.length_cons]
      omega
    | false =>
      rw [List.filter_cons_of_neg (by simp [hwhole])]
      omega

/-- When no more buffers are delivered than NAL units arrive whole, every end fragment arrives
with a whole NAL unit. The induction is over the NAL units. By `length_whole_le` the rest needs
as many buffers as it has whole NAL units, so none is left for a stray end fragment. -/
theorem endsWhole_of_sum {transfers : List Transfer} (hsent : Packetised transfers)
    (h : (transfers.map Transfer.lastPieces).sum
      = (transfers.filter Transfer.isWhole).length) :
    ∀ t ∈ transfers, t.EndsWhole := by
  induction transfers with
  | nil => simp
  | cons t transfers ih =>
    have hsent' : Packetised transfers := fun u hu => hsent u (List.mem_cons_of_mem _ hu)
    have hle := length_whole_le hsent'
    rw [List.map_cons, List.sum_cons] at h
    intro u hu
    -- Each whole NAL unit uses up a delivered buffer, so none is left for another one.
    cases hwhole : t.isWhole with
    | true =>
      have hone := one_le_lastPieces (hsent t List.mem_cons_self) hwhole
      rw [List.filter_cons_of_pos hwhole, List.length_cons] at h
      rcases List.mem_cons.mp hu with rfl | hu
      · intro _
        exact hwhole
      · exact ih hsent' (by omega) u hu
    | false =>
      rw [List.filter_cons_of_neg (by simp [hwhole])] at h
      rcases List.mem_cons.mp hu with rfl | hu
      · intro hend
        obtain ⟨p, hp, hlast⟩ := u.exists_isLast_iff.mpr hend
        have hpos : 0 < u.lastPieces := List.countP_pos_iff.mpr ⟨p, hp, hlast⟩
        omega
      · exact ih hsent' (by omega) u hu

/-- The last pieces of all that arrives, counted NAL unit by NAL unit. -/
theorem countP_pieces_arrivedOf (transfers : List Transfer) :
    (pieces ((arrivedOf transfers).map recvfrom)).countP Piece.isLast
      = (transfers.map Transfer.lastPieces).sum := by
  induction transfers with
  | nil => rfl
  | cons t transfers ih =>
    rw [pieces_arrivedOf_cons, List.countP_append, ih, List.map_cons, List.sum_cons]
    rfl

/-! ### The condition -/

/-- Datagrams whose runs of fragments fit are all read, and the FU-A path hands over what their
pieces deliver. Empty datagrams are excluded, because a poll ends at one. -/
theorem receiverRun_of_runsFit {ff : Ffmpeg δ} (hff : ff.Allocates)
    (h264Buf : Block UInt8 H264_BUF_SIZE) (decoder : δ) {arrivals : List (List Datagram)}
    (hne : ∀ d ∈ arrivals.flatten, d ≠ []) (hfit : RunsFit arrivals.flatten) :
    ∃ st, receiverRun ff arrivals (receiverInit h264Buf decoder, []) = .ok (st, []) ∧
      st.handedFuA = Piece.delivered [] (pieces (arrivals.flatten.map recvfrom)) := by
  obtain ⟨st, hok, -, hhanded⟩ := receivePackets_fits ff _
    (Or.inl (assembled_receiverInit h264Buf decoder)) ((fits_pieces_iff_runsFit _).mpr hfit)
  exact ⟨st, receiverRun_of_receivePackets hne hok, handedFuA_of_handed (hhanded hff)⟩

/-- A run of polls without a fault that reads everything had runs of fragments that fit. -/
theorem runsFit_of_receiverRun {ff : Ffmpeg δ} {h264Buf : Block UInt8 H264_BUF_SIZE}
    {decoder : δ} {arrivals : List (List Datagram)} {st : Receiver.State δ}
    (hrun : receiverRun ff arrivals (receiverInit h264Buf decoder, []) = .ok (st, [])) :
    RunsFit arrivals.flatten := by
  have hspec := receiverRun_spec ff arrivals (receiverInit h264Buf decoder) []
  rw [hrun] at hspec
  obtain ⟨seen, hsplit, hok⟩ := hspec
  rw [List.nil_append, List.append_nil] at hsplit
  rw [← hsplit] at hok
  exact (fits_pieces_iff_runsFit _).mp
    (fits_of_receivePackets (assembled_receiverInit h264Buf decoder) hok)

section
variable {ff : Ffmpeg δ} (hff : ff.Allocates) {net : Nat → Bool} (hnet : ∀ k, net k = true)
  {tx : Downlink.State} (hsock : 0 ≤ tx.udpSocket) {calls : List Call}
  {transfers : List Transfer}
  (hsent : (transfers.map fun t => (t.nal, t.sent)) = sentNals net tx calls)
include hnet hsock hsent

/-- Transfers of what the calls sent carry packets of the sender. -/
theorem packetised_of_sentNals : Packetised transfers := by
  intro t ht
  have hmem : (t.nal, t.sent) ∈ sentNals net tx calls := by
    rw [← hsent]
    exact List.mem_map_of_mem ht
  exact mem_sentNals hnet hsock hmem

/-- No datagram that arrives is empty: each one has at least the RTP header. -/
theorem ne_nil_of_mem_arrivedOf : ∀ d ∈ arrivedOf transfers, d ≠ [] := by
  intro d hd
  obtain ⟨t, ht, hd⟩ := List.mem_flatMap.mp hd
  obtain ⟨timestamp, isLastNal, seq, heq⟩ :=
    packetised_of_sentNals hnet hsock hsent t ht
  exact ne_nil_of_mem_nalPackets timestamp isLastNal t.nal seq d (heq ▸ t.subseq.subset hd)

include hff

/-- After any loss, the FU-A path hands over the NAL units that arrive whole and nothing
else, exactly when end fragments arrive only with whole NAL units and the runs of fragments
that arrive fit in the reassembly buffer. -/
theorem onlyWholeNals_iff (h264Buf : Block UInt8 H264_BUF_SIZE) (decoder : δ)
    {arrivals : List (List Datagram)} (hall : arrivals.flatten = arrivedOf transfers) :
    OnlyWholeNals ff (receiverInit h264Buf decoder) arrivals transfers ↔
      (∀ t ∈ transfers, t.EndsWhole) ∧ RunsFit (arrivedOf transfers) := by
  have hpackets := packetised_of_sentNals hnet hsock hsent
  have hne : ∀ d ∈ arrivals.flatten, d ≠ [] := by
    rw [hall]
    exact ne_nil_of_mem_arrivedOf hnet hsock hsent
  constructor
  · rintro ⟨st, hrun, hhanded⟩
    have hfit := runsFit_of_receiverRun hrun
    obtain ⟨st', hrun', hdelivered⟩ := receiverRun_of_runsFit hff h264Buf decoder hne hfit
    rw [hrun] at hrun'
    cases hrun'
    rw [hdelivered, hall] at hhanded
    refine ⟨endsWhole_of_sum hpackets ?_, hall ▸ hfit⟩
    -- Each end fragment delivers a buffer, so counting the buffers counts end fragments.
    have hcount := congrArg List.length hhanded
    rw [Piece.length_delivered, countP_pieces_arrivedOf] at hcount
    simpa [State.handedFuA, State.handed, receiverInit] using hcount
  · rintro ⟨hends, hfit⟩
    obtain ⟨st, hrun, hdelivered⟩ := receiverRun_of_runsFit hff h264Buf decoder hne
      (hall.symm ▸ hfit)
    refine ⟨st, hrun, ?_⟩
    rw [hdelivered, hall, delivered_of_endsWhole hpackets hends]
    rfl

end

/-! ### A loss in the middle of two NAL units -/

/-- A NAL unit of 1465 bytes: a header byte and one byte repeated. -/
def filledNal (fill : UInt8) : Nal := 0x65 :: List.replicate 1464 fill

/-- The packets of `filledNal`. -/
def filledPackets (isLastNal : Bool) (fill : UInt8) (seq : UInt16) : Datagram × Datagram :=
  (headPacket 0 isLastNal 0x7C 0x05 (List.replicate 1464 fill) true seq,
    headPacket 0 isLastNal 0x7C 0x05 ((List.replicate 1464 fill).drop 1462) false (seq + 1))

/-- The 1464 bytes behind the header byte are cut into fragments of 1462 and of 2 bytes. -/
theorem nalPackets_filledNal (isLastNal : Bool) (fill : UInt8) (seq : UInt16) :
    nalPackets 0 isLastNal (filledNal fill) seq
      = [(filledPackets isLastNal fill seq).1, (filledPackets isLastNal fill seq).2] :=
  nalPackets_two 0 isLastNal 0x65 seq (by rw [List.length_replicate])
    (by rw [List.length_replicate]; decide)

/-- A frame of two NAL units. -/
def filledFrame : Call := ⟨[filledNal 0xAA, filledNal 0xBB], 0⟩

/-- The second packet of the first NAL unit and the first one of the second are lost. -/
def lostMiddle : List Transfer :=
  [⟨filledNal 0xAA, [(filledPackets false 0xAA 0).1, (filledPackets false 0xAA 0).2],
      [(filledPackets false 0xAA 0).1], by simp⟩,
    ⟨filledNal 0xBB, [(filledPackets true 0xBB 2).1, (filledPackets true 0xBB 2).2],
      [(filledPackets true 0xBB 2).2], by simp⟩]

/-- Nothing is lost. -/
def lostNothing : List Transfer :=
  [⟨filledNal 0xAA, [(filledPackets false 0xAA 0).1, (filledPackets false 0xAA 0).2],
      [(filledPackets false 0xAA 0).1, (filledPackets false 0xAA 0).2], List.Sublist.refl _⟩,
    ⟨filledNal 0xBB, [(filledPackets true 0xBB 2).1, (filledPackets true 0xBB 2).2],
      [(filledPackets true 0xBB 2).1, (filledPackets true 0xBB 2).2], List.Sublist.refl _⟩]

/-- The frame is sent as four packets, with the sequence numbers 0 to 3. -/
theorem sentNals_filledFrame :
    sentNals (fun _ => true) (downlinkInit 3) [filledFrame]
      = [(filledNal 0xAA, [(filledPackets false 0xAA 0).1, (filledPackets false 0xAA 0).2]),
        (filledNal 0xBB, [(filledPackets true 0xBB 2).1, (filledPackets true 0xBB 2).2])] := by
  have hseq : (0 : UInt16) + UInt16.ofNat 2 = 2 := by decide
  rw [sentNals, nalWires_eq (fun _ => rfl) _ _ (by decide), sentNals, List.append_nil]
  -- The second NAL unit starts with the sequence number behind the packets of the first.
  show [(filledNal 0xAA, nalPackets 0 false (filledNal 0xAA) 0),
    (filledNal 0xBB, nalPackets 0 true (filledNal 0xBB)
      (0 + UInt16.ofNat (nalPackets 0 false (filledNal 0xAA) 0).length))] = _
  rw [nalPackets_filledNal false 0xAA 0]
  show [_, (filledNal 0xBB, nalPackets 0 true (filledNal 0xBB) (0 + UInt16.ofNat 2))] = _
  rw [hseq, nalPackets_filledNal true 0xBB 2]

/-- The transfers without a loss are those of the frame. -/
theorem sent_lostNothing :
    (lostNothing.map fun t => (t.nal, t.sent))
      = sentNals (fun _ => true) (downlinkInit 3) [filledFrame] :=
  sentNals_filledFrame.symm

/-- The transfers of the loss are those of the same frame: only what arrives differs. -/
theorem sent_lostMiddle :
    (lostMiddle.map fun t => (t.nal, t.sent))
      = sentNals (fun _ => true) (downlinkInit 3) [filledFrame] :=
  sentNals_filledFrame.symm

/-- The equivalence for the frame when nothing is lost. -/
theorem onlyWholeNals_iff_lostNothing :
    OnlyWholeNals idleDecoder (receiverInit ⟨fun _ => 0⟩ ()) [arrivedOf lostNothing]
        lostNothing ↔
      (∀ t ∈ lostNothing, t.EndsWhole) ∧ RunsFit (arrivedOf lostNothing) :=
  onlyWholeNals_iff (fun _ _ => rfl) (fun _ => rfl) (by decide) sent_lostNothing
    ⟨fun _ => 0⟩ () List.flatten_singleton

/-- The bytes that arrive of the two NAL units. -/
def joinedNal : List UInt8 := 0x65 :: List.replicate 1462 0xAA ++ List.replicate 2 0xBB

/-- Two different bytes are not one byte repeated. -/
theorem joinedNal_ne (fill : UInt8) : joinedNal ≠ filledNal fill := by
  intro h
  have htail : List.replicate 1462 0xAA ++ List.replicate 2 0xBB
      = List.replicate 1464 fill := List.tail_eq_of_cons_eq h
  have hA : (0xAA : UInt8) ∈ List.replicate 1464 fill := by
    rw [← htail]
    exact List.mem_append_left _ (List.mem_replicate.mpr ⟨by decide, rfl⟩)
  have hB : (0xBB : UInt8) ∈ List.replicate 1464 fill := by
    rw [← htail]
    exact List.mem_append_right _ (List.mem_replicate.mpr ⟨by decide, rfl⟩)
  have heq : (0xAA : UInt8) = 0xBB :=
    (List.eq_of_mem_replicate hA).trans (List.eq_of_mem_replicate hB).symm
  exact absurd heq (by decide)

/-- What arrives of the two NAL units: the start fragment of the first, and the end fragment of
the second. -/
theorem pieces_lostMiddle :
    pieces ((arrivedOf lostMiddle).map recvfrom)
      = [⟨true, false, startCode ++ 0x65 :: List.replicate 1462 0xAA⟩,
        ⟨false, true, List.replicate 2 0xBB⟩] := by
  have hfirst : Downlink.fragSize 1464 = 1462 := by decide
  have hsecond : Downlink.fragSize 2 = 2 := by decide
  have hdrop : (List.replicate 1464 (0xBB : UInt8)).drop 1462 = List.replicate 2 0xBB :=
    List.drop_replicate
  have harrived : arrivedOf lostMiddle
      = [(filledPackets false 0xAA 0).1, (filledPackets true 0xBB 2).2] := rfl
  -- Each of the two packets is computed from its own fragment alone.
  rw [harrived]
  unfold filledPackets
  rw [hdrop]
  have hpieces₁ := pieces_headPacket 0 false 0x65 (List.replicate 1464 0xAA) true 0
  have hpieces₂ := pieces_headPacket 0 true 0x65 (List.replicate 2 0xBB) false 3 []
  rw [List.length_replicate] at hpieces₁ hpieces₂
  rw [hfirst, List.take_replicate] at hpieces₁
  rw [hsecond, List.take_replicate] at hpieces₂
  refine (hpieces₁ _).trans ?_
  exact congrArg _ hpieces₂

/-- The loss of one fragment of each of two NAL units joins them: the decoder gets a buffer
that is no NAL unit of the frame. -/
theorem not_onlyWholeNals_lostMiddle :
    (lostMiddle.map fun t => (t.nal, t.sent))
        = sentNals (fun _ => true) (downlinkInit 3) [filledFrame] ∧
      (∃ st, receiverRun idleDecoder [arrivedOf lostMiddle] (receiverInit ⟨fun _ => 0⟩ (), [])
          = .ok (st, []) ∧ st.handedFuA = [startCode ++ joinedNal]) ∧
      (∀ t ∈ lostMiddle, joinedNal ≠ t.nal) ∧
      ¬ OnlyWholeNals idleDecoder (receiverInit ⟨fun _ => 0⟩ ()) [arrivedOf lostMiddle]
        lostMiddle := by
  -- A start fragment and an end fragment look like one message to the receiver.
  have hwhole : Piece.Whole (pieces ((arrivedOf lostMiddle).map recvfrom)) := by
    rw [pieces_lostMiddle]
    exact .more _ _ rfl rfl (.last _ rfl rfl)
  have hcontents : Piece.contents (pieces ((arrivedOf lostMiddle).map recvfrom))
      = startCode ++ joinedNal := by
    rw [pieces_lostMiddle]
    rfl
  have hlen : (startCode ++ joinedNal).length ≤ H264_BUF_SIZE := by
    unfold joinedNal startCode H264_BUF_SIZE
    simp only [List.length_append, List.length_cons, List.length_nil, List.length_replicate]
    decide
  have hfit : RunsFit (arrivedOf lostMiddle) := by
    rw [← fits_pieces_iff_runsFit]
    -- Without this the elaborator computes the pieces.
    generalize pieces ((arrivedOf lostMiddle).map recvfrom) = ps at hwhole hcontents ⊢
    exact hwhole.fits [] (by rw [hcontents]; exact hlen)
  have hne := ne_nil_of_mem_arrivedOf (fun _ => rfl) (by decide) sent_lostMiddle
  obtain ⟨st, hrun, hdelivered⟩ := @receiverRun_of_runsFit Unit idleDecoder (fun _ _ => rfl)
    ⟨fun _ => 0⟩ () [arrivedOf lostMiddle] (by rwa [List.flatten_singleton])
    (by rwa [List.flatten_singleton])
  rw [List.flatten_singleton, (Piece.delivered_whole hwhole []).1, hcontents] at hdelivered
  refine ⟨sent_lostMiddle, ⟨st, hrun, hdelivered⟩, ?_, ?_⟩
  · intro t ht
    simp only [lostMiddle, List.mem_cons, List.not_mem_nil, or_false] at ht
    rcases ht with rfl | rfl
    · exact joinedNal_ne 0xAA
    · exact joinedNal_ne 0xBB
  · -- No NAL unit arrives whole, so nothing was to be handed over.
    rintro ⟨st', hrun', hhanded⟩
    have hlost : lostMiddle.filter Transfer.isWhole = [] := by
      simp [lostMiddle, Transfer.isWhole]
    rw [hrun] at hrun'
    cases hrun'
    rw [hdelivered, hlost] at hhanded
    cases hhanded

end DoomSat.Video
