import DoomSat.Proofs.Video.NalPieces
import DoomSat.Proofs.Receiver.BufferSafety

/-!
# `DoomSat.Proofs.Video.FuARoundTrip`: a NAL unit that is cut comes back whole

`receiverRun_nalWire` takes the packets of one NAL unit of a call of `downlink_send_nals`,
with any datagrams between them that are not FU-A fragments, and any state of the receiver.
The polls hand no FU-A buffer to the decoder before the last packet. With it they hand over
the start code and the NAL unit, and the reassembly buffer is empty again.

The old content of the reassembly buffer does not matter, because the first packet has the
start bit.
-/

set_option autoImplicit false

namespace DoomSat.Video

open Support
open Downlink (Call Nal nalWires nalWires_eq nalPackets headPacket downlinkInit
  MAX_PAYLOAD_SIZE exists_nalPackets_of_framePackets)
open Receiver

variable {δ : Type}

/-- Whether the receiver takes the FU-A path with the datagram. -/
def carriesFragment (d : Datagram) : Bool := (fragmentOf (recvfrom d)).isSome

/-- Only the datagrams with a fragment bring a piece. So datagrams of the other branches may lie
between the packets of a NAL unit. -/
theorem pieces_filter_carriesFragment (ds : List Datagram) :
    pieces ((ds.filter carriesFragment).map recvfrom) = pieces (ds.map recvfrom) := by
  induction ds with
  | nil => rfl
  | cons d ds ih =>
    rw [List.map_cons, pieces_cons, ← ih]
    cases hf : fragmentOf (recvfrom d) with
    | none =>
      rw [List.filter_cons_of_neg (by simp [carriesFragment, hf])]
      rfl
    | some f =>
      rw [List.filter_cons_of_pos (by simp [carriesFragment, hf]), List.map_cons, pieces_cons,
        hf]

/-- Datagrams whose fragments are one whole message, with the last fragment in the last
datagram. From any state the message is handed over with the last datagram, and nothing is
handed over by the FU-A path before it. -/
theorem receivePackets_whole {ff : Ffmpeg δ} (hff : ff.Allocates) (rx : Receiver.State δ)
    {pre : List Datagram} {last : Datagram} {message : List UInt8}
    (hwhole : Piece.Whole (pieces ((pre ++ [last]).map recvfrom)))
    (hmessage : Piece.contents (pieces ((pre ++ [last]).map recvfrom)) = message)
    (hlen : message.length ≤ H264_BUF_SIZE) (hlast : carriesFragment last = true)
    {seen : List Datagram} (hseen : seen <+: pre ++ [last]) :
    ∃ st, receivePackets ff (seen.map recvfrom) rx = .ok st ∧
      (seen <+: pre → st.handedFuA = rx.handedFuA) ∧
      (seen = pre ++ [last] → st.handedFuA = rx.handedFuA ++ [message] ∧ st.h264Len = 0) := by
  obtain ⟨piece, hpiece⟩ : ∃ piece, pieces [recvfrom last] = [piece] := by
    obtain ⟨f, hf⟩ := Option.isSome_iff_exists.mp hlast
    exact ⟨pieceOf f, by rw [pieces_cons, hf]; rfl⟩
  have hsplit : pieces ((pre ++ [last]).map recvfrom)
      = pieces (pre.map recvfrom) ++ [piece] := by
    rw [List.map_append, pieces_append, List.map_singleton, hpiece]
  -- The pieces received so far are a prefix of the message, so they fit and start it.
  obtain ⟨rest, hrest⟩ :
      pieces (seen.map recvfrom) <+: pieces ((pre ++ [last]).map recvfrom) := by
    obtain ⟨more, hmore⟩ := hseen
    exact ⟨pieces (more.map recvfrom), by rw [← hmore, List.map_append, pieces_append]⟩
  have hfit := hwhole.fits [] (hmessage ▸ hlen)
  rw [← hrest, Piece.fits_append] at hfit
  have hfirst : ∀ p, (pieces (seen.map recvfrom)).head? = some p → p.isFirst = true := by
    intro p hp
    apply hwhole.head_isFirst p
    rw [← hrest, List.head?_append, hp]
    rfl
  obtain ⟨st, hrun, hst, hhanded⟩ := receivePackets_fits ff rx (Or.inr hfirst) hfit.1
  have hfuA := handedFuA_of_handed (hhanded hff)
  refine ⟨st, hrun, ?_, ?_⟩
  · -- Before the last datagram no piece is a last one.
    rintro ⟨more, hmore⟩
    rw [hfuA, Piece.delivered_eq_nil, List.append_nil]
    intro p hp
    apply hwhole.isLast_eq_false
    rw [hsplit, List.dropLast_concat, ← hmore, List.map_append, pieces_append]
    exact List.mem_append_left _ hp
  · -- With the last datagram the message is complete.
    rintro rfl
    obtain ⟨hdelivered, hcollected⟩ := Piece.delivered_whole hwhole []
    rw [hfuA, hdelivered, hmessage]
    refine ⟨rfl, ?_⟩
    have hassembled := hst (Or.inr (by rw [hsplit]; simp))
    rw [hcollected] at hassembled
    exact hassembled.len

/-- The same for polls. However the datagrams are spread over the polls, the ones that were read
so far are a prefix, and nothing faults. -/
theorem receiverRun_whole {ff : Ffmpeg δ} (hff : ff.Allocates) (rx : Receiver.State δ)
    {pre : List Datagram} {last : Datagram} {message : List UInt8}
    (hwhole : Piece.Whole (pieces ((pre ++ [last]).map recvfrom)))
    (hmessage : Piece.contents (pieces ((pre ++ [last]).map recvfrom)) = message)
    (hlen : message.length ≤ H264_BUF_SIZE) (hlast : carriesFragment last = true)
    {arrivals : List (List Datagram)} (htotal : arrivals.flatten <+: pre ++ [last]) :
    ∃ st socket, receiverRun ff arrivals (rx, []) = .ok (st, socket) ∧
      ∃ seen, arrivals.flatten = seen ++ socket ∧
        (seen <+: pre → st.handedFuA = rx.handedFuA) ∧
        (seen = pre ++ [last] →
          st.handedFuA = rx.handedFuA ++ [message] ∧ st.h264Len = 0) := by
  have hspec := receiverRun_spec ff arrivals rx []
  rw [List.nil_append] at hspec
  cases hr : receiverRun ff arrivals (rx, []) with
  | error e =>
    rw [hr] at hspec
    obtain ⟨seen, hseen, hfault⟩ := hspec
    obtain ⟨st, hok, -⟩ := receivePackets_whole hff rx hwhole hmessage hlen hlast
      (hseen.trans htotal)
    rw [hfault] at hok
    cases hok
  | ok r =>
    obtain ⟨st, socket⟩ := r
    rw [hr] at hspec
    obtain ⟨seen, hsplit, hok⟩ := hspec
    obtain ⟨st', hok', hbefore, hafter⟩ := receivePackets_whole hff rx hwhole hmessage hlen
      hlast ((List.prefix_append seen socket).trans (hsplit ▸ htotal))
    rw [hok] at hok'
    cases hok'
    exact ⟨st, socket, rfl, seen, hsplit, hbefore, hafter⟩

/-- The fragments on the wire of a NAL unit are one message, with the last fragment in the last
datagram. -/
theorem whole_nalWire {net : Nat → Bool} (hnet : ∀ k, net k = true) (tx : Downlink.State)
    (call : Call) {i : Nat} {nal : Nal} (hnal : call.nals[i]? = some nal)
    (hmin : 1465 ≤ nal.length) {pre : List Datagram} {last : Datagram}
    (hwire : (nalWires net tx call)[i]? = some (pre.filter carriesFragment ++ [last])) :
    Piece.Whole (pieces ((pre ++ [last]).map recvfrom)) ∧
      Piece.contents (pieces ((pre ++ [last]).map recvfrom)) = startCode ++ nal ∧
      carriesFragment last = true := by
  -- A closed socket would have sent no last packet.
  have hsock : 0 ≤ tx.udpSocket := by
    by_contra hclosed
    rw [nalWires, if_pos (Int.not_le.mp hclosed), List.getElem?_map, hnal] at hwire
    simp at hwire
  obtain ⟨isLastNal, seq, hpackets⟩ := exists_nalPackets_of_framePackets call.timestamp
    call.nals.length 0 tx.rtpSeqNumber hnal
  rw [nalWires_eq hnet tx call hsock, hpackets] at hwire
  have hwire : nalPackets call.timestamp isLastNal nal seq
      = pre.filter carriesFragment ++ [last] := Option.some.inj hwire
  have hbig : MAX_PAYLOAD_SIZE < nal.length := hmin
  have hlast : carriesFragment last = true :=
    isSome_fragmentOf_nalPackets call.timestamp isLastNal seq hbig last (by rw [hwire]; simp)
  have hpieces : pieces ((pre ++ [last]).map recvfrom)
      = pieces ((nalPackets call.timestamp isLastNal nal seq).map recvfrom) := by
    rw [hwire, ← pieces_filter_carriesFragment, List.filter_append,
      List.filter_cons_of_pos hlast, List.filter_nil]
  obtain ⟨hwhole, hmessage⟩ := whole_nalPackets call.timestamp isLastNal seq hbig
  rw [← hpieces] at hwhole hmessage
  exact ⟨hwhole, hmessage, hlast⟩

/-- The packets of a NAL unit of 1465 to 199996 bytes, among datagrams without a fragment,
reach the decoder as the start code and the NAL unit, at the last packet and not before. -/
theorem receiverRun_nalWire {ff : Ffmpeg δ} (hff : ff.Allocates)
    {net : Nat → Bool} (hnet : ∀ k, net k = true) (tx : Downlink.State) (call : Call)
    {i : Nat} {nal : Nal} (hnal : call.nals[i]? = some nal)
    (hmin : 1465 ≤ nal.length) (hmax : nal.length ≤ 199996)
    {pre : List Datagram} {last : Datagram}
    (hwire : (nalWires net tx call)[i]? = some (pre.filter carriesFragment ++ [last]))
    (rx : Receiver.State δ) (arrivals : List (List Datagram)) :
    (arrivals.flatten <+: pre →
      ∃ st socket, receiverRun ff arrivals (rx, []) = .ok (st, socket) ∧
        st.handedFuA = rx.handedFuA) ∧
    (arrivals.flatten = pre ++ [last] →
      ∃ st socket, receiverRun ff arrivals (rx, []) = .ok (st, socket) ∧
        (socket ≠ [] → st.handedFuA = rx.handedFuA) ∧
        (socket = [] → st.handedFuA = rx.handedFuA ++ [startCode ++ nal] ∧ st.h264Len = 0) ∧
        ((∀ d ∈ pre, d ≠ []) → socket = [])) := by
  obtain ⟨hwhole, hmessage, hlast⟩ := whole_nalWire hnet tx call hnal hmin hwire
  have hlen := length_startCode_append_le hmax
  refine ⟨?_, ?_⟩
  · intro htotal
    obtain ⟨st, socket, hok, seen, hsplit, hbefore, -⟩ :=
      receiverRun_whole hff rx hwhole hmessage hlen hlast
        (htotal.trans (List.prefix_append _ _))
    exact ⟨st, socket, hok,
      hbefore ((List.prefix_append seen socket).trans (hsplit ▸ htotal))⟩
  · intro htotal
    obtain ⟨st, socket, hok, seen, hsplit, hbefore, hafter⟩ :=
      receiverRun_whole hff rx hwhole hmessage hlen hlast
        ⟨[], by rw [htotal, List.append_nil]⟩
    rw [htotal] at hsplit
    refine ⟨st, socket, hok, ?_, ?_, ?_⟩
    · -- Something is pending, so the last packet was not read yet.
      intro hne
      have hseen : seen <+: pre ++ [last] := ⟨socket, hsplit.symm⟩
      rcases List.prefix_concat_iff.mp hseen with rfl | hseen
      · exact absurd (List.self_eq_append_right.mp hsplit) hne
      · exact hbefore hseen
    · rintro rfl
      exact hafter (by simpa using hsplit.symm)
    · intro hne
      apply receiverRun_drains ff _ hok
      rw [htotal]
      intro d hd
      rcases List.mem_append.mp hd with hd | hd
      · exact hne d hd
      · rw [List.mem_singleton.mp hd]
        rintro rfl
        exact absurd hlast (by decide)

/-! ### A NAL unit of 1465 bytes -/

/-- The bytes of a NAL unit behind its header byte. -/
def cutPayload : List UInt8 := List.replicate 1464 0xAB

/-- The payload has one byte more than fits beside the header byte. -/
theorem length_cutPayload : cutPayload.length = 1464 := List.length_replicate

/-- A frame of one NAL unit, one byte longer than what fits in a datagram. -/
def cutCall : Call := ⟨[0x65 :: cutPayload], 0⟩

/-- The first packet of `cutCall`. -/
def cutFirst : Datagram := headPacket 0 true 0x7C 0x05 cutPayload true 0

/-- The second packet of `cutCall`. -/
def cutSecond : Datagram := headPacket 0 true 0x7C 0x05 (cutPayload.drop 1462) false 1

/-- The NAL unit is cut into two packets, with 1462 and 2 bytes of payload. -/
theorem nalPackets_cut : nalPackets 0 true (0x65 :: cutPayload) 0 = [cutFirst, cutSecond] :=
  nalPackets_two 0 true 0x65 0 (by rw [length_cutPayload]) (by rw [length_cutPayload]; decide)

/-- What the call sends, with a malformed datagram between the packets that the filter takes
out. -/
theorem nalWires_cutCall :
    nalWires (fun _ => true) (downlinkInit 3) cutCall
      = [[[0xFF], cutFirst].filter carriesFragment ++ [cutSecond]] := by
  -- The first packet is a fragment, and the malformed datagram is none.
  have hfirst : carriesFragment cutFirst = true := by
    apply @isSome_fragmentOf_nalPackets 0 true (0x65 :: cutPayload) 0
    · rw [List.length_cons, length_cutPayload]
      decide
    · rw [nalPackets_cut]
      exact List.mem_cons_self
  rw [nalWires_eq (fun _ => rfl) _ _ (by decide), List.filter_cons_of_neg (by decide),
    List.filter_cons_of_pos hfirst]
  exact congrArg (fun packets => [packets]) nalPackets_cut

/-- The packets of `cutCall` behind a malformed datagram, received in two polls. -/
theorem receiverRun_nalWire_cutCall :
    ∃ st socket, receiverRun idleDecoder [[[0xFF], cutFirst], [cutSecond]]
        (receiverInit ⟨fun _ => 0⟩ (), []) = .ok (st, socket) ∧
      (socket ≠ [] → st.handedFuA = []) ∧
      (socket = [] → st.handedFuA = [startCode ++ 0x65 :: cutPayload] ∧ st.h264Len = 0) ∧
      ((∀ d ∈ [[0xFF], cutFirst], d ≠ []) → socket = []) :=
  (receiverRun_nalWire (fun _ _ => rfl) (fun _ => rfl) (downlinkInit 3) cutCall
    (i := 0) rfl (by rw [List.length_cons, length_cutPayload])
    (by rw [List.length_cons, length_cutPayload]; decide)
    (by rw [nalWires_cutCall]; rfl) _ _).2 rfl

end DoomSat.Video
