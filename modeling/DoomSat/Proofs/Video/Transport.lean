import DoomSat.Proofs.Video.NalPieces
import DoomSat.Proofs.Receiver.BufferSafety
import Mathlib.Data.List.Forall2

/-!
# `DoomSat.Proofs.Video.Transport`: one frame over a network without loss

The encoder hands over NAL units in Annex B form, each behind a start code of four or of
three bytes (`StartCoded`). The sender looks at the size of a NAL unit only. The receiver
looks at the first payload bytes only, and it knows the start code of four bytes only. So a
NAL unit that fits in one datagram and has the start code of three bytes reads as a payload
of NAL type 0, and the receiver drops it.

`Transported` says that every NAL unit of the frame reaches the decoder once and in order.
`transported_iff` states when this holds. `not_transported_threeByteCode` is a frame that
loses its NAL unit.
-/

set_option autoImplicit false

namespace DoomSat.Video

open Support
open Downlink (Call Nal callWire callWire_eq nalPackets framePackets downlinkInit
  MAX_PAYLOAD_SIZE)
open Receiver

variable {δ : Type}

/-- The NAL unit starts with an Annex B start code, as `b_annexb = 1` asks x264 for. -/
def StartCoded (nal : Nal) : Prop := startCode <+: nal ∨ [0, 0, 1] <+: nal

/-- The buffer holds the NAL unit, with at most one more start code before it. -/
def CarriesNal (buffer : List UInt8) (nal : Nal) : Prop :=
  buffer = nal ∨ buffer = startCode ++ nal

/-- The polls run without a fault, read everything, and hand one buffer for each NAL unit to
the decoder, in order. -/
def Transported (ff : Ffmpeg δ) (rx : Receiver.State δ) (arrivals : List (List Datagram))
    (nals : List Nal) : Prop :=
  ∃ st buffers, receiverRun ff arrivals (rx, []) = .ok (st, []) ∧
    st.handed = rx.handed ++ buffers ∧ List.Forall₂ CarriesNal (buffers.map (·.2)) nals

/-- What the receiver hands over for a start-coded NAL unit. -/
def buffersOf (nal : Nal) : List (Path × List UInt8) :=
  if nal.length ≤ MAX_PAYLOAD_SIZE then
    if startCode.isPrefixOf nal then [(.annexB, nal)] else []
  else [(.fuA, startCode ++ nal)]

/-! ### One NAL unit -/

/-- The payload of a start-coded NAL unit that is not cut. With the start code of four bytes it
is handed over as it is, and with the one of three bytes it is ignored. It never reads as a
fragment, because its first byte is 0. -/
theorem handedBy_branchOf {nal : Nal} (hcode : StartCoded nal)
    (hsmall : nal.length ≤ MAX_PAYLOAD_SIZE) (acc : List UInt8) :
    handedBy acc (branchOf nal) = buffersOf nal ∧ ∀ f, branchOf nal ≠ .fuA f := by
  unfold buffersOf
  rw [if_pos hsmall]
  by_cases hfour : startCode <+: nal
  · rw [branchOf_startCode hfour, if_pos (List.isPrefixOf_iff_prefix.mpr hfour)]
    exact ⟨rfl, fun f h => by cases h⟩
  · -- The start code of three bytes: the receiver reads NAL type 0 from its first byte.
    obtain ⟨rest, rfl⟩ := hcode.resolve_left hfour
    have hignored : branchOf ([0, 0, 1] ++ rest) = .ignored := branchOf_zero hfour
    rw [hignored, if_neg (by rwa [List.isPrefixOf_iff_prefix])]
    exact ⟨rfl, fun f h => by cases h⟩

/-- The packets of a start-coded NAL unit, received in any state. A NAL unit that is cut starts
with a start fragment, so what an earlier loss left in the reassembly buffer does not matter. -/
theorem receivePackets_nalPackets {ff : Ffmpeg δ} (hff : ff.Allocates) (timestamp : UInt32)
    (isLastNal : Bool) {nal : Nal} (seq : UInt16) (hcode : StartCoded nal)
    (hmax : nal.length ≤ 199996) (rx : Receiver.State δ) :
    ∃ st, receivePackets ff ((nalPackets timestamp isLastNal nal seq).map recvfrom) rx
        = .ok st ∧ st.handed = rx.handed ++ buffersOf nal := by
  by_cases hsmall : nal.length ≤ MAX_PAYLOAD_SIZE
  · -- The datagram holds no fragment, so the state of the reassembly does not matter.
    have hne : nal ≠ [] := by
      rintro rfl
      rcases hcode with h | h <;> simp [startCode] at h
    obtain ⟨d, hd, hpayload⟩ := nalPackets_small timestamp isLastNal seq hne hsmall
    obtain ⟨hhands, hnot⟩ := handedBy_branchOf hcode hsmall []
    have hpieces : pieces [recvfrom d] = [] := by
      rw [pieces_cons, fragmentOf, hpayload]
      cases hb : branchOf nal with
      | fuA f => exact absurd hb (hnot f)
      | ignored => rfl
      | annexB payload => rfl
      | singleNal payload => rfl
    obtain ⟨st, hrun, -, hhanded⟩ := @receivePackets_fits δ ff [recvfrom d] rx []
      (Or.inr (by simp [hpieces])) (by rw [hpieces]; trivial)
    rw [hd]
    refine ⟨st, hrun, ?_⟩
    rw [hhanded hff, List.map_singleton, hpayload, handedOver, handedOver, hhands,
      List.append_nil]
  · -- The datagrams hold the fragments of one message, and it fits.
    have hbig : MAX_PAYLOAD_SIZE < nal.length := Nat.not_le.mp hsmall
    obtain ⟨hwhole, hmessage⟩ := whole_nalPackets timestamp isLastNal seq hbig
    have hlen := length_startCode_append_le hmax
    obtain ⟨st, hrun, -, hhanded⟩ := receivePackets_fits ff rx
      (Or.inr hwhole.head_isFirst) (hwhole.fits [] (hmessage ▸ hlen))
    refine ⟨st, hrun, ?_⟩
    rw [hhanded hff, handedOver_of_isSome, (Piece.delivered_whole hwhole []).1, hmessage,
      buffersOf, if_neg hsmall]
    · rfl
    · intro buf hbuf
      obtain ⟨d, hd, rfl⟩ := List.mem_map.mp hbuf
      exact isSome_fragmentOf_nalPackets timestamp isLastNal seq hbig d hd

/-! ### A frame -/

/-- The packets of a frame of start-coded NAL units, received in any state. The induction is
over the NAL units: the state after one of them is any state for the next. -/
theorem receivePackets_framePackets {ff : Ffmpeg δ} (hff : ff.Allocates)
    (timestamp : UInt32) (numNals i : Nat) {nals : List Nal} (seq : UInt16)
    (hnals : ∀ nal ∈ nals, StartCoded nal ∧ nal.length ≤ 199996) (rx : Receiver.State δ) :
    ∃ st, receivePackets ff
        ((framePackets timestamp numNals i nals seq).flatten.map recvfrom) rx = .ok st ∧
      st.handed = rx.handed ++ nals.flatMap buffersOf := by
  induction nals generalizing i seq rx with
  | nil => exact ⟨rx, rfl, (List.append_nil _).symm⟩
  | cons nal nals ih =>
    obtain ⟨hcode, hmax⟩ := hnals nal List.mem_cons_self
    obtain ⟨st₁, hrun₁, hhanded₁⟩ := receivePackets_nalPackets hff timestamp
      (i == numNals - 1) seq hcode hmax rx
    obtain ⟨st₂, hrun₂, hhanded₂⟩ := ih (i + 1)
      (seq + UInt16.ofNat (nalPackets timestamp (i == numNals - 1) nal seq).length)
      (fun n hn => hnals n (List.mem_cons_of_mem _ hn)) st₁
    refine ⟨st₂, ?_, ?_⟩
    · rw [framePackets, List.flatten_cons, List.map_append, receivePackets_append, hrun₁,
        ok_bind]
      exact hrun₂
    · rw [hhanded₂, hhanded₁, List.flatMap_cons, List.append_assoc]

/-- A NAL unit gives at most one buffer, so a missing one cannot be made up for by another. -/
theorem length_buffersOf_le (nal : Nal) : (buffersOf nal).length ≤ 1 := by
  unfold buffersOf
  split
  · split <;> simp
  · simp

/-- So a frame gives at most as many buffers as it has NAL units. -/
theorem length_flatMap_buffersOf_le (nals : List Nal) :
    (nals.flatMap buffersOf).length ≤ nals.length := by
  induction nals with
  | nil => simp
  | cons nal nals ih =>
    have := length_buffersOf_le nal
    rw [List.flatMap_cons, List.length_append, List.length_cons]
    omega

/-- As many buffers as NAL units means that no NAL unit was dropped. The induction is over the
NAL units, and `length_flatMap_buffersOf_le` bounds the rest. -/
theorem startCode_of_length_flatMap {nals : List Nal}
    (h : (nals.flatMap buffersOf).length = nals.length) :
    ∀ nal ∈ nals, nal.length ≤ MAX_PAYLOAD_SIZE → startCode <+: nal := by
  induction nals with
  | nil => simp
  | cons nal nals ih =>
    have hone := length_buffersOf_le nal
    have hrest := length_flatMap_buffersOf_le nals
    rw [List.flatMap_cons, List.length_append, List.length_cons] at h
    intro n hn hsmall
    rcases List.mem_cons.mp hn with rfl | hn
    · -- A dropped NAL unit is missed, since no other one gives two buffers.
      by_contra hcode
      have hdropped : buffersOf n = [] := by
        rw [buffersOf, if_pos hsmall, if_neg (by rwa [List.isPrefixOf_iff_prefix])]
      rw [hdropped, List.length_nil] at h
      omega
    · exact ih (by omega) n hn hsmall

/-- The buffers carry the NAL units exactly when none was dropped. For the first direction the
lengths are enough. -/
theorem forall₂_buffersOf_iff (nals : List Nal) :
    List.Forall₂ CarriesNal ((nals.flatMap buffersOf).map (·.2)) nals ↔
      ∀ nal ∈ nals, nal.length ≤ MAX_PAYLOAD_SIZE → startCode <+: nal := by
  constructor
  · intro h
    exact startCode_of_length_flatMap (by simpa using h.length_eq)
  · intro h
    induction nals with
    | nil => exact List.Forall₂.nil
    | cons nal nals ih =>
      have hrest := ih (fun n hn => h n (List.mem_cons_of_mem _ hn))
      have hnal := h nal List.mem_cons_self
      rw [List.flatMap_cons, List.map_append]
      unfold buffersOf
      -- A NAL unit that fits comes back as it is, and one that was cut gets a start code in
      -- front.
      by_cases hsmall : nal.length ≤ MAX_PAYLOAD_SIZE
      · rw [if_pos hsmall, if_pos (List.isPrefixOf_iff_prefix.mpr (hnal hsmall))]
        exact List.Forall₂.cons (Or.inl rfl) hrest
      · rw [if_neg hsmall]
        exact List.Forall₂.cons (Or.inr rfl) hrest

section
variable {ff : Ffmpeg δ} (hff : ff.Allocates) {net : Nat → Bool} (hnet : ∀ k, net k = true)
  (tx : Downlink.State) (hsock : 0 ≤ tx.udpSocket) (call : Call)
include hff hnet hsock

/-- The polls on the datagrams of a call read all of them, and hand over what the NAL units
give. -/
theorem receiverRun_callWire
    (hnals : ∀ nal ∈ call.nals, StartCoded nal ∧ nal.length ≤ 199996) (rx : Receiver.State δ)
    {arrivals : List (List Datagram)} (hall : arrivals.flatten = callWire net tx call) :
    ∃ st, receiverRun ff arrivals (rx, []) = .ok (st, []) ∧
      st.handed = rx.handed ++ call.nals.flatMap buffersOf := by
  rw [callWire_eq hnet tx call hsock] at hall
  obtain ⟨st, hok, hhanded⟩ := receivePackets_framePackets hff call.timestamp
    call.nals.length 0 tx.rtpSeqNumber hnals rx
  rw [← hall] at hok
  refine ⟨st, receiverRun_of_receivePackets ?_ hok, hhanded⟩
  rw [hall]
  exact ne_nil_of_mem_framePackets _ _ _ _ _

/-- A frame of start-coded NAL units of 4 to 199996 bytes reaches the decoder exactly when
every NAL unit that is not cut has the start code of four bytes. -/
theorem transported_iff
    (hnals : ∀ nal ∈ call.nals, StartCoded nal ∧ 4 ≤ nal.length ∧ nal.length ≤ 199996)
    (rx : Receiver.State δ) {arrivals : List (List Datagram)}
    (hall : arrivals.flatten = callWire net tx call) :
    Transported ff rx arrivals call.nals ↔
      ∀ nal ∈ call.nals, nal.length ≤ MAX_PAYLOAD_SIZE → startCode <+: nal := by
  obtain ⟨st, hrun, hhanded⟩ := receiverRun_callWire hff hnet tx hsock call
    (fun nal hnal => ⟨(hnals nal hnal).1, (hnals nal hnal).2.2⟩) rx hall
  rw [← forall₂_buffersOf_iff]
  constructor
  · -- The polls have one outcome, so these are the buffers of `receiverRun_callWire`.
    rintro ⟨st', buffers, hrun', hhanded', hcarry⟩
    rw [hrun] at hrun'
    cases hrun'
    rw [hhanded] at hhanded'
    rw [List.append_cancel_left hhanded']
    exact hcarry
  · intro hcarry
    exact ⟨st, _, hrun, hhanded, hcarry⟩

end

/-- A frame of a parameter set and a slice, each behind a start code of four bytes. -/
def codedFrame : Call := ⟨[[0, 0, 0, 1, 0x67], [0, 0, 0, 1, 0x65, 0x88]], 40⟩

/-- The equivalence for a frame of two small NAL units, both with a start code of four bytes. -/
theorem transported_iff_codedFrame :
    Transported idleDecoder (receiverInit ⟨fun _ => 0⟩ ())
        [callWire (fun _ => true) (downlinkInit 3) codedFrame] codedFrame.nals ↔
      ∀ nal ∈ codedFrame.nals, nal.length ≤ MAX_PAYLOAD_SIZE → startCode <+: nal :=
  transported_iff (fun _ _ => rfl) (fun _ => rfl) (downlinkInit 3) (by decide) codedFrame
    (by simp [codedFrame, StartCoded, startCode]) _ (by simp)

/-- A frame of one slice behind a start code of three bytes: the receiver drops it. -/
theorem not_transported_threeByteCode :
    StartCoded [0, 0, 1, 0x65] ∧
      ¬ Transported idleDecoder (receiverInit ⟨fun _ => 0⟩ ())
          [callWire (fun _ => true) (downlinkInit 3) ⟨[[0, 0, 1, 0x65]], 0⟩]
          [[0, 0, 1, 0x65]] := by
  have hcode : StartCoded [0, 0, 1, 0x65] := by simp [StartCoded]
  refine ⟨hcode, ?_⟩
  rintro ⟨st, buffers, hrun, hhanded, hcarry⟩
  obtain ⟨st', hrun', hhanded'⟩ := @receiverRun_callWire Unit idleDecoder (fun _ _ => rfl)
    (fun _ => true) (fun _ => rfl) (downlinkInit 3) (by decide) ⟨[[0, 0, 1, 0x65]], 0⟩
    (by simp [hcode]) (receiverInit ⟨fun _ => 0⟩ ()) _ List.flatten_singleton
  rw [hrun] at hrun'
  cases hrun'
  have hnone : buffers = [] := by
    rw [hhanded'] at hhanded
    exact (List.append_cancel_left hhanded).symm
  rw [hnone] at hcarry
  cases hcarry

end DoomSat.Video
