import DoomSat.Proofs.Receiver.Classify
import DoomSat.Support.Reassembly

/-!
# `DoomSat.Proofs.Receiver.Reassembly`: the FU-A path as a reassembler

The FU-A branch of `receiver_poll` is the reassembler of `Support.Reassembly`: a fragment is
a piece (`pieceOf`), and the first `h264_len` cells of `h264_buf` are the buffer
(`Assembled`).

* `receivePacket_fits` states what one datagram does to this buffer and to the buffers handed
  to the decoder. `receivePacket_fault` states that a fragment that does not fit is a write
  outside `h264_buf`.
* `receivePackets` receives a list of datagrams, and `receivePackets_fits` and
  `fits_of_receivePackets` are the two directions for it.
* `receiverRun_spec` reduces a run of polls to `receivePackets`: however the datagrams are
  spread over the polls, a run receives a prefix of them in order, and the rest is pending.
  Nothing is pending when no datagram is empty (`receiverRun_drains`).
-/

set_option autoImplicit false

namespace DoomSat.Receiver

open Support

variable {δ : Type}

/-! ### What the decoder calls leave alone -/

/-- The scaler calls change neither the reassembly buffer nor the buffers handed over. -/
structure SameBuffers (st st' : State δ) : Prop where
  h264Buf : st'.h264Buf = st.h264Buf
  h264Len : st'.h264Len = st.h264Len
  handed : st'.handed = st.handed

/-- A state has the buffers of itself. -/
theorem SameBuffers.refl (st : State δ) : SameBuffers st st := ⟨rfl, rfl, rfl⟩

/-- What two calls in a row leave alone. -/
theorem SameBuffers.trans {st₁ st₂ st₃ : State δ} (h : SameBuffers st₁ st₂)
    (h' : SameBuffers st₂ st₃) : SameBuffers st₁ st₃ :=
  ⟨h'.h264Buf.trans h.h264Buf, h'.h264Len.trans h.h264Len, h'.handed.trans h.handed⟩

/-- `sws_getContext` and `sws_freeContext` only replace the context. -/
theorem createScaler_same (ff : Ffmpeg δ) (frame : FrameSize) (st : State δ) :
    SameBuffers st (createScaler ff frame st) := ⟨rfl, rfl, rfl⟩

/-- `sws_scale` hands nothing to the decoder. -/
theorem handed_scale (st : State δ) (context frame : FrameSize) :
    State.handed { st with log := st.log ++ [.scale context frame] } = st.handed := by
  simp [State.handed, Effect.handed?]

/-- `decode_frame_to_rgb` leaves the reassembly alone, whatever scaler it ends up with. -/
theorem decodeFrameToRgb_same (ff : Ffmpeg δ) (frame : FrameSize) (st : State δ) :
    SameBuffers st (decodeFrameToRgb ff frame st).2 := by
  -- Both calls of `sws_getContext` only replace the context.
  have hfirst : SameBuffers st (if st.swsCtx.isNone then createScaler ff frame st else st) := by
    split
    · exact createScaler_same ff frame st
    · exact SameBuffers.refl st
  unfold decodeFrameToRgb
  generalize (if st.swsCtx.isNone then createScaler ff frame st else st) = st₁ at hfirst
  have hsecond : SameBuffers st₁
      (if frame.width ≠ FRAME_WIDTH ∨ frame.height ≠ FRAME_HEIGHT then createScaler ff frame st₁
        else st₁) := by
    split
    · exact createScaler_same ff frame st₁
    · exact SameBuffers.refl st₁
  simp only
  generalize (if frame.width ≠ FRAME_WIDTH ∨ frame.height ≠ FRAME_HEIGHT then
    createScaler ff frame st₁ else st₁) = st₂ at hsecond
  split
  · exact hfirst
  · cases st₂.swsCtx with
    | none => exact hfirst.trans hsecond
    | some context =>
      exact (hfirst.trans hsecond).trans ⟨rfl, rfl, handed_scale st₂ context frame⟩

/-- The loop over the decoded frames leaves the reassembly alone. -/
theorem decodeFrames_same (ff : Ffmpeg δ) (frames : List FrameSize) (st : State δ) :
    SameBuffers st (decodeFrames ff frames st).2 := by
  induction frames generalizing st with
  | nil => exact SameBuffers.refl st
  | cons frame frames ih => exact (decodeFrameToRgb_same ff frame st).trans (ih _)

/-- Handing a buffer over leaves the reassembly buffer as it is. The FU-A path resets `h264_len`
itself, afterwards. -/
theorem handToDecoder_buffer (ff : Ffmpeg δ) (path : Path) (bytes : List UInt8)
    (st : State δ) :
    (handToDecoder ff path bytes st).2.h264Buf = st.h264Buf ∧
      (handToDecoder ff path bytes st).2.h264Len = st.h264Len := by
  unfold handToDecoder
  split
  · simp only
    split
    · exact ⟨(decodeFrames_same ff _ _).h264Buf, (decodeFrames_same ff _ _).h264Len⟩
    · exact ⟨rfl, rfl⟩
  · exact ⟨rfl, rfl⟩

/-- With a packet allocated, the buffer is handed over once, behind the earlier ones. What the
decoder makes of it does not matter. -/
theorem handToDecoder_handed {ff : Ffmpeg δ} (hff : ff.Allocates)
    (path : Path) (bytes : List UInt8) (st : State δ) :
    (handToDecoder ff path bytes st).2.handed = st.handed ++ [(path, bytes)] := by
  unfold handToDecoder
  rw [if_pos (hff _ _)]
  simp only
  split
  · rw [(decodeFrames_same ff _ _).handed]
    simp [State.handed, Effect.handed?]
  · simp [State.handed, Effect.handed?]

/-! ### One fragment -/

/-- The bytes that a fragment brings: a first one brings the start code and the rebuilt
header byte. -/
def pieceOf (f : Fragment) : Piece UInt8 where
  isFirst := f.isStart
  isLast := f.isEnd
  content := if f.isStart then startCode ++ f.origNal :: f.bytes else f.bytes

/-- The first `h264_len` cells of `h264_buf` are `acc`. -/
structure Assembled (st : State δ) (acc : List UInt8) : Prop where
  len : st.h264Len = acc.length
  buf : st.h264Buf.Holds acc

/-- What is assembled lies in the buffer. -/
theorem Assembled.length_le {st : State δ} {acc : List UInt8} (h : Assembled st acc) :
    acc.length ≤ H264_BUF_SIZE :=
  h.buf.le

/-- After `receiver_init` nothing is assembled. -/
theorem assembled_receiverInit (h264Buf : Block UInt8 H264_BUF_SIZE) (decoder : δ) :
    Assembled (receiverInit h264Buf decoder) [] :=
  ⟨rfl, Block.holds_nil h264Buf⟩

/-- The last write of a fragment. Behind the cells `xs` that it finds, a fragment writes its
bytes. A start fragment has put the start code and the header byte there before, and any
other fragment finds the assembled bytes. -/
theorem storeFragment_eq {f : Fragment} {st : State δ} {acc : List UInt8}
    (hst : f.isStart = true ∨ Assembled st acc) :
    ∃ (b : Block UInt8 H264_BUF_SIZE) (xs : List UInt8), b.Holds xs ∧
      (pieceOf f).grow acc = xs ++ f.bytes ∧
      storeFragment f st = do
        let buf ← b.write xs.length f.bytes
        return { st with h264Buf := buf, h264Len := xs.length + f.bytes.length } := by
  unfold storeFragment
  cases hs : f.isStart with
  | true =>
    -- The start code and the header byte always fit, whatever the state is.
    obtain ⟨b₁, h₁⟩ := st.h264Buf.write_of_le 0 startCode
      (by unfold H264_BUF_SIZE startCode; decide)
    obtain ⟨b₂, h₂⟩ := b₁.write_of_le startCode.length [f.origNal]
      (by unfold H264_BUF_SIZE startCode; simp)
    refine ⟨b₂, startCode ++ [f.origNal],
      Block.holds_write_length (Block.holds_write_zero h₁) h₂, ?_, ?_⟩
    · simp [Piece.grow, pieceOf, hs]
    · rw [if_pos rfl, h₁, ok_bind]
      show (b₁.write startCode.length [f.origNal] >>= _) = _
      rw [h₂]
      rfl
  | false =>
    have hst : Assembled st acc := hst.resolve_left (by simp [hs])
    refine ⟨st.h264Buf, acc, hst.buf, ?_, ?_⟩
    · simp [Piece.grow, pieceOf, hs]
    · rw [if_neg (by simp), hst.len]

/-- A fragment that fits is stored. A start fragment needs nothing of the old state, so the
reassembly recovers from any loss at the next start fragment. -/
theorem storeFragment_fits {f : Fragment} {st : State δ} {acc : List UInt8}
    (hst : f.isStart = true ∨ Assembled st acc)
    (hfit : ((pieceOf f).grow acc).length ≤ H264_BUF_SIZE) :
    ∃ st', storeFragment f st = .ok st' ∧ Assembled st' ((pieceOf f).grow acc) ∧
      st'.handed = st.handed := by
  obtain ⟨b, xs, hb, hgrow, hstore⟩ := storeFragment_eq hst
  rw [hgrow, List.length_append] at hfit
  obtain ⟨b', hwrite⟩ := b.write_of_le _ _ hfit
  rw [hstore, hwrite, hgrow]
  exact ⟨_, rfl, ⟨List.length_append.symm, Block.holds_write_length hb hwrite⟩, rfl⟩

/-- A fragment that does not fit is a write outside `h264_buf`. The code makes no check, so the
model faults where the C program writes on. -/
theorem storeFragment_fault {f : Fragment} {st : State δ} {acc : List UInt8}
    (hst : Assembled st acc) (hfit : H264_BUF_SIZE < ((pieceOf f).grow acc).length) :
    ∃ offset length, storeFragment f st = .error (.write offset length) := by
  obtain ⟨b, xs, hb, hgrow, hstore⟩ := storeFragment_eq (Or.inr hst)
  rw [hgrow, List.length_append] at hfit
  refine ⟨xs.length, f.bytes.length, ?_⟩
  rw [hstore, Block.write_of_lt b hfit]
  rfl

/-! ### One datagram -/

/-- What a payload hands to the decoder when `acc` is assembled. -/
def handedBy (acc : List UInt8) : Payload → List (Path × List UInt8)
  | .ignored => []
  | .annexB payload => [(.annexB, payload)]
  | .fuA f => ((pieceOf f).out acc).map fun bytes => (.fuA, bytes)
  | .singleNal payload => [(.singleNal, startCode ++ payload)]

/-- What is assembled after a payload. -/
def nextBuffer (acc : List UInt8) : Payload → List UInt8
  | .fuA f => (pieceOf f).next acc
  | _ => acc

/-- The FU-A branch with a fragment that fits. At the end bit the assembled bytes are handed
over, and `h264_len` is 0 again. -/
theorem receiveFragment_fits (ff : Ffmpeg δ) {f : Fragment} {st : State δ} {acc : List UInt8}
    (hst : f.isStart = true ∨ Assembled st acc)
    (hfit : ((pieceOf f).grow acc).length ≤ H264_BUF_SIZE) :
    ∃ got st', receiveFragment ff f st = .ok (got, st') ∧
      Assembled st' ((pieceOf f).next acc) ∧
      (ff.Allocates → st'.handed = st.handed ++ handedBy acc (.fuA f)) := by
  obtain ⟨st₁, hstore, hst₁, hsame⟩ := storeFragment_fits hst hfit
  unfold receiveFragment
  rw [hstore, ok_bind]
  cases he : f.isEnd with
  | true =>
    -- The assembled buffer is read back and handed over, and `h264_len` is reset.
    have hnext : (pieceOf f).next acc = [] := by simp [Piece.next, pieceOf, he]
    have hout : handedBy acc (.fuA f) = [(.fuA, (pieceOf f).grow acc)] := by
      simp [handedBy, Piece.out, pieceOf, he]
    rw [if_pos rfl, hst₁.len, hst₁.buf.read_eq, ok_bind, hnext, hout]
    refine ⟨_, _, rfl, ⟨rfl, Block.holds_nil _⟩, ?_⟩
    intro hff
    rw [← hsame]
    exact handToDecoder_handed hff .fuA _ st₁
  | false =>
    have hnext : (pieceOf f).next acc = (pieceOf f).grow acc := by
      simp [Piece.next, pieceOf, he]
    have hout : handedBy acc (.fuA f) = [] := by simp [handedBy, Piece.out, pieceOf, he]
    rw [hnext, hout, List.append_nil]
    exact ⟨_, _, rfl, hst₁, fun _ => hsame⟩

/-- A buffer that another path hands over leaves the assembled bytes as they are. -/
theorem assembled_handToDecoder (ff : Ffmpeg δ) (path : Path) (bytes : List UInt8)
    {st : State δ} {acc : List UInt8} (hst : Assembled st acc) :
    Assembled (handToDecoder ff path bytes st).2 acc := by
  obtain ⟨hbuf, hlen⟩ := handToDecoder_buffer ff path bytes st
  refine ⟨?_, ?_⟩
  · rw [hlen]
    exact hst.len
  · rw [hbuf]
    exact hst.buf

/-- One datagram whose fragment, if it holds one, fits. The assembled bytes before it do not
matter when the fragment is a start fragment. The second part says what is assembled afterwards,
the third one what the decoder got. -/
theorem receivePacket_fits (ff : Ffmpeg δ) {buf : Datagram} {st : State δ} {acc : List UInt8}
    (hst : Assembled st acc ∨ ∀ f, fragmentOf buf = some f → f.isStart = true)
    (hfit : ∀ f, fragmentOf buf = some f → ((pieceOf f).grow acc).length ≤ H264_BUF_SIZE) :
    ∃ got st', receivePacket ff buf st = .ok (got, st') ∧
      (Assembled st acc ∨ fragmentOf buf ≠ none →
        Assembled st' (nextBuffer acc (payloadOf buf))) ∧
      (ff.Allocates → st'.handed = st.handed ++ handedBy acc (payloadOf buf)) := by
  -- The byte counter is no part of the reassembly.
  have hcount : Assembled st acc → Assembled
      { st with gBytesReceived := st.gBytesReceived + UInt64.ofNat buf.length } acc :=
    fun h => ⟨h.len, h.buf⟩
  unfold receivePacket
  rw [classify_eq, ok_bind]
  -- The four branches of `receiver_poll`, as `classify_eq` sorts the payloads.
  cases hp : payloadOf buf with
  | ignored =>
    have hnone : fragmentOf buf = none := by simp [fragmentOf, hp]
    refine ⟨_, _, rfl, ?_, ?_⟩
    · intro h
      exact hcount (h.resolve_right (by simp [hnone]))
    · intro _
      exact (List.append_nil _).symm
  | fuA f =>
    have hsome : fragmentOf buf = some f := by simp [fragmentOf, hp]
    have hst' : f.isStart = true ∨ Assembled
        { st with gBytesReceived := st.gBytesReceived + UInt64.ofNat buf.length } acc := by
      rcases hst with hst | hst
      · exact Or.inr (hcount hst)
      · exact Or.inl (hst f hsome)
    obtain ⟨got, st', hrun, hnext, hhanded⟩ := receiveFragment_fits ff hst' (hfit f hsome)
    exact ⟨got, st', hrun, fun _ => hnext, hhanded⟩
  | annexB payload | singleNal payload =>
    -- The payload goes to the decoder as it came.
    have hnone : fragmentOf buf = none := by simp [fragmentOf, hp]
    refine ⟨_, _, rfl, ?_, ?_⟩
    · intro h
      exact assembled_handToDecoder ff _ _ (hcount (h.resolve_right (by simp [hnone])))
    · intro hff
      exact handToDecoder_handed hff _ _ _

/-- A fragment that does not fit is a fault of the datagram that brings it. -/
theorem receivePacket_fault (ff : Ffmpeg δ) {buf : Datagram} {f : Fragment} {st : State δ}
    {acc : List UInt8} (hst : Assembled st acc) (hf : fragmentOf buf = some f)
    (hfit : H264_BUF_SIZE < ((pieceOf f).grow acc).length) :
    ∃ offset length, receivePacket ff buf st = .error (.write offset length) := by
  have hcount : Assembled
      { st with gBytesReceived := st.gBytesReceived + UInt64.ofNat buf.length } acc :=
    ⟨hst.len, hst.buf⟩
  obtain ⟨offset, length, hstore⟩ := storeFragment_fault hcount hfit
  refine ⟨offset, length, ?_⟩
  unfold receivePacket
  rw [classify_eq, ok_bind, payloadOf_of_fragmentOf hf]
  show receiveFragment ff f _ = _
  unfold receiveFragment
  rw [hstore]
  rfl

/-! ### A list of datagrams -/

/-- Receives the datagrams in order. -/
def receivePackets (ff : Ffmpeg δ) : List Datagram → State δ → Except MemFault (State δ)
  | [], st => .ok st
  | buf :: bufs, st => do
    let (_, st) ← receivePacket ff buf st
    receivePackets ff bufs st

/-- The pieces that the datagrams bring. -/
def pieces (bufs : List Datagram) : List (Piece UInt8) :=
  (bufs.filterMap fragmentOf).map pieceOf

/-- The pieces of two lists of datagrams. -/
theorem pieces_append (bufs bufs' : List Datagram) :
    pieces (bufs ++ bufs') = pieces bufs ++ pieces bufs' := by
  simp [pieces]

/-- What the payloads hand to the decoder when `acc` is assembled. -/
def handedOver : List UInt8 → List Payload → List (Path × List UInt8)
  | _, [] => []
  | acc, p :: ps => handedBy acc p ++ handedOver (nextBuffer acc p) ps

/-- The pieces of a list with a datagram in front. -/
theorem pieces_cons (buf : Datagram) (bufs : List Datagram) :
    pieces (buf :: bufs) = ((fragmentOf buf).map pieceOf).toList ++ pieces bufs := by
  unfold pieces
  rw [List.filterMap_cons]
  cases fragmentOf buf <;> rfl

/-- A datagram without a fragment leaves the assembled bytes as they are. -/
theorem nextBuffer_of_none {buf : Datagram} (h : fragmentOf buf = none) (acc : List UInt8) :
    nextBuffer acc (payloadOf buf) = acc := by
  unfold fragmentOf at h
  cases hp : payloadOf buf with
  | fuA f => simp [hp] at h
  | ignored => rfl
  | annexB payload => rfl
  | singleNal payload => rfl

/-- Datagrams whose fragments fit are received without a fault. The assembled bytes before them
do not matter when the first fragment is a start fragment.

The induction is over the datagrams. Its hypothesis is a disjunction because the old content
stops to matter at the first start fragment: before it, nothing is known about the buffer. -/
theorem receivePackets_fits (ff : Ffmpeg δ) {bufs : List Datagram} (st : State δ)
    {acc : List UInt8}
    (hst : Assembled st acc ∨ ∀ p, (pieces bufs).head? = some p → p.isFirst = true)
    (hfit : Piece.Fits H264_BUF_SIZE acc (pieces bufs)) :
    ∃ st', receivePackets ff bufs st = .ok st' ∧
      (Assembled st acc ∨ pieces bufs ≠ [] →
        Assembled st' (Piece.collected acc (pieces bufs))) ∧
      (ff.Allocates → st'.handed = st.handed ++ handedOver acc (bufs.map payloadOf)) := by
  induction bufs generalizing st acc with
  | nil =>
    refine ⟨st, rfl, ?_, ?_⟩
    · intro h
      exact h.resolve_right (by simp [pieces])
    · intro _
      exact (List.append_nil _).symm
  | cons buf bufs ih =>
    rw [pieces_cons] at hst hfit ⊢
    -- A datagram without a fragment passes by, and a fragment is the next piece.
    cases hf : fragmentOf buf with
    | none =>
      rw [hf] at hst hfit
      obtain ⟨got, st₁, hrun, hbuf, hhanded⟩ := @receivePacket_fits _ ff buf st acc
        (Or.inr (by simp [hf])) (by simp [hf])
      rw [nextBuffer_of_none hf] at hbuf
      have hst₁ : Assembled st acc → Assembled st₁ acc := fun h => hbuf (Or.inl h)
      obtain ⟨st₂, hrun₂, hbuf₂, hhanded₂⟩ := ih st₁ (hst.imp_left hst₁) hfit
      refine ⟨st₂, ?_, ?_, ?_⟩
      · rw [receivePackets, hrun]
        exact hrun₂
      · intro h
        exact hbuf₂ (h.imp_left hst₁)
      · intro hff
        rw [hhanded₂ hff, hhanded hff, List.map_cons, handedOver, nextBuffer_of_none hf,
          List.append_assoc]
    | some f =>
      rw [hf] at hst hfit
      obtain ⟨got, st₁, hrun, hbuf, hhanded⟩ := @receivePacket_fits _ ff buf st acc
        (hst.imp_right (fun h f' hf' => by
          rw [hf] at hf'
          cases hf'
          exact h (pieceOf f) rfl))
        (fun f' hf' => by
          rw [hf] at hf'
          cases hf'
          exact hfit.1)
      have hbuf₁ := hbuf (Or.inr (by simp [hf]))
      have hnext : nextBuffer acc (payloadOf buf) = (pieceOf f).next acc := by
        rw [payloadOf_of_fragmentOf hf]
        rfl
      rw [hnext] at hbuf₁
      obtain ⟨st₂, hrun₂, hbuf₂, hhanded₂⟩ := ih st₁ (Or.inl hbuf₁) hfit.2
      refine ⟨st₂, ?_, ?_, ?_⟩
      · rw [receivePackets, hrun]
        exact hrun₂
      · intro _
        exact hbuf₂ (Or.inl hbuf₁)
      · intro hff
        rw [hhanded₂ hff, hhanded hff, List.map_cons, handedOver, hnext, List.append_assoc]

/-- Datagrams that are received without a fault have fragments that fit. This is the converse of
`receivePackets_fits`, from a state whose assembled bytes are known. -/
theorem fits_of_receivePackets {ff : Ffmpeg δ} {bufs : List Datagram} {st st' : State δ}
    {acc : List UInt8} (hst : Assembled st acc) (hrun : receivePackets ff bufs st = .ok st') :
    Piece.Fits H264_BUF_SIZE acc (pieces bufs) := by
  induction bufs generalizing st acc with
  | nil => exact trivial
  | cons buf bufs ih =>
    rw [receivePackets, bind_eq_ok] at hrun
    obtain ⟨⟨got, st₁⟩, hhead, htail⟩ := hrun
    -- Else the datagram would fault, and the run with it.
    have hfit : ∀ f, fragmentOf buf = some f →
        ((pieceOf f).grow acc).length ≤ H264_BUF_SIZE := by
      intro f hf
      by_contra hlt
      obtain ⟨offset, length, hfault⟩ :=
        receivePacket_fault ff hst hf (Nat.not_le.mp hlt)
      rw [hhead] at hfault
      cases hfault
    obtain ⟨got', st₁', hhead', hbuf, -⟩ := receivePacket_fits ff (Or.inl hst) hfit
    rw [hhead] at hhead'
    cases hhead'
    have hrest := ih (hbuf (Or.inl hst)) htail
    rw [pieces_cons]
    cases hf : fragmentOf buf with
    | none =>
      rw [nextBuffer_of_none hf] at hrest
      exact hrest
    | some f =>
      rw [payloadOf_of_fragmentOf hf] at hrest
      exact ⟨hfit f hf, hrest⟩

/-- Of the buffers handed over, those of the FU-A path are what the pieces deliver. The other
branches hand over their payload under another path. -/
theorem handedOver_fuA (acc : List UInt8) (bufs : List Datagram) :
    ((handedOver acc (bufs.map payloadOf)).filter fun h => h.1 = .fuA).map (·.2)
      = Piece.delivered acc (pieces bufs) := by
  induction bufs generalizing acc with
  | nil => rfl
  | cons buf bufs ih =>
    rw [List.map_cons, handedOver, List.filter_append, List.map_append, ih, pieces_cons]
    cases hf : fragmentOf buf with
    | none =>
      rw [nextBuffer_of_none hf]
      unfold fragmentOf at hf
      cases hp : payloadOf buf with
      | fuA f => simp [hp] at hf
      | ignored => rfl
      | annexB payload => rfl
      | singleNal payload => rfl
    | some f =>
      have hout : (((handedBy acc (.fuA f)).filter fun h => h.1 = .fuA).map (·.2))
          = (pieceOf f).out acc := by
        simp [handedBy, List.filter_map, Function.comp_def]
      rw [payloadOf_of_fragmentOf hf, hout]
      rfl

/-- The FU-A buffers handed over by datagrams, from what they hand over in all. -/
theorem handedFuA_of_handed {st st' : State δ} {acc : List UInt8} {bufs : List Datagram}
    (h : st'.handed = st.handed ++ handedOver acc (bufs.map payloadOf)) :
    st'.handedFuA = st.handedFuA ++ Piece.delivered acc (pieces bufs) := by
  unfold State.handedFuA
  rw [h, List.filter_append, List.map_append, handedOver_fuA]

/-! ### Runs of polls -/

/-- An empty datagram changes nothing. `receiver_poll` ends at one, so it must not count. -/
theorem receivePacket_nil (ff : Ffmpeg δ) (st : State δ) :
    receivePacket ff [] st = .ok (false, st) := by
  have hcount : st.gBytesReceived + UInt64.ofNat 0 = st.gBytesReceived := by simp
  show Except.ok (false, { st with gBytesReceived := st.gBytesReceived + UInt64.ofNat 0 }) = _
  rw [hcount]

/-- Two lists of datagrams are received one after the other. -/
theorem receivePackets_append (ff : Ffmpeg δ) (bufs bufs' : List Datagram) (st : State δ) :
    receivePackets ff (bufs ++ bufs') st
      = (receivePackets ff bufs st >>= fun st => receivePackets ff bufs' st) := by
  induction bufs generalizing st with
  | nil => rfl
  | cons buf bufs ih =>
    rw [List.cons_append, receivePackets, receivePackets]
    cases receivePacket ff buf st with
    | error e => rfl
    | ok r => exact ih r.2

/-- What a poll or a run of polls does to the pending datagrams `total`: it receives a
prefix of them, and it leaves the rest pending. After a fault the run is over. -/
def ReceivesPrefix (ff : Ffmpeg δ) (st : State δ) (total : List Datagram) :
    Except MemFault (State δ × List Datagram) → Prop
  | .ok (st', rest) => ∃ seen, total = seen ++ rest ∧
      receivePackets ff (seen.map recvfrom) st = .ok st'
  | .error e => ∃ seen, seen <+: total ∧ receivePackets ff (seen.map recvfrom) st = .error e

/-- A prefix of what follows the received datagrams gives a prefix with them. -/
theorem ReceivesPrefix.append {ff : Ffmpeg δ} {st st₁ : State δ} {seen₁ total : List Datagram}
    {r : Except MemFault (State δ × List Datagram)}
    (hseen₁ : receivePackets ff (seen₁.map recvfrom) st = .ok st₁)
    (h : ReceivesPrefix ff st₁ total r) : ReceivesPrefix ff st (seen₁ ++ total) r := by
  have hstep : ∀ seen, receivePackets ff ((seen₁ ++ seen).map recvfrom) st
      = receivePackets ff (seen.map recvfrom) st₁ := by
    intro seen
    rw [List.map_append, receivePackets_append, hseen₁, ok_bind]
  cases r with
  | error e =>
    obtain ⟨seen, hseen, hfault⟩ := h
    exact ⟨seen₁ ++ seen, (List.prefix_append_right_inj seen₁).mpr hseen,
      (hstep seen).trans hfault⟩
  | ok r =>
    obtain ⟨seen, hsplit, hok⟩ := h
    refine ⟨seen₁ ++ seen, ?_, (hstep seen).trans hok⟩
    rw [hsplit, List.append_assoc]

/-- One poll receives a prefix of the pending datagrams. It ends at the end of the socket or at
an empty datagram, which it takes out. -/
theorem receiverPoll_spec (ff : Ffmpeg δ) (socket : List Datagram) (st : State δ) :
    ReceivesPrefix ff st socket ((receiverPoll ff socket st).map (·.2)) := by
  induction socket generalizing st with
  | nil => exact ⟨[], rfl, rfl⟩
  | cons datagram socket ih =>
    rw [receiverPoll]
    by_cases hempty : (recvfrom datagram).length ≤ 0
    · -- The poll ends, and the empty datagram is gone from the socket.
      rw [if_pos hempty]
      have hnil : recvfrom datagram = [] := List.length_eq_zero_iff.mp (Nat.le_zero.mp hempty)
      refine ⟨[datagram], rfl, ?_⟩
      rw [List.map_singleton, hnil, receivePackets, receivePacket_nil]
      rfl
    · rw [if_neg hempty]
      -- A fault in the first datagram ends the poll, and the rest of the poll follows otherwise.
      cases hhead : receivePacket ff (recvfrom datagram) st with
      | error e =>
        refine ⟨[datagram], List.cons_prefix_cons.mpr ⟨rfl, List.nil_prefix⟩, ?_⟩
        rw [List.map_singleton, receivePackets, hhead]
        rfl
      | ok r =>
        obtain ⟨got, st₁⟩ := r
        have hseen : receivePackets ff ([datagram].map recvfrom) st = .ok st₁ := by
          rw [List.map_singleton, receivePackets, hhead]
          rfl
        have hrest := ReceivesPrefix.append hseen (ih st₁)
        rw [ok_bind]
        dsimp only
        cases hpoll : receiverPoll ff socket st₁ with
        | error e =>
          rw [hpoll] at hrest
          exact hrest
        | ok r =>
          rw [hpoll] at hrest
          exact hrest

/-- A run of polls receives a prefix of the pending and arriving datagrams, in order. So every
fact about lists of datagrams is one about runs of polls, whatever their number is. -/
theorem receiverRun_spec (ff : Ffmpeg δ) (arrivals : List (List Datagram)) (st : State δ)
    (socket : List Datagram) :
    ReceivesPrefix ff st (socket ++ arrivals.flatten)
      (receiverRun ff arrivals (st, socket)) := by
  induction arrivals generalizing st socket with
  | nil => exact ⟨[], by simp, rfl⟩
  | cons batch arrivals ih =>
    have hpoll := receiverPoll_spec ff (socket ++ batch) st
    rw [receiverRun, List.flatten_cons, ← List.append_assoc]
    cases hrun : receiverPoll ff (socket ++ batch) st with
    | error e =>
      rw [hrun] at hpoll
      obtain ⟨seen, hseen, hfault⟩ := hpoll
      exact ⟨seen, hseen.trans (List.prefix_append _ _), hfault⟩
    | ok r =>
      obtain ⟨got, st₁, socket₁⟩ := r
      rw [hrun] at hpoll
      obtain ⟨seen₁, htotal, hseen₁⟩ := hpoll
      -- The next poll starts with what this one left pending.
      rw [ok_bind, htotal, List.append_assoc]
      exact ReceivesPrefix.append hseen₁ (ih st₁ socket₁)

/-- A poll reads all pending datagrams when none of them is empty. -/
theorem receiverPoll_drains (ff : Ffmpeg δ) {socket rest : List Datagram} {st st' : State δ}
    {got : Bool} (hne : ∀ d ∈ socket, d ≠ [])
    (hpoll : receiverPoll ff socket st = .ok (got, st', rest)) : rest = [] := by
  induction socket generalizing st got with
  | nil =>
    cases hpoll
    rfl
  | cons d socket ih =>
    -- The poll only ends at an empty datagram or an empty socket.
    have hlen : ¬ (recvfrom d).length ≤ 0 := by
      have := List.length_pos_iff.mpr (hne d List.mem_cons_self)
      unfold recvfrom UDP_BUF_SIZE
      rw [List.length_take]
      omega
    rw [receiverPoll, if_neg hlen, bind_eq_ok] at hpoll
    obtain ⟨⟨got₁, st₁⟩, -, hpoll⟩ := hpoll
    rw [bind_eq_ok] at hpoll
    obtain ⟨⟨got₂, st₂, rest₂⟩, hrest, hpoll⟩ := hpoll
    cases hpoll
    exact ih (fun d' hd' => hne d' (List.mem_cons_of_mem _ hd')) hrest

/-- A run of polls leaves nothing pending when no datagram is empty. -/
theorem receiverRun_drains (ff : Ffmpeg δ) {arrivals : List (List Datagram)}
    {rest : List Datagram} {st st' : State δ} (hne : ∀ d ∈ arrivals.flatten, d ≠ [])
    (hrun : receiverRun ff arrivals (st, []) = .ok (st', rest)) : rest = [] := by
  induction arrivals generalizing st with
  | nil =>
    cases hrun
    rfl
  | cons batch arrivals ih =>
    rw [receiverRun, List.nil_append, bind_eq_ok] at hrun
    obtain ⟨⟨got, st₁, rest₁⟩, hpoll, hrun⟩ := hrun
    rw [List.flatten_cons] at hne
    cases receiverPoll_drains ff (fun d hd => hne d (List.mem_append_left _ hd)) hpoll
    exact ih (fun d hd => hne d (List.mem_append_right _ hd)) hrun

/-- Datagrams that are received one after the other without a fault, and none of which is
empty, are all received by every run of polls on them. -/
theorem receiverRun_of_receivePackets {ff : Ffmpeg δ} {arrivals : List (List Datagram)}
    {st st' : State δ} (hne : ∀ d ∈ arrivals.flatten, d ≠ [])
    (hok : receivePackets ff (arrivals.flatten.map recvfrom) st = .ok st') :
    receiverRun ff arrivals (st, []) = .ok (st', []) := by
  have hspec := receiverRun_spec ff arrivals st []
  rw [List.nil_append] at hspec
  cases hrun : receiverRun ff arrivals (st, []) with
  | error e =>
    -- A fault in a prefix of the datagrams is a fault in all of them.
    rw [hrun] at hspec
    obtain ⟨seen, ⟨rest, hrest⟩, hfault⟩ := hspec
    rw [← hrest, List.map_append, receivePackets_append, hfault] at hok
    cases hok
  | ok r =>
    obtain ⟨st₁, socket⟩ := r
    cases receiverRun_drains ff hne hrun
    rw [hrun] at hspec
    obtain ⟨seen, hsplit, hseen⟩ := hspec
    rw [hsplit, List.append_nil, hseen] at hok
    cases hok
    rfl

/-- When every datagram brings a fragment, only the FU-A path hands buffers over. -/
theorem handedOver_of_isSome {bufs : List Datagram} (acc : List UInt8)
    (h : ∀ buf ∈ bufs, (fragmentOf buf).isSome = true) :
    handedOver acc (bufs.map payloadOf)
      = (Piece.delivered acc (pieces bufs)).map fun bytes => (.fuA, bytes) := by
  induction bufs generalizing acc with
  | nil => rfl
  | cons buf bufs ih =>
    obtain ⟨f, hf⟩ := Option.isSome_iff_exists.mp (h buf List.mem_cons_self)
    rw [List.map_cons, handedOver, payloadOf_of_fragmentOf hf, pieces_cons, hf]
    show _ = ((pieceOf f).out acc ++ Piece.delivered ((pieceOf f).next acc) (pieces bufs)).map _
    rw [List.map_append]
    exact congrArg _ (ih _ fun buf' hbuf' => h buf' (List.mem_cons_of_mem _ hbuf'))

end DoomSat.Receiver
