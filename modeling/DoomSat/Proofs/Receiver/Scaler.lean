import DoomSat.Proofs.Receiver.Reassembly
import Mathlib.Data.List.Chain

/-!
# `DoomSat.Proofs.Receiver.Scaler`: the scaler context and the decoded size

A comment of `decode_frame_to_rgb` says that the scaler context is made again when the size of
the decoded frame changed. The code compares the size with 176x144 instead of the size before.
So a frame of 176x144 takes the context of the frame before it, whatever its size was.

* A `Conversion` is one call of `decode_frame_to_rgb`, and `conversions` runs a list of them.
  `convert_eq` is what one call does: the context that it leaves (`nextContext`), and a
  `sws_scale` with this context.
* `ScalesMatch` is the contract: every `sws_scale` has a context of the size of its frame.
* `scalesMatch_iff` states when a sequence of conversions meets the contract, and
  `not_scalesMatch_smallAfterLarge` is a sequence that fails.
* `receiverRun_converts` connects the conversions with `receiver_poll`: the `sws_scale` calls
  of every run are those of a sequence of conversions. `scalesMatch_receiverRun` is the
  contract for such a run.
-/

set_option autoImplicit false

namespace DoomSat.Receiver

variable {δ : Type}

/-! ### A sequence of conversions -/

/-- One call of `decode_frame_to_rgb`: the size of the frame in `av_frame`, and the state of
FFmpeg in which the call is made. -/
structure Conversion (δ : Type) where
  decoder : δ
  frame : FrameSize

/-- The module state after a conversion. -/
def convert (ff : Ffmpeg δ) (st : State δ) (c : Conversion δ) : State δ :=
  (decodeFrameToRgb ff c.frame { st with decoder := c.decoder }).2

/-- The module state after a sequence of conversions. -/
def conversions (ff : Ffmpeg δ) (st : State δ) (cs : List (Conversion δ)) : State δ :=
  cs.foldl (convert ff) st

/-- The context size and the frame size of a `sws_scale` call. -/
def Effect.scale? : Effect → Option (FrameSize × FrameSize)
  | .sendPacket _ _ => none
  | .scale context frame => some (context, frame)

/-- The `sws_scale` calls so far. -/
def State.scales (st : State δ) : List (FrameSize × FrameSize) :=
  st.log.filterMap Effect.scale?

/-- The contract: every `sws_scale` uses a context of the size of its frame. -/
def ScalesMatch (st : State δ) : Prop :=
  ∀ context frame, (context, frame) ∈ st.scales → context = frame

/-! ### One conversion -/

/-- The size that the code compares with. -/
def standardSize : FrameSize := ⟨FRAME_WIDTH, FRAME_HEIGHT⟩

/-- The two comparisons of the code are one with the standard size. -/
theorem ne_standardSize_iff {frame : FrameSize} :
    (frame.width ≠ FRAME_WIDTH ∨ frame.height ≠ FRAME_HEIGHT) ↔ frame ≠ standardSize := by
  obtain ⟨width, height⟩ := frame
  simp only [standardSize, ne_eq, FrameSize.mk.injEq, not_and_or]

/-- The context that `sws_getContext` returns for the frame. -/
def freshContext (ff : Ffmpeg δ) (c : Conversion δ) : Option FrameSize :=
  if ff.swsGetContext c.decoder c.frame then some c.frame else none

/-- The context that a conversion leaves, and with which it scales. -/
def nextContext (ff : Ffmpeg δ) (c : Conversion δ) (context : Option FrameSize) :
    Option FrameSize :=
  if c.frame ≠ standardSize ∨ context = none then freshContext ff c else context

/-- What the body of `decode_frame_to_rgb` does in each case of the context and the two
comparisons. In one call it can make the context twice, and the second one counts. -/
theorem decodeFrameToRgb_eq (ff : Ffmpeg δ) (st : State δ) (frame : FrameSize) :
    (decodeFrameToRgb ff frame st).2
      = match nextContext ff ⟨st.decoder, frame⟩ st.swsCtx with
        | none => { st with swsCtx := none }
        | some context =>
          { st with swsCtx := some context, log := st.log ++ [.scale context frame] } := by
  unfold decodeFrameToRgb nextContext freshContext
  simp only [ne_standardSize_iff]
  by_cases hstd : frame = standardSize
  · subst hstd
    cases hctx : st.swsCtx with
    | none =>
      cases hget : ff.swsGetContext st.decoder standardSize <;> simp [createScaler, hget]
    | some context => simp [hctx]
  · -- Another size than the standard one: the second call of `sws_getContext` decides.
    cases hctx : st.swsCtx <;> cases hget : ff.swsGetContext st.decoder frame <;>
      simp [createScaler, hstd, hctx, hget]

/-- A conversion leaves `nextContext`, and it scales with it when there is one. The theorems
about sequences use this one and never unfold the body. -/
theorem convert_eq (ff : Ffmpeg δ) (st : State δ) (c : Conversion δ) :
    (convert ff st c).swsCtx = nextContext ff c st.swsCtx ∧
      (convert ff st c).scales = st.scales
        ++ ((nextContext ff c st.swsCtx).map fun context => (context, c.frame)).toList := by
  unfold convert
  rw [decodeFrameToRgb_eq]
  show _ = nextContext ff c st.swsCtx ∧ _
  cases hnext : nextContext ff c st.swsCtx with
  | none => simp [State.scales]
  | some context => simp [State.scales, Effect.scale?]

/-- The context would be stale for the frame: it has another size, and the frame has the
standard size, for which the code makes no new context. -/
def Stale (context : Option FrameSize) (frame : FrameSize) : Prop :=
  frame = standardSize ∧ ∃ size, context = some size ∧ size ≠ standardSize

/-- A conversion scales with a context of another size exactly when the context before it is
stale. A fresh context has the size of its frame. -/
theorem nextContext_eq_frame_iff (ff : Ffmpeg δ) (c : Conversion δ)
    (context : Option FrameSize) :
    (∀ size, nextContext ff c context = some size → size = c.frame)
      ↔ ¬ Stale context c.frame := by
  have hfresh : ∀ size, freshContext ff c = some size → size = c.frame := by
    intro size h
    unfold freshContext at h
    split at h
    · exact (Option.some.inj h).symm
    · cases h
  unfold nextContext
  by_cases hstd : c.frame = standardSize
  · cases context with
    | none =>
      rw [if_pos (Or.inr rfl)]
      exact ⟨fun _ ⟨_, _, h, _⟩ => absurd h (by simp), fun _ => hfresh⟩
    | some old =>
      -- The old context is used again.
      rw [if_neg (by simp [hstd]), hstd]
      simp [Stale]
  · rw [if_pos (Or.inl hstd)]
    exact ⟨fun _ ⟨h, _⟩ => hstd h, fun _ => hfresh⟩

/-- A conversion of another size than the standard one, for which `sws_getContext` returned a
context, followed by a conversion of the standard size. -/
def BackToStandard (ff : Ffmpeg δ) (c c' : Conversion δ) : Prop :=
  c.frame ≠ standardSize ∧ ff.swsGetContext c.decoder c.frame = true ∧
    c'.frame = standardSize

/-- Behind a conversion with a good context, the context is stale exactly when its own size is
not the standard one and the next frame has the standard size. So staleness is a property of two
conversions in a row. -/
theorem stale_nextContext_iff (ff : Ffmpeg δ) (c c' : Conversion δ)
    {context : Option FrameSize} (h : ¬ Stale context c.frame) :
    Stale (nextContext ff c context) c'.frame ↔ BackToStandard ff c c' := by
  unfold nextContext freshContext Stale BackToStandard
  -- The conversion keeps the context of the standard size, or it makes one of another size.
  by_cases hstd : c.frame = standardSize
  · cases context with
    | none => cases ff.swsGetContext c.decoder c.frame <;> simp [hstd]
    | some old =>
      have hold : old = standardSize := by
        by_contra hne
        exact h ⟨hstd, old, rfl, hne⟩
      simp [hstd, hold]
  · rw [if_pos (Or.inl hstd)]
    cases ff.swsGetContext c.decoder c.frame <;> simp [hstd, and_comm]

/-! ### All conversions -/

/-- The contract after one more conversion: it held before, and the context is not stale for the
new frame. -/
theorem scalesMatch_convert_iff (ff : Ffmpeg δ) (st : State δ) (c : Conversion δ) :
    ScalesMatch (convert ff st c) ↔ ScalesMatch st ∧ ¬ Stale st.swsCtx c.frame := by
  rw [← nextContext_eq_frame_iff ff c st.swsCtx]
  unfold ScalesMatch
  rw [(convert_eq ff st c).2]
  constructor
  · intro h
    refine ⟨fun context frame hin => h context frame (List.mem_append_left _ hin),
      fun size hsize => h size c.frame (List.mem_append_right _ ?_)⟩
    rw [hsize]
    exact List.mem_singleton.mpr rfl
  · -- A `sws_scale` call is an earlier one or the new one.
    rintro ⟨hold, hnew⟩ context frame hin
    rcases List.mem_append.mp hin with hin | hin
    · exact hold context frame hin
    · rw [Option.mem_toList, Option.map_eq_some_iff] at hin
      obtain ⟨size, hsize, heq⟩ := hin
      cases heq
      exact hnew context hsize

/-- The contract after a sequence of conversions from any state. The induction is over the
conversions, and each step turns the staleness of the next context into a condition on a pair. -/
theorem scalesMatch_conversions_iff (ff : Ffmpeg δ) (st : State δ) (cs : List (Conversion δ)) :
    ScalesMatch (conversions ff st cs)
      ↔ ScalesMatch st ∧ (∀ c, cs.head? = some c → ¬ Stale st.swsCtx c.frame) ∧
        cs.IsChain fun c c' => ¬ BackToStandard ff c c' := by
  induction cs generalizing st with
  | nil => simp [conversions]
  | cons c cs ih =>
    show ScalesMatch (conversions ff (convert ff st c) cs) ↔ _
    rw [ih, scalesMatch_convert_iff, (convert_eq ff st c).1]
    -- From left to right the stale context of the next frame becomes a pair of conversions.
    constructor
    · rintro ⟨⟨hmatch, hc⟩, hnext, hchain⟩
      refine ⟨hmatch, ?_, ?_⟩
      · rintro _ ⟨⟩
        exact hc
      · cases cs with
        | nil => exact List.isChain_singleton c
        | cons c' cs =>
          refine List.isChain_cons_cons.mpr ⟨?_, hchain⟩
          rw [← stale_nextContext_iff ff c c' hc]
          exact hnext c' rfl
    · rintro ⟨hmatch, hhead, hchain⟩
      have hc := hhead c rfl
      refine ⟨⟨hmatch, hc⟩, ?_, List.isChain_of_isChain_cons hchain⟩
      intro c' hc'
      cases cs with
      | nil => cases hc'
      | cons c'' cs =>
        cases hc'
        rw [stale_nextContext_iff ff c c' hc]
        exact (List.isChain_cons_cons.mp hchain).1

/-- The contract after a sequence of conversions from `receiver_init` on. There is no context
at the start, so only a pair of conversions can break it. -/
theorem scalesMatch_receiverInit_iff (ff : Ffmpeg δ)
    (h264Buf : Support.Block UInt8 H264_BUF_SIZE) (decoder : δ) (cs : List (Conversion δ)) :
    ScalesMatch (conversions ff (receiverInit h264Buf decoder) cs)
      ↔ cs.IsChain fun c c' => ¬ BackToStandard ff c c' := by
  rw [scalesMatch_conversions_iff]
  have hinit : ScalesMatch (receiverInit h264Buf decoder) := by
    intro context frame hin
    cases hin
  have hstart : ∀ frame, ¬ Stale (receiverInit h264Buf decoder).swsCtx frame := by
    rintro frame ⟨-, size, h, -⟩
    cases h
  exact ⟨fun h => h.2.2, fun h => ⟨hinit, fun c _ => hstart c.frame, h⟩⟩

/-- From `receiver_init` on, every `sws_scale` has a context of the size of its frame exactly
when no frame of the standard size comes directly behind a frame of another size for which
`sws_getContext` returned a context. -/
theorem scalesMatch_iff (ff : Ffmpeg δ) (h264Buf : Support.Block UInt8 H264_BUF_SIZE)
    (decoder : δ) (cs : List (Conversion δ)) :
    ScalesMatch (conversions ff (receiverInit h264Buf decoder) cs)
      ↔ cs.IsChain fun c c' => ¬ (c.frame ≠ standardSize ∧
        ff.swsGetContext c.decoder c.frame = true ∧ c'.frame = standardSize) :=
  scalesMatch_receiverInit_iff ff h264Buf decoder cs

/-- An FFmpeg that allocates every packet and every context, and that decodes nothing. -/
def scalingFfmpeg : Ffmpeg Unit where
  avNewPacket _ _ := true
  avcodecSendPacket d _ := (true, d)
  avcodecReceiveFrames d := ([], d)
  swsGetContext _ _ := true

/-- A frame of 320x240, and then one of 176x144: the second one is scaled with the context of
the first one, which is for rows of 320 pixels. -/
theorem not_scalesMatch_smallAfterLarge :
    ¬ ScalesMatch (conversions scalingFfmpeg (receiverInit ⟨fun _ => 0⟩ ())
      [⟨(), ⟨320, 240⟩⟩, ⟨(), ⟨176, 144⟩⟩]) := by
  intro h
  have hsame := h ⟨320, 240⟩ ⟨176, 144⟩ (List.mem_cons_of_mem _ List.mem_cons_self)
  exact absurd hsame (by decide)

/-! ### The conversions of a run -/

/-- The two states have the same context and the same `sws_scale` calls. -/
def SameScaler (st st' : State δ) : Prop := st'.swsCtx = st.swsCtx ∧ st'.scales = st.scales

/-- From `st` to `st'` the context and the `sws_scale` calls changed as in a sequence of
conversions. -/
def Converts (ff : Ffmpeg δ) (st st' : State δ) : Prop :=
  ∃ cs, SameScaler (conversions ff st cs) st'

/-- Conversions depend on the context and the `sws_scale` calls only. So the rest of the state
may change between them. -/
theorem SameScaler.conversions {ff : Ffmpeg δ} {st st' : State δ} (h : SameScaler st st')
    (cs : List (Conversion δ)) :
    SameScaler (conversions ff st cs) (conversions ff st' cs) := by
  induction cs generalizing st st' with
  | nil => exact h
  | cons c cs ih =>
    obtain ⟨hctx, hscales⟩ := convert_eq ff st c
    obtain ⟨hctx', hscales'⟩ := convert_eq ff st' c
    apply ih
    exact ⟨by rw [hctx, hctx', h.1], by rw [hscales, hscales', h.1, h.2]⟩

/-- A call without a conversion. -/
theorem Converts.of_same {ff : Ffmpeg δ} {st st' : State δ} (h : SameScaler st st') :
    Converts ff st st' :=
  ⟨[], h⟩

/-- The conversions of two calls in a row. -/
theorem Converts.trans {ff : Ffmpeg δ} {st₁ st₂ st₃ : State δ} (h : Converts ff st₁ st₂)
    (h' : Converts ff st₂ st₃) : Converts ff st₁ st₃ := by
  obtain ⟨cs, hsame⟩ := h
  obtain ⟨cs', hsame'⟩ := h'
  refine ⟨cs ++ cs', ?_⟩
  have hrest : SameScaler (Receiver.conversions ff (Receiver.conversions ff st₁ cs) cs')
      (Receiver.conversions ff st₂ cs') := hsame.conversions cs'
  unfold Receiver.conversions at hrest hsame' ⊢
  rw [List.foldl_append]
  exact ⟨hsame'.1.trans hrest.1, hsame'.2.trans hrest.2⟩

/-- The loop over the decoded frames is one conversion for each frame. -/
theorem decodeFrames_converts (ff : Ffmpeg δ) (frames : List FrameSize) (st : State δ) :
    Converts ff st (decodeFrames ff frames st).2 := by
  induction frames generalizing st with
  | nil => exact Converts.of_same ⟨rfl, rfl⟩
  | cons frame frames ih =>
    have hone : Converts ff st (decodeFrameToRgb ff frame st).2 :=
      ⟨[⟨st.decoder, frame⟩], rfl, rfl⟩
    exact hone.trans (ih _)

/-- Handing a buffer to the decoder converts the frames that come out of it. -/
theorem handToDecoder_converts (ff : Ffmpeg δ) (path : Path) (bytes : List UInt8)
    (st : State δ) : Converts ff st (handToDecoder ff path bytes st).2 := by
  -- `avcodec_send_packet` is not a `sws_scale` call.
  have hsend : ∀ decoder, SameScaler st
      { st with decoder := decoder, log := st.log ++ [.sendPacket path bytes] } :=
    fun decoder => ⟨rfl, by simp [State.scales, Effect.scale?]⟩
  unfold handToDecoder
  split
  · simp only
    split
    · exact (Converts.of_same (hsend _)).trans (decodeFrames_converts ff _ _)
    · exact Converts.of_same (hsend _)
  · exact Converts.of_same ⟨rfl, rfl⟩

/-- A fragment that is stored converts nothing. -/
theorem storeFragment_same {f : Fragment} {st st' : State δ}
    (h : storeFragment f st = .ok st') : SameScaler st st' := by
  unfold storeFragment at h
  split at h
  · obtain ⟨_, -, h⟩ := Support.bind_eq_ok.mp h
    obtain ⟨_, -, h⟩ := Support.bind_eq_ok.mp h
    obtain ⟨_, -, h⟩ := Support.bind_eq_ok.mp h
    cases h
    exact ⟨rfl, rfl⟩
  · obtain ⟨_, -, h⟩ := Support.bind_eq_ok.mp h
    cases h
    exact ⟨rfl, rfl⟩

/-- The FU-A path converts at the end fragment only. -/
theorem receiveFragment_converts {ff : Ffmpeg δ} {f : Fragment} {st : State δ}
    {r : Bool × State δ} (h : receiveFragment ff f st = .ok r) : Converts ff st r.2 := by
  obtain ⟨st₁, hstore, h⟩ := Support.bind_eq_ok.mp h
  have hsame : Converts ff st st₁ := Converts.of_same (storeFragment_same hstore)
  split at h
  · -- The end bit: the buffer goes to the decoder, and the length is reset.
    obtain ⟨bytes, -, h⟩ := Support.bind_eq_ok.mp h
    cases h
    exact (hsame.trans (handToDecoder_converts ff .fuA bytes st₁)).trans
      (Converts.of_same ⟨rfl, rfl⟩)
  · cases h
    exact hsame

/-- Every branch for a datagram converts what its buffer decodes to. -/
theorem receivePacket_converts {ff : Ffmpeg δ} {buf : Datagram} {st : State δ}
    {r : Bool × State δ} (h : receivePacket ff buf st = .ok r) : Converts ff st r.2 := by
  obtain ⟨payload, -, h⟩ := Support.bind_eq_ok.mp h
  have hcount : Converts ff st
      { st with gBytesReceived := st.gBytesReceived + UInt64.ofNat buf.length } :=
    Converts.of_same ⟨rfl, rfl⟩
  -- The counter of the bytes is no conversion, and each branch hands one buffer over or none.
  cases payload with
  | ignored =>
    cases h
    exact hcount
  | annexB payload =>
    cases h
    exact hcount.trans (handToDecoder_converts ff .annexB payload _)
  | fuA fragment => exact hcount.trans (receiveFragment_converts h)
  | singleNal payload =>
    cases h
    exact hcount.trans (handToDecoder_converts ff .singleNal (startCode ++ payload) _)

/-- The datagrams convert one after the other. -/
theorem receivePackets_converts {ff : Ffmpeg δ} {bufs : List Datagram} {st st' : State δ}
    (h : receivePackets ff bufs st = .ok st') : Converts ff st st' := by
  induction bufs generalizing st with
  | nil =>
    cases h
    exact Converts.of_same ⟨rfl, rfl⟩
  | cons buf bufs ih =>
    obtain ⟨r, hhead, htail⟩ := Support.bind_eq_ok.mp h
    exact (receivePacket_converts hhead).trans (ih htail)

/-- The `sws_scale` calls of every run of `receiver_poll` are those of a sequence of
conversions. By `receiverRun_spec` a run receives a list of datagrams. -/
theorem receiverRun_converts {ff : Ffmpeg δ} {arrivals : List (List Datagram)}
    {st st' : State δ} {socket socket' : List Datagram}
    (h : receiverRun ff arrivals (st, socket) = .ok (st', socket')) : Converts ff st st' := by
  have hspec := receiverRun_spec ff arrivals st socket
  rw [h] at hspec
  obtain ⟨seen, -, hseen⟩ := hspec
  exact receivePackets_converts hseen

/-- Every run of `receiver_poll` after `receiver_init` makes the `sws_scale` calls of a
sequence of conversions. Its contexts have the sizes of the frames exactly when no conversion
of the standard size follows directly on one of another size. -/
theorem scalesMatch_receiverRun {ff : Ffmpeg δ} {h264Buf : Support.Block UInt8 H264_BUF_SIZE}
    {decoder : δ} {arrivals : List (List Datagram)} {st : State δ} {socket : List Datagram}
    (h : receiverRun ff arrivals (receiverInit h264Buf decoder, []) = .ok (st, socket)) :
    ∃ cs, st.scales = (conversions ff (receiverInit h264Buf decoder) cs).scales ∧
      (ScalesMatch st ↔ cs.IsChain fun c c' => ¬ BackToStandard ff c c') := by
  obtain ⟨cs, -, hscales⟩ := receiverRun_converts h
  refine ⟨cs, hscales, ?_⟩
  rw [← scalesMatch_receiverInit_iff ff h264Buf decoder cs]
  unfold ScalesMatch
  rw [hscales]

end DoomSat.Receiver
