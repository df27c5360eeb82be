import DoomSat.Proofs.RingBuffer.Runs
import DoomSat.Proofs.Satellite.Delivery
import Mathlib.Data.List.Forall2

/-!
# `DoomSat.Proofs.Satellite.Runs`: from the frames of DOOM to the calls of the downlink

A run interleaves the DOOM thread, the encoder thread and the signals. Three invariants hold
in every state of every run: `PollInv` for the ring buffer, `PictureInv` for the frames on
their way to x264 and to the downlink, and `ClockInv` for the schedule and the counters.
Each one follows from the effect of a step (`Effect`).

* `encoder_gets_published`: x264 gets the published frames, each one once, in order, and
  with at most four frames behind.
* `downlink_gets_encoded`: the downlink is called for the encoded pictures, in order, with
  the RTP timestamp of their frames.
* `encoder_schedule`: the time of the next frame is 50 ms for each poll after the start.
-/

set_option autoImplicit false

namespace DoomSat.Satellite

open Support
open Downlink (Call Nal runCall runCalls)
open Encoder
open RingBuffer (Event Frame RunInv publishedFrames releasedFrames returnedFrames runInv_step)

variable {ξ : Type}

/-! ### The polls of the ring buffer -/

/-- What a return of `ringbuffer_read_frame` gave. -/
def pollResult? : Event → Option (Option Frame)
  | .readReturned frame => some frame
  | _ => none

/-- What the calls of `ringbuffer_read_frame` returned, in order. -/
def pollResults (out : List Event) : List (Option Frame) := out.filterMap pollResult?

/-- The results of the polls in two parts of a run. -/
theorem pollResults_append (out out' : List Event) :
    pollResults (out ++ out') = pollResults out ++ pollResults out' :=
  List.filterMap_append

/-- The frames that the calls returned are the results of the polls, without the empty ones. -/
theorem returnedFrames_eq (out : List Event) :
    returnedFrames out = (pollResults out).reduceOption := by
  induction out with
  | nil => rfl
  | cons event out ih =>
    have hout : returnedFrames (event :: out)
        = (RingBuffer.Event.returned? event).toList ++ returnedFrames out := by
      unfold returnedFrames
      cases h : RingBuffer.Event.returned? event with
      | none => exact List.filterMap_cons_none h
      | some frame => exact List.filterMap_cons_some h
    rw [hout, ih]
    -- Only the return of a call counts on either side.
    cases event with
    | readReturned frame => cases frame with
      | none => rfl
      | some frame => rfl
    | published frame | released frame | writeReturned accepted => rfl

/-- The returned frames of two parts of a run. -/
theorem returnedFrames_append (out out' : List Event) :
    returnedFrames (out ++ out') = returnedFrames out ++ returnedFrames out' :=
  List.filterMap_append

/-- The DOOM thread does not read: its steps make no result of a poll, and they leave the reader
where it is. One case per action of the thread and program counter of the writer. -/
theorem pollResults_doom (ring : RingBuffer.State) (action : DoomAction) :
    pollResults (RingBuffer.step ring action.onRing).2 = [] ∧
      (RingBuffer.step ring action.onRing).1.reader = ring.reader := by
  cases action with
  | beginWrite pixels width height =>
    unfold DoomAction.onRing RingBuffer.step
    cases ring.writer with
    | idle =>
      cases pixels with
      | none => exact ⟨rfl, rfl⟩
      | some pixels =>
        dsimp only [RingBuffer.beginWrite]
        split
        · exact ⟨rfl, rfl⟩
        · exact ⟨rfl, rfl⟩
    | load | acquire | draw | publish | advance | finish => exact ⟨rfl, rfl⟩
  | updatePalette palette =>
    unfold DoomAction.onRing RingBuffer.step
    cases ring.writer with
    | idle => exact ⟨rfl, rfl⟩
    | load | acquire | draw | publish | advance | finish => exact ⟨rfl, rfl⟩
  | writerStep =>
    unfold DoomAction.onRing RingBuffer.step RingBuffer.writerStep
    cases ring.writer with
    | idle | load | publish | advance | finish => exact ⟨rfl, rfl⟩
    | acquire | draw =>
      dsimp only
      split
      · exact ⟨rfl, rfl⟩
      · exact ⟨rfl, rfl⟩

/-- A call of `ringbuffer_read_frame` starts without an output. -/
theorem beginRead_idle {ring : RingBuffer.State} (hidle : ring.reader = .idle) (frame : Frame) :
    (RingBuffer.step ring (.beginRead frame)).2 = [] := by
  unfold RingBuffer.step
  rw [hidle]

/-- A step in `ringbuffer_read_frame` returns, and then the call is over, or it has no result
yet. -/
theorem readerStep_cases (ring : RingBuffer.State) :
    (∃ frame, (RingBuffer.step ring .readerStep).2 = [.readReturned frame] ∧
      (RingBuffer.step ring .readerStep).1.reader = .idle) ∨
      pollResults (RingBuffer.step ring .readerStep).2 = [] := by
  unfold RingBuffer.step RingBuffer.readerStep
  cases ring.reader with
  | idle | load | release => exact Or.inr rfl
  | acquire out slot =>
    dsimp only
    split
    · exact Or.inr rfl
    · exact Or.inl ⟨none, rfl, rfl⟩
  | copy out slot i =>
    dsimp only
    split
    · exact Or.inr rfl
    · exact Or.inr rfl
  | advance out slot => exact Or.inl ⟨some out, rfl, rfl⟩

/-- The ring buffer keeps its invariant, and the encoder thread is in a call of
`ringbuffer_read_frame` only where it reads. -/
structure PollInv (st : State ξ) (out : List Event) : Prop where
  ring : RunInv st.ring out
  idle : st.pc ≠ .read → st.ring.reader = .idle

/-- Every effect of a step keeps the invariant. The ring buffer is that of `RingBuffer.Runs`, so
all that is left is where the reader is: a poll that returned has left it idle. -/
theorem PollInv.step {env : Env ξ} {st st' : State ξ} {a : Action} {out out' : List Event}
    (heffect : Effect env st a st' out') (h : PollInv st out) : PollInv st' (out ++ out') := by
  cases heffect with
  | doom action =>
    refine ⟨runInv_step h.ring _, fun hpc => ?_⟩
    rw [(pollResults_doom st.ring action).2]
    exact h.idle hpc
  | beginRead hpc hrunning => exact ⟨runInv_step h.ring _, fun hpc => absurd rfl hpc⟩
  | reading hpc hnone => exact ⟨runInv_step h.ring _, fun hpc' => absurd hpc hpc'⟩
  | read hpc frame hreturn =>
    have hring : RunInv (RingBuffer.step st.ring .readerStep).1
        (out ++ (RingBuffer.step st.ring .readerStep).2) := runInv_step h.ring _
    have hidle : (RingBuffer.step st.ring .readerStep).1.reader = .idle := by
      rcases readerStep_cases st.ring with ⟨frame', -, hreader⟩ | hsilent
      · exact hreader
      · rw [hreturn] at hsilent
        cases hsilent
    cases frame with
    | none => exact ⟨hring, fun _ => hidle⟩
    | some frame => exact ⟨hring, fun _ => hidle⟩
  | stop =>
    rw [List.append_nil]
    exact ⟨h.ring, h.idle⟩
  | opened hpc | failed hpc | leave hpc | encoded hpc | slept hpc | flushed hpc | closed hpc
  | returned hpc =>
    rw [List.append_nil]
    exact ⟨h.ring, fun _ => h.idle (by rw [hpc]; decide)⟩

/-- The frames that the polls returned are published ones, with their numbers. For the ring buffer
alone this is that reads are a prefix of writes; here it is in the form that the encoder needs. -/
theorem getElem?_returnedFrames {ring : RingBuffer.State} {out : List Event}
    (h : RunInv ring out) {k : Nat} {frame : Frame}
    (hk : (returnedFrames out)[k]? = some frame) :
    (publishedFrames out)[k]? = some frame ∧ frame.number = UInt32.ofNat k := by
  obtain ⟨q, hqueue, -⟩ := h.queue
  have hreleased : returnedFrames out <+: releasedFrames out := ⟨_, h.returned.symm⟩
  have hprefix : returnedFrames out <+: publishedFrames out :=
    hreleased.trans hqueue.dequeued_prefix
  obtain ⟨rest, hrest⟩ := hprefix
  have hpublished : (publishedFrames out)[k]? = some frame := by
    rw [← hrest, List.getElem?_append_left (List.getElem?_eq_some_iff.mp hk).1]
    exact hk
  exact ⟨hpublished, h.number k frame hpublished⟩

/-- At most three frames are in the ring buffer, and one is on its way out of it. -/
theorem length_publishedFrames_le {ring : RingBuffer.State} {out : List Event}
    (h : RunInv ring out) :
    (returnedFrames out).length ≤ (publishedFrames out).length ∧
      (publishedFrames out).length
        ≤ (returnedFrames out).length + ring.reader.pendingReturn.length + 3 := by
  obtain ⟨q, hqueue, hsim⟩ := h.queue
  have hlaw : publishedFrames out = releasedFrames out ++ q := hqueue.append_enqueued
  have hroom := hsim.slots.room
  rw [hlaw, h.returned, List.length_append, List.length_append]
  omega

/-! ### The pictures -/

/-- The frame between `ringbuffer_read_frame` and `encoder_encode_frame`. -/
def pendingFrame (st : State ξ) : List Frame :=
  match st.pc with
  | .encode => [st.frame]
  | _ => []

/-- The calls of `downlink_send_nals` for the pictures that x264 got. -/
def callsOf (log : List EncodeCall) : List Call :=
  log.zipIdx.flatMap fun entry => sendCalls entry.1.encoded.output (UInt32.ofNat entry.2)

/-- The calls for one more picture. Its timestamp comes from the number of pictures before it. -/
theorem callsOf_concat (log : List EncodeCall) (call : EncodeCall) :
    callsOf (log ++ [call])
      = callsOf log ++ sendCalls call.encoded.output (UInt32.ofNat log.length) := by
  unfold callsOf
  rw [List.zipIdx_append, List.flatMap_append]
  simp

/-- A call of the downlink is for one of the pictures. It has at most 32 NAL units, which is the
size of the static arrays in `encoder_encode_frame`. -/
theorem mem_callsOf {log : List EncodeCall} {call : Call} (h : call ∈ callsOf log) :
    call.nals ≠ [] ∧ ∃ k encodeCall, log[k]? = some encodeCall ∧
      0 < encodeCall.encoded.frameSize ∧ call.nals = encodeCall.encoded.nals.take 32 ∧
      call.timestamp = UInt32.ofNat (4500 * k) := by
  obtain ⟨⟨encodeCall, k⟩, hmem, hcall⟩ := List.mem_flatMap.mp h
  have hk : log[k]? = some encodeCall := by
    have hget := List.mk_mem_zipIdx_iff_getElem?.mp hmem
    exact hget
  unfold sendCalls at hcall
  -- A picture without NAL units makes no call.
  split at hcall
  · cases hcall
  · next hsome =>
    obtain rfl := List.mem_singleton.mp hcall
    have hpos : ¬ encodeCall.encoded.frameSize ≤ 0 := fun hle => hsome (if_pos hle)
    refine ⟨hsome, k, encodeCall, hk, Int.not_le.mp hpos, if_neg hpos, ?_⟩
    show UInt32.ofNat k * UInt32.ofNat 4500 = _
    rw [← UInt32.ofNat_mul, Nat.mul_comm]

/-- The pictures that x264 got show the frames that the polls returned, and the downlink got
what x264 made of them. -/
structure PictureInv (env : Env ξ) (tx : Downlink.State) (st : State ξ) (out : List Event) :
    Prop where
  frames : ∃ encoded, returnedFrames out = encoded ++ pendingFrame st ∧
    List.Forall₂ (fun call frame => Shows call.pic frame.data) st.ctx.log encoded
  pts : ∀ k call, st.ctx.log[k]? = some call → call.pts = Int64.ofNat k
  count : st.ctx.frameCount = Int64.ofNat st.ctx.log.length
  sends : st.downlink = runCalls env.net tx (callsOf st.ctx.log)
  encoded : st.framesEncoded = UInt32.ofNat (callsOf st.ctx.log).length

section
variable {env : Env ξ} {tx : Downlink.State} {st st' : State ξ} {out out' : List Event}

/-- A step that leaves the encoder, the downlink and the frames alone keeps the invariant, as
long as it returns no frame. -/
theorem PictureInv.stay (h : PictureInv env tx st out) (hlog : st'.ctx.log = st.ctx.log)
    (hcount : st'.ctx.frameCount = st.ctx.frameCount) (hsends : st'.downlink = st.downlink)
    (hencoded : st'.framesEncoded = st.framesEncoded)
    (hframes : returnedFrames out ++ returnedFrames out' = returnedFrames out)
    (hpending : pendingFrame st' = pendingFrame st) : PictureInv env tx st' (out ++ out') := by
  refine ⟨?_, ?_, ?_, ?_, ?_⟩
  · rw [returnedFrames_append, hframes, hpending, hlog]
    exact h.frames
  · rw [hlog]
    exact h.pts
  · rw [hlog, hcount]
    exact h.count
  · rw [hlog, hsends]
    exact h.sends
  · rw [hlog, hencoded]
    exact h.encoded

/-- Without a result of a poll there is no returned frame. -/
theorem append_returnedFrames_nil (h : pollResults out' = []) :
    returnedFrames out ++ returnedFrames out' = returnedFrames out := by
  rw [returnedFrames_eq out', h]
  exact List.append_nil _

/-- Outside `encode` no frame is between the ring buffer and the encoder. -/
theorem pendingFrame_eq_nil (h : st.pc ≠ .encode) : pendingFrame st = [] := by
  unfold pendingFrame
  split
  · next hpc => exact absurd hpc h
  · rfl

/-- A picture is encoded and sent: the frame of the last poll. Its number is the number of the
pictures before it, because the ring buffer numbers the frames and none is skipped. So the
timestamps that the sender computes from the frame numbers are those of `callsOf`. -/
theorem PictureInv.encode (h : PictureInv env tx st out) (hring : RunInv st.ring out)
    (hpc : st.pc = .encode) (encoder : ξ) (hfits : Fits st.ctx.picIn) :
    PictureInv env tx (afterEncode env st encoder) (out ++ []) := by
  obtain ⟨encoded, hreturned, hshows⟩ := h.frames
  have hlength : encoded.length = st.ctx.log.length := hshows.length_eq.symm
  have hpending : pendingFrame st = [st.frame] := by
    unfold pendingFrame
    rw [hpc]
  rw [hpending] at hreturned
  have hnumber : st.frame.number = UInt32.ofNat st.ctx.log.length := by
    refine (getElem?_returnedFrames hring ?_).2
    rw [hreturned, ← hlength, List.getElem?_append_right (Nat.le_refl _), Nat.sub_self]
    rfl
  -- The frame number becomes the timestamp.
  have hcalls : callsOf (afterEncode env st encoder).ctx.log
      = callsOf st.ctx.log ++ sendCalls
          (encodeFrameResult env.x264 st.ctx encoder st.frame.data).1.output
          st.frame.number := by
    rw [hnumber]
    exact callsOf_concat ..
  rw [List.append_nil]
  refine ⟨⟨encoded ++ [st.frame], ?_, ?_⟩, ?_, ?_, ?_, ?_⟩
  · rw [hreturned]
    exact (List.append_nil _).symm
  · -- The picture shows the frame, by the theorem on the colour conversion.
    have hshown := (picIn_nextCtx env.x264 st.ctx encoder st.frame.data hfits).2
    exact List.rel_append hshows (.cons hshown .nil)
  · intro k call hk
    have hlog : (afterEncode env st encoder).ctx.log = st.ctx.log ++ [_] := rfl
    rw [hlog] at hk
    rcases Nat.lt_or_ge k st.ctx.log.length with hlt | hge
    · rw [List.getElem?_append_left hlt] at hk
      exact h.pts k call hk
    · -- The new picture has the number of the pictures before it.
      rw [List.getElem?_append_right hge, List.getElem?_singleton] at hk
      split at hk
      · next hzero =>
        have hlast : k = st.ctx.log.length := by omega
        rw [← Option.some.inj hk, hlast]
        exact h.count
      · cases hk
  · show st.ctx.frameCount + 1 = Int64.ofNat (st.ctx.log ++ [_]).length
    rw [h.count, List.length_append, List.length_singleton, Int64.ofNat_add]
    rfl
  · rw [hcalls]
    show runCalls env.net st.downlink _ = _
    rw [h.sends]
    exact (List.foldl_append ..).symm
  · rw [hcalls, List.length_append, UInt32.ofNat_add, ← h.encoded]
    rfl

/-- Every effect of a step keeps the invariant. Only two of them move a frame: a poll that
returns one makes it the pending frame, and `encode` takes it from there. -/
theorem PictureInv.step {a : Action} (heffect : Effect env st a st' out') (hpoll : PollInv st out)
    (h : PictureInv env tx st out) : PictureInv env tx st' (out ++ out') := by
  cases heffect with
  | doom action =>
    exact h.stay rfl rfl rfl rfl
      (append_returnedFrames_nil (pollResults_doom st.ring action).1) rfl
  | stop => exact h.stay rfl rfl rfl rfl (List.append_nil _) rfl
  | opened hpc | leave hpc | slept hpc | closed hpc =>
    have hnone : pendingFrame st = [] := pendingFrame_eq_nil (by rw [hpc]; decide)
    exact h.stay rfl rfl rfl rfl (List.append_nil _) hnone.symm
  | returned hpc => exact h.stay rfl rfl rfl rfl (List.append_nil _) rfl
  | failed hpc ctx hlog hcount =>
    have hnone : pendingFrame st = [] := pendingFrame_eq_nil (by rw [hpc]; decide)
    exact h.stay hlog hcount rfl rfl (List.append_nil _) hnone.symm
  | beginRead hpc hrunning =>
    have hsilent := beginRead_idle (hpoll.idle (by rw [hpc]; decide)) st.frame
    have hnone : pendingFrame st = [] := pendingFrame_eq_nil (by rw [hpc]; decide)
    rw [hsilent]
    exact h.stay rfl rfl rfl rfl (List.append_nil _) hnone.symm
  | reading hpc hnone =>
    rcases readerStep_cases st.ring with ⟨frame, hreturn, -⟩ | hsilent
    · exact absurd hreturn (hnone frame)
    · exact h.stay rfl rfl rfl rfl (append_returnedFrames_nil hsilent) rfl
  | read hpc frame hreturn =>
    have hnone : pendingFrame st = [] := pendingFrame_eq_nil (by rw [hpc]; decide)
    rw [hreturn]
    cases frame with
    | none => exact h.stay rfl rfl rfl rfl (List.append_nil _) hnone.symm
    | some frame =>
      obtain ⟨encoded, hreturned, hshows⟩ := h.frames
      rw [hnone, List.append_nil] at hreturned
      refine ⟨⟨encoded, ?_, hshows⟩, h.pts, h.count, h.sends, h.encoded⟩
      rw [returnedFrames_append, hreturned]
      rfl
  | encoded hpc encoder hopen hfits => exact h.encode hpoll.ring hpc encoder hfits
  | flushed hpc encoder hopen =>
    -- The flush hands over a picture of no frame, which the log leaves out.
    have hctx : (flushFrame env.x264 encoder st.ctx).2.log = st.ctx.log ∧
        (flushFrame env.x264 encoder st.ctx).2.frameCount = st.ctx.frameCount := by
      unfold flushFrame
      dsimp only
      split
      · exact ⟨rfl, rfl⟩
      · exact ⟨rfl, rfl⟩
    refine h.stay hctx.1 hctx.2 rfl rfl (List.append_nil _) ?_
    have hnone : pendingFrame st = [] := pendingFrame_eq_nil (by rw [hpc]; decide)
    rw [hnone, pendingFrame_eq_nil]
    show (if (flushFrame env.x264 encoder st.ctx).1 then Pc.shutdown else .done) ≠ .encode
    split <;> decide

/-- At most four frames are published and not encoded: three in the ring buffer, and one on
its way to the encoder. -/
theorem PictureInv.length_log (h : PictureInv env tx st out) (hpoll : PollInv st out) :
    st.ctx.log.length ≤ (publishedFrames out).length ∧
      (publishedFrames out).length ≤ st.ctx.log.length + 4 := by
  obtain ⟨encoded, hreturned, hshows⟩ := h.frames
  have hlength : st.ctx.log.length = encoded.length := hshows.length_eq
  obtain ⟨hle, hbound⟩ := length_publishedFrames_le hpoll.ring
  rw [hreturned, List.length_append] at hle hbound
  by_cases hpc : st.pc = .encode
  · -- The thread has left the ring buffer with the frame.
    have hidle : st.ring.reader = .idle := hpoll.idle (by rw [hpc]; decide)
    have hone : (pendingFrame st).length = 1 := by
      unfold pendingFrame
      rw [hpc]
      rfl
    have hzero : st.ring.reader.pendingReturn.length = 0 := by
      rw [hidle]
      rfl
    omega
  · have hnone : (pendingFrame st).length = 0 := by
      rw [pendingFrame_eq_nil hpc]
      rfl
    have hone : st.ring.reader.pendingReturn.length ≤ 1 := by
      unfold RingBuffer.Reader.pendingReturn
      split <;> simp
    omega

/-- The picture with number `k` shows the published frame with number `k`. The encoded frames
start the returned ones, and these start the published ones. -/
theorem PictureInv.shows (h : PictureInv env tx st out) (hpoll : PollInv st out) {k : Nat}
    {call : EncodeCall} (hk : st.ctx.log[k]? = some call) :
    call.pts = Int64.ofNat k ∧
      ∃ published, (publishedFrames out)[k]? = some published ∧
        published.number = UInt32.ofNat k ∧ Shows call.pic published.data := by
  obtain ⟨encoded, hreturned, hshows⟩ := h.frames
  obtain ⟨hlt, rfl⟩ := List.getElem?_eq_some_iff.mp hk
  have hlt' : k < encoded.length := hshows.length_eq ▸ hlt
  have hframe : (returnedFrames out)[k]? = some (encoded.get ⟨k, hlt'⟩) := by
    rw [hreturned, List.getElem?_append_left hlt']
    exact List.getElem?_eq_getElem hlt'
  obtain ⟨hpublished, hnumber⟩ := getElem?_returnedFrames hpoll.ring hframe
  exact ⟨h.pts k _ hk, _, hpublished, hnumber, hshows.get hlt hlt'⟩

end

/-! ### The schedule -/

/-- The time in nanoseconds. -/
def Timespec.ns (t : Timespec) : Int := t.tvSec * 1000000000 + t.tvNsec

/-- The nanoseconds are less than a second, as `clock_nanosleep` asks for. -/
def Timespec.Normal (t : Timespec) : Prop := 0 ≤ t.tvNsec ∧ t.tvNsec < 1000000000

/-- The next time is 50 ms later, without a drift, and it is normal again. -/
theorem Timespec.next_spec {t : Timespec} (h : t.Normal) :
    t.next.ns = t.ns + frameNs ∧ t.next.Normal := by
  obtain ⟨hlow, hhigh⟩ := h
  unfold next ns Normal frameNs
  dsimp only
  -- With a carry into the seconds, and without one.
  split
  · next hcarry => exact ⟨by dsimp only; omega, by dsimp only; omega, by dsimp only; omega⟩
  · next hcarry => exact ⟨by dsimp only; omega, by dsimp only; omega, by dsimp only; omega⟩

/-- A poll after which the thread has not slept yet. -/
def Pc.pendingSleep : Pc → Nat
  | .encode | .sleep => 1
  | .init | .loop | .read | .shutdown | .done => 0

/-- The polls that found no frame. -/
def emptyPolls (out : List Event) : Nat := (pollResults out).countP Option.isNone

/-- The thread has slept until the next frame after every poll, and it has counted the empty
ones. -/
structure ClockInv (env : Env ξ) (st : State ξ) (out : List Event) : Prop where
  dropped : st.framesDropped = UInt32.ofNat (emptyPolls out)
  start : st.pc = .init → pollResults out = []
  schedule : st.pc ≠ .init → st.pc ≠ .done →
    st.nextFrame.Normal ∧
      st.nextFrame.ns + frameNs * st.pc.pendingSleep
        = env.clock.ns + frameNs * (pollResults out).length

section
variable {env : Env ξ} {st st' : State ξ} {out out' : List Event}

/-- A step without a poll that leaves the schedule alone keeps the invariant. The program
counter may move between places with the same number of polls to sleep after, or to the end. -/
theorem ClockInv.stay (h : ClockInv env st out) (hpolls : pollResults out' = [])
    (hdropped : st'.framesDropped = st.framesDropped) (hnext : st'.nextFrame = st.nextFrame)
    (hpc : st'.pc = st.pc ∨ st'.pc = .done ∨
      st.pc ≠ .init ∧ st.pc ≠ .done ∧ st'.pc ≠ .init ∧ st'.pc.pendingSleep = st.pc.pendingSleep) :
    ClockInv env st' (out ++ out') := by
  have hsame : pollResults (out ++ out') = pollResults out := by
    rw [pollResults_append, hpolls, List.append_nil]
  refine ⟨?_, ?_, ?_⟩
  · unfold emptyPolls
    rw [hsame, hdropped]
    exact h.dropped
  · rw [hsame]
    intro hinit
    rcases hpc with hpc | hpc | ⟨-, -, hpc, -⟩
    · exact h.start (hpc ▸ hinit)
    · rw [hpc] at hinit
      cases hinit
    · exact absurd hinit hpc
  · rw [hsame, hnext]
    intro hinit hdone
    -- The thread stays, it ends, or it moves without a poll and without a sleep.
    rcases hpc with hpc | hpc | ⟨hinit', hdone', -, hpc⟩
    · rw [hpc] at hinit hdone ⊢
      exact h.schedule hinit hdone
    · exact absurd hpc hdone
    · rw [hpc]
      exact h.schedule hinit' hdone'

/-- A poll that returns adds one to the polls and one to the sleeps to come. An empty one is
counted. -/
theorem ClockInv.poll (h : ClockInv env st out) (hpc : st.pc = .read) (frame : Option Frame)
    (hdropped : st'.framesDropped
      = st.framesDropped + UInt32.ofNat ([frame].countP Option.isNone))
    (hnext : st'.nextFrame = st.nextFrame) (hsleep : st'.pc.pendingSleep = 1)
    (hinit : st'.pc ≠ .init) : ClockInv env st' (out ++ [.readReturned frame]) := by
  obtain ⟨hnormal, hns⟩ := h.schedule (by rw [hpc]; decide) (by rw [hpc]; decide)
  have hzero : st.pc.pendingSleep = 0 := by rw [hpc]; rfl
  have hpolls : pollResults (out ++ [.readReturned frame]) = pollResults out ++ [frame] :=
    pollResults_append out _
  refine ⟨?_, fun h => absurd h hinit, fun _ _ => ⟨hnext ▸ hnormal, ?_⟩⟩
  · unfold emptyPolls
    rw [hpolls, List.countP_append, UInt32.ofNat_add, hdropped, h.dropped]
    rfl
  · -- The poll was made before its sleep.
    rw [hzero] at hns
    rw [hpolls, List.length_append, List.length_singleton, hnext, hsleep, Nat.cast_add,
      Int.mul_add, ← Int.add_assoc, ← hns]
    simp

/-- A sleep takes one off the sleeps to come, and it adds 50 ms to the time of the next frame. -/
theorem ClockInv.sleep (h : ClockInv env st out) (hpc : st.pc = .sleep) :
    ClockInv env { st with nextFrame := st.nextFrame.next, pc := .loop } out := by
  obtain ⟨hnormal, hns⟩ := h.schedule (by rw [hpc]; decide) (by rw [hpc]; decide)
  obtain ⟨hnext, hnormal'⟩ := Timespec.next_spec hnormal
  refine ⟨h.dropped, nofun, fun _ _ => ⟨hnormal', ?_⟩⟩
  rw [← hns, hpc]
  show st.nextFrame.next.ns + frameNs * (0 : Nat) = st.nextFrame.ns + frameNs * (1 : Nat)
  rw [hnext]
  simp

/-- Every effect of a step keeps the invariant. A poll adds one to the polls and one to the
sleeps to come, and a sleep adds 50 ms to the time of the next frame. -/
theorem ClockInv.step {a : Action} (hclock : env.clock.Normal) (heffect : Effect env st a st' out')
    (hpoll : PollInv st out) (h : ClockInv env st out) : ClockInv env st' (out ++ out') := by
  cases heffect with
  | doom action => exact h.stay (pollResults_doom st.ring action).1 rfl rfl (Or.inl rfl)
  | stop | returned => exact h.stay rfl rfl rfl (Or.inl rfl)
  | opened hpc =>
    rw [List.append_nil]
    refine ⟨h.dropped, nofun, fun _ _ => ⟨hclock, ?_⟩⟩
    rw [h.start hpc]
    rfl
  | failed | closed => exact h.stay rfl rfl rfl (Or.inr (Or.inl rfl))
  | beginRead hpc hrunning =>
    rw [beginRead_idle (hpoll.idle (by rw [hpc]; decide))]
    refine h.stay rfl rfl rfl (Or.inr (Or.inr ?_))
    rw [hpc]
    exact ⟨by decide, by decide, nofun, rfl⟩
  | leave hpc hrunning =>
    refine h.stay rfl rfl rfl (Or.inr (Or.inr ?_))
    rw [hpc]
    exact ⟨by decide, by decide, nofun, rfl⟩
  | reading hpc hnone =>
    rcases readerStep_cases st.ring with ⟨frame, hreturn, -⟩ | hsilent
    · exact absurd hreturn (hnone frame)
    · exact h.stay hsilent rfl rfl (Or.inl rfl)
  | read hpc frame hreturn =>
    rw [hreturn]
    cases frame with
    | none => exact h.poll hpc none rfl rfl rfl nofun
    | some frame => exact h.poll hpc (some frame) (UInt32.add_zero _).symm rfl rfl nofun
  | encoded hpc encoder hopen hfits =>
    refine h.stay rfl rfl rfl (Or.inr (Or.inr ?_))
    rw [hpc]
    exact ⟨by decide, by decide, nofun, rfl⟩
  | slept hpc =>
    rw [List.append_nil]
    exact h.sleep hpc
  | flushed hpc encoder hopen =>
    refine h.stay rfl rfl rfl (Or.inr ?_)
    rw [hpc]
    -- The flush goes on while x264 has pictures left.
    by_cases hgoes : (flushFrame env.x264 encoder st.ctx).1 = true
    · right
      rw [if_pos hgoes]
      exact ⟨by decide, by decide, nofun, rfl⟩
    · left
      rw [if_neg hgoes]

end

/-! ### Runs from the start -/

/-- An encoder for pictures without padding. It makes one NAL unit of each picture. -/
def oneNalEncoder : X264 Unit where
  paramDefaultPreset := true
  encoderOpen := some ()
  pictureAlloc width height := some
    { plane := fun plane => List.replicate (planeSize plane height * planeSize plane width) 0
      yStride := width
      uvStride := (width + 1) / 2 }
  encoderEncode _ input := (⟨if input.isSome then 6 else 0, [[0, 0, 0, 1, 0x65, 0x88]]⟩, ())

/-- The encoder has planes for every picture that it allocates. -/
theorem oneNalEncoder_allocates : oneNalEncoder.Allocates := by
  intro pic hpic
  cases hpic
  refine ⟨fun plane => ?_, by decide, fun plane => ?_⟩
  · show _ ∧ _ ≤ (List.replicate _ _).length
    rw [List.length_replicate]
    cases plane <;> decide
  · cases plane <;> decide

/-- The outside of a satellite with this encoder, on a network without loss. -/
def quietEnv : Env Unit where
  x264 := oneNalEncoder
  yuvBuffer := true
  clock := ⟨7, 990000000⟩
  net _ := true

/-- The start of the satellite with cleared memory. -/
def quietStart : State Unit :=
  State.start (fun _ _ => ⟨0, 0, 0⟩) (Downlink.downlinkInit 3) ⟨fun _ => ⟨0, 0, 0⟩, 0⟩

/-- At the start no encoder is needed. -/
theorem ready_start (memory : Fin RingBuffer.RING_BUFFER_SIZE → RingBuffer.FrameData)
    (tx : Downlink.State) (frame : Frame) : Ready (State.start memory tx frame : State ξ) := by
  intro h
  cases h

section
variable {env : Env ξ} (halloc : env.x264.Allocates)
  (memory : Fin RingBuffer.RING_BUFFER_SIZE → RingBuffer.FrameData) (tx : Downlink.State)
  (frame : Frame) (actions : List Action)
include halloc

/-- Every run keeps the invariants of the ring buffer and of the pictures. `run_effects` is the
induction over the actions, with the effect of each step. -/
theorem pictureInv_run :
    ∃ next, runExcept (step env) (State.start memory tx frame) actions = .ok next ∧
      Ready next.1 ∧ PollInv next.1 next.2 ∧ PictureInv env tx next.1 next.2 := by
  refine run_effects halloc (fun st out => PollInv st out ∧ PictureInv env tx st out) ?_
    (ready_start memory tx frame) ?_ actions
  · intro st a st' out out' heffect h
    exact ⟨h.1.step heffect, h.2.step heffect h.1⟩
  · refine ⟨⟨?_, fun _ => rfl⟩, ⟨[], rfl, .nil⟩, nofun, rfl, rfl, rfl⟩
    exact RingBuffer.runInv_run memory []

/-- In every interleaving of the DOOM thread, the encoder thread and the signals: x264 gets
the published frames, each one once and in order. The picture with number `k` shows the
published frame with number `k`, and at most four frames are published and not encoded. The
colour conversion has no fault. -/
theorem encoder_gets_published :
    ∃ st out, runExcept (step env) (State.start memory tx frame) actions = .ok (st, out) ∧
      st.ctx.log.length ≤ (publishedFrames out).length ∧
      (publishedFrames out).length ≤ st.ctx.log.length + 4 ∧
      ∀ k call, st.ctx.log[k]? = some call → call.pts = Int64.ofNat k ∧
        ∃ published, (publishedFrames out)[k]? = some published ∧
          published.number = UInt32.ofNat k ∧ Shows call.pic published.data := by
  obtain ⟨⟨st, out⟩, hrun, -, hpoll, hpicture⟩ := pictureInv_run halloc memory tx frame actions
  obtain ⟨hle, hbound⟩ := hpicture.length_log hpoll
  exact ⟨st, out, hrun, hle, hbound, fun k call hk => hpicture.shows hpoll hk⟩

/-- In every run the downlink is called once for each picture of which x264 made NAL units, in
order. It gets the first 32 of them, with the RTP timestamp of the picture, which is 4500
for each picture before it. `frames_encoded` counts the calls. -/
theorem downlink_gets_encoded :
    ∃ st out, runExcept (step env) (State.start memory tx frame) actions = .ok (st, out) ∧
      st.downlink = runCalls env.net tx (callsOf st.ctx.log) ∧
      st.framesEncoded = UInt32.ofNat (callsOf st.ctx.log).length ∧
      ∀ call ∈ callsOf st.ctx.log, call.nals ≠ [] ∧ ∃ k encodeCall,
        st.ctx.log[k]? = some encodeCall ∧ 0 < encodeCall.encoded.frameSize ∧
          call.nals = encodeCall.encoded.nals.take 32 ∧
          call.timestamp = UInt32.ofNat (4500 * k) := by
  obtain ⟨⟨st, out⟩, hrun, -, -, hpicture⟩ := pictureInv_run halloc memory tx frame actions
  refine ⟨st, out, hrun, hpicture.sends, hpicture.encoded, ?_⟩
  intro call hcall
  exact mem_callsOf hcall

end

/-- Every run keeps the schedule. The time of the next frame is normal, and it is 50 ms after
the start for each poll that the thread has slept after: the loop does not drift, however
long a poll takes. `frames_dropped` counts the polls that found no frame. -/
theorem encoder_schedule {env : Env ξ} (halloc : env.x264.Allocates)
    (hclock : env.clock.Normal)
    (memory : Fin RingBuffer.RING_BUFFER_SIZE → RingBuffer.FrameData) (tx : Downlink.State)
    (frame : Frame) (actions : List Action) :
    ∃ st out, runExcept (step env) (State.start memory tx frame) actions = .ok (st, out) ∧
      st.framesDropped = UInt32.ofNat (emptyPolls out) ∧
      (st.pc ≠ .init → st.pc ≠ .done → st.nextFrame.Normal ∧
        st.nextFrame.ns + frameNs * st.pc.pendingSleep
          = env.clock.ns + frameNs * (pollResults out).length) := by
  obtain ⟨⟨st, out⟩, hrun, -, -, hclockInv⟩ := run_effects halloc
    (fun st out => PollInv st out ∧ ClockInv env st out)
    (fun st a st' out out' heffect h =>
      ⟨h.1.step heffect, ClockInv.step hclock heffect h.1 h.2⟩)
    (ready_start memory tx frame)
    ⟨⟨RingBuffer.runInv_run memory [], fun _ => rfl⟩, rfl, fun _ => rfl, fun h => absurd rfl h⟩
    actions
  exact ⟨st, out, hrun, hclockInv.dropped, hclockInv.schedule⟩

/-! ### Two runs of the satellite -/

/-- The encoder starts and polls, while DOOM calls `ringbuffer_write_frame` without pixels. -/
def shortRun : List Action :=
  [.encoder, .encoder, .doom (.beginWrite none 320 200), .encoder, .encoder, .encoder]

/-- Two screens of DOOM: a blank one, and one with every palette index. -/
def screens : List RingBuffer.Pixels := [fun _ => 0, fun i => UInt8.ofNat i]

/-- The encoder starts, and then DOOM writes two frames, each one before a poll. -/
def twoFrames : List Action := .encoder :: screens.flatMap deliverActions

/-- The encoder thread waits for a frame when it has opened the encoder. From here on
`deliver_all` takes over. -/
theorem quietStart_waiting :
    ∃ st, runExcept (step quietEnv) quietStart [.encoder] = .ok (st, []) ∧ Waiting st ∧
      st.ctx.log = [] ∧ st.pc = .loop := by
  refine ⟨_, rfl, ⟨rfl, rfl, rfl, rfl, rfl, fun _ => rfl, fun _ => ⟨(), rfl, ?_⟩⟩, rfl, rfl⟩
  exact oneNalEncoder_allocates _ rfl

/-- Both frames reach the encoder, and it makes one NAL unit of each. A run has one outcome, so
what `deliver_all` finds is what any equation about the run says. -/
theorem log_twoFrames {st : State Unit} {out : List Event}
    (hrun : runExcept (step quietEnv) quietStart twoFrames = .ok (st, out)) :
    ∃ first second, st.ctx.log = [first, second] ∧
      first.encoded.output = [[0, 0, 0, 1, 0x65, 0x88]] ∧
      second.encoded.output = [[0, 0, 0, 1, 0x65, 0x88]] := by
  obtain ⟨st₀, hstart, hwaiting, hnone, -⟩ := quietStart_waiting
  obtain ⟨st', out', hdeliver, -, calls, hlog, hlength, hcalls⟩ :=
    @deliver_all Unit quietEnv screens st₀ hwaiting
  have hrun' := runExcept_trans hstart hdeliver
  have hsame : st = st' := congrArg Prod.fst (Except.ok.inj (hrun.symm.trans hrun'))
  obtain ⟨first, second, rfl⟩ := List.length_eq_two.mp hlength
  obtain ⟨_, _, hfirst⟩ := hcalls first List.mem_cons_self
  obtain ⟨_, _, hsecond⟩ := hcalls second (List.mem_cons_of_mem _ List.mem_cons_self)
  refine ⟨first, second, ?_, ?_, ?_⟩
  · rw [hsame, hlog, hnone]
    rfl
  · rw [hfirst]
    rfl
  · rw [hsecond]
    rfl

/-- Two frames are published and encoded. -/
theorem encoder_gets_published_twoFrames :
    ∃ st out, runExcept (step quietEnv) quietStart twoFrames = .ok (st, out) ∧
      st.ctx.log.length = 2 ∧
      st.ctx.log.length ≤ (publishedFrames out).length ∧
      (publishedFrames out).length ≤ st.ctx.log.length + 4 ∧
      ∀ k call, st.ctx.log[k]? = some call → call.pts = Int64.ofNat k ∧
        ∃ published, (publishedFrames out)[k]? = some published ∧
          published.number = UInt32.ofNat k ∧ Shows call.pic published.data := by
  obtain ⟨st, out, hrun, hresult⟩ :=
    @encoder_gets_published Unit quietEnv oneNalEncoder_allocates (fun _ _ => ⟨0, 0, 0⟩)
      (Downlink.downlinkInit 3) ⟨fun _ => ⟨0, 0, 0⟩, 0⟩ twoFrames
  obtain ⟨first, second, hlog, -, -⟩ := log_twoFrames hrun
  exact ⟨st, out, hrun, congrArg List.length hlog, hresult⟩

/-- Two pictures are sent, each one in a call of its own. -/
theorem downlink_gets_encoded_twoFrames :
    ∃ st out, runExcept (step quietEnv) quietStart twoFrames = .ok (st, out) ∧
      (callsOf st.ctx.log).length = 2 ∧
      st.downlink = runCalls quietEnv.net (Downlink.downlinkInit 3) (callsOf st.ctx.log) ∧
      st.framesEncoded = UInt32.ofNat (callsOf st.ctx.log).length ∧
      ∀ call ∈ callsOf st.ctx.log, call.nals ≠ [] ∧ ∃ k encodeCall,
        st.ctx.log[k]? = some encodeCall ∧ 0 < encodeCall.encoded.frameSize ∧
          call.nals = encodeCall.encoded.nals.take 32 ∧
          call.timestamp = UInt32.ofNat (4500 * k) := by
  obtain ⟨st, out, hrun, hresult⟩ :=
    @downlink_gets_encoded Unit quietEnv oneNalEncoder_allocates (fun _ _ => ⟨0, 0, 0⟩)
      (Downlink.downlinkInit 3) ⟨fun _ => ⟨0, 0, 0⟩, 0⟩ twoFrames
  obtain ⟨first, second, hlog, hfirst, hsecond⟩ := log_twoFrames hrun
  have hcalls : callsOf st.ctx.log
      = sendCalls first.encoded.output 0 ++ sendCalls second.encoded.output 1 := by
    rw [hlog]
    exact congrArg (_ ++ ·) (List.append_nil _)
  refine ⟨st, out, hrun, ?_, hresult⟩
  rw [hcalls, hfirst, hsecond]
  rfl

/-- The schedule of a run with one empty poll. The start is 990 ms into a second, so the first
sleep carries over. -/
theorem encoder_schedule_shortRun :
    ∃ st out, runExcept (step quietEnv) quietStart shortRun = .ok (st, out) ∧
      st.framesDropped = UInt32.ofNat (emptyPolls out) ∧
      (st.pc ≠ .init → st.pc ≠ .done → st.nextFrame.Normal ∧
        st.nextFrame.ns + frameNs * st.pc.pendingSleep
          = quietEnv.clock.ns + frameNs * (pollResults out).length) :=
  encoder_schedule oneNalEncoder_allocates ⟨by decide, by decide⟩ _ _ _ shortRun

end DoomSat.Satellite
