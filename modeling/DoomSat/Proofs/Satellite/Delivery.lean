import DoomSat.Proofs.RingBuffer.Calls
import DoomSat.Proofs.Satellite.Steps

/-!
# `DoomSat.Proofs.Satellite.Delivery`: a frame on its way through the satellite

The invariants of the runs say that no frame is lost or doubled. They hold of a run in which
nothing moves, too. This module shows that the frames do move. `deliver` runs the two threads
one after the other, from a state in which the encoder thread waits for a frame (`Waiting`):
DOOM writes a frame, and the encoder thread reads it, encodes it, sends it and waits again.

`deliver_all` is the run lemma, for any number of frames: x264 gets a picture for each frame
that DOOM writes, and none is dropped.
-/

set_option autoImplicit false

namespace DoomSat.Satellite

open Support
open Encoder
open RingBuffer (Event Frame Pixels FRAME_PIXELS writeActions run_write run_read nextSlot)

variable {ξ : Type} {env : Env ξ}

/-! ### The two threads on the ring buffer -/

/-- The steps of the DOOM thread are steps of the ring buffer, and they change nothing else. -/
theorem runExcept_doom (st : State ξ) (actions : List DoomAction) :
    runExcept (step env) st (actions.map .doom)
      = .ok ({ st with ring := (run RingBuffer.step st.ring (actions.map DoomAction.onRing)).1 },
        (run RingBuffer.step st.ring (actions.map DoomAction.onRing)).2) := by
  induction actions generalizing st with
  | nil => rfl
  -- The step of the ring buffer comes first, then the others from the state it leaves.
  | cons a actions ih =>
    rw [List.map_cons, runExcept]
    show (runExcept (step env) { st with ring := (RingBuffer.step st.ring a.onRing).1 }
      (actions.map .doom) >>= _) = _
    rw [ih]
    rfl

/-- A step of the encoder thread in `ringbuffer_read_frame` that does not return. -/
theorem encoderStep_reading {st : State ξ} (hpc : st.pc = .read)
    (hnone : ∀ frame, (RingBuffer.step st.ring .readerStep).2 ≠ [.readReturned frame]) :
    encoderStep env st
      = .ok ({ st with ring := (RingBuffer.step st.ring .readerStep).1 },
        (RingBuffer.step st.ring .readerStep).2) := by
  have hread : encoderStep env st = .ok (readFrame st) := by
    unfold encoderStep
    rw [hpc]
  rw [hread]
  unfold readFrame
  dsimp only
  split
  · next frame hreturn => exact absurd hreturn (hnone frame)
  · rfl

/-- The last step of the encoder thread in `ringbuffer_read_frame`. -/
theorem encoderStep_return {st : State ξ} (hpc : st.pc = .read) {frame : Option Frame}
    (hreturn : (RingBuffer.step st.ring .readerStep).2 = [.readReturned frame]) :
    encoderStep env st
      = .ok (afterRead { st with ring := (RingBuffer.step st.ring .readerStep).1 } frame,
        [.readReturned frame]) := by
  have hread : encoderStep env st = .ok (readFrame st) := by
    unfold encoderStep
    rw [hpc]
  rw [hread]
  unfold readFrame
  dsimp only
  rw [hreturn]

/-- The steps of the encoder thread in `ringbuffer_read_frame` are steps of the ring buffer as
long as the call does not return. The induction is on the number of steps, for any state in the
call. -/
theorem runExcept_reading {st : State ξ} (hpc : st.pc = .read) {n : Nat}
    {ring : RingBuffer.State} {out : List Event}
    (hrun : run RingBuffer.step st.ring (List.replicate n .readerStep) = (ring, out))
    (hgoes : ∀ frame, .readReturned frame ∉ out) :
    runExcept (step env) st (List.replicate n .encoder) = .ok ({ st with ring := ring }, out) := by
  induction n generalizing st out with
  | zero =>
    cases hrun
    rfl
  | succ n ih =>
    rw [List.replicate_succ, run] at hrun
    obtain ⟨rfl, rfl⟩ := Prod.mk.inj hrun
    have hstep := @encoderStep_reading ξ env st hpc fun frame hreturn => by
      rw [hreturn] at hgoes
      exact hgoes frame List.mem_cons_self
    rw [List.replicate_succ, runExcept]
    show (encoderStep env st >>= _) = _
    rw [hstep]
    show (runExcept (step env) { st with ring := (RingBuffer.step st.ring .readerStep).1 }
      (List.replicate n .encoder) >>= _) = _
    rw [@ih { st with ring := (RingBuffer.step st.ring .readerStep).1 } hpc _ rfl
      fun frame hmem => hgoes frame (List.mem_append_right _ hmem)]
    rfl

/-! ### One frame -/

/-- The encoder thread is about to poll, and no frame is in the ring buffer. DOOM is not in a
call either, and the next slot to write is the next slot to read. -/
structure Waiting (st : State ξ) : Prop where
  loop : st.pc = .loop
  running : st.gRunning = true
  writer : st.ring.writer = .idle
  reader : st.ring.reader = .idle
  together : st.ring.gReadIndex = st.ring.gWriteIndex
  empty : ∀ slot, (st.ring.slots slot).status = .empty
  ready : Ready st

/-- DOOM writes a frame without an interruption. -/
def doomWrite (pixels : Pixels) : List DoomAction :=
  .beginWrite (some pixels) 320 200 :: List.replicate (FRAME_PIXELS + 6) .writerStep

/-- DOOM writes a frame, and then the encoder thread takes one round of its loop. -/
def deliverActions (pixels : Pixels) : List Action :=
  (doomWrite pixels).map .doom ++ List.replicate (FRAME_PIXELS + 8) .encoder

/-- On the ring buffer, the DOOM thread's actions for a frame are those of a whole
`ringbuffer_write_frame`. -/
theorem map_onRing_doomWrite (pixels : Pixels) :
    (doomWrite pixels).map DoomAction.onRing = writeActions pixels := by
  unfold doomWrite writeActions
  rw [List.map_cons, List.map_replicate]
  rfl

/-- The state after a round of the loop that found the frame `frame`: its slot is EMPTY
again, the frame is encoded and sent, and the thread has slept. -/
def afterRound (env : Env ξ) (st : State ξ) (encoder : ξ) (frame : Frame) : State ξ :=
  let slot := st.ring.gReadIndex
  let ring :=
    { st.ring with
      slots := Function.update st.ring.slots slot { st.ring.slots slot with status := .empty }
      gReadIndex := nextSlot slot
      reader := .idle }
  { afterEncode env { st with ring := ring, frame := frame } encoder with
    nextFrame := st.nextFrame.next
    pc := .loop }

/-- The end of a round: the frame is encoded and sent, and the thread sleeps. -/
theorem runExcept_encode {st : State ξ} (hpc : st.pc = .encode) {encoder : ξ}
    (hopen : st.ctx.encoder = some encoder) (hfits : Fits st.ctx.picIn) :
    runExcept (step env) st [.encoder, .encoder]
      = .ok ({ afterEncode env st encoder with nextFrame := st.nextFrame.next, pc := .loop },
        []) := by
  have hencode : encoderStep env st = .ok (afterEncode env st encoder, []) := by
    unfold encoderStep
    rw [hpc]
    dsimp only
    rw [encodeFrame_eq env hopen hfits]
    rfl
  show (encoderStep env st >>= _) = _
  rw [hencode]
  rfl

/-- The return of a read with a frame. -/
theorem runExcept_return {st : State ξ} (hpc : st.pc = .read) {frame : Frame}
    {slot : Fin RingBuffer.RING_BUFFER_SIZE} (hreader : st.ring.reader = .advance frame slot) :
    runExcept (step env) st [.encoder]
      = .ok ({ st with
          ring := { st.ring with gReadIndex := nextSlot slot, reader := .idle }
          frame := frame
          pc := .encode }, [.readReturned (some frame)]) := by
  have hstep : RingBuffer.step st.ring .readerStep
      = ({ st.ring with gReadIndex := nextSlot slot, reader := .idle },
        [.readReturned (some frame)]) := by
    unfold RingBuffer.step RingBuffer.readerStep
    rw [hreader]
  have hreturn := @encoderStep_return ξ env st hpc (some frame) (congrArg Prod.snd hstep)
  show (encoderStep env st >>= _) = _
  rw [hreturn, hstep]
  rfl

/-- The first three steps of a round that finds a frame. The frame is taken, and nothing of it
is copied yet. -/
theorem runExcept_acquire {st : State ξ} (hpc : st.pc = .loop) (hrunning : st.gRunning = true)
    (hidle : st.ring.reader = .idle)
    (hslot : (st.ring.slots st.ring.gReadIndex).status = .ready) :
    ∃ st', runExcept (step env) st [.encoder, .encoder, .encoder] = .ok (st', []) ∧
      st'.ring.reader = .copy st.frame st.ring.gReadIndex 0 := by
  let slot := st.ring.gReadIndex
  refine ⟨{ st with
    ring :=
      { RingBuffer.updateSlot st.ring slot fun s => { s with status := .reading } with
        reader := .copy st.frame slot 0 }
    pc := .read }, ?_, rfl⟩
  simp [runExcept, step, encoderStep, hpc, hrunning, RingBuffer.step, hidle, ok_bind, readFrame,
    RingBuffer.readerStep, hslot, RingBuffer.updateSlot, slot]

/-- One round of the loop that finds a frame, from the poll to the return of `clock_nanosleep`.
It is put together from four parts: the step that begins the poll, the copy, the return with the
frame, and the two steps of the encoding and the sleep. -/
theorem runExcept_round {st : State ξ} (hpc : st.pc = .loop) (hrunning : st.gRunning = true)
    (hidle : st.ring.reader = .idle)
    (hslot : (st.ring.slots st.ring.gReadIndex).status = .ready) (hready : Ready st) :
    ∃ encoder frame, Fits st.ctx.picIn ∧
      runExcept (step env) st (List.replicate (FRAME_PIXELS + 8) .encoder)
        = .ok (afterRound env st encoder frame, [.released frame, .readReturned (some frame)]) := by
  obtain ⟨encoder, hopen, hfits⟩ := hready (by rw [hpc]; rfl)
  have hparts : List.replicate (FRAME_PIXELS + 8) Action.encoder
      = [.encoder] ++
        (List.replicate (FRAME_PIXELS + 4) .encoder ++ ([.encoder] ++ [.encoder, .encoder])) := by
    show _ = Action.encoder :: (_ ++ List.replicate 3 .encoder)
    rw [← List.replicate_add, ← List.replicate_succ]
  -- The poll starts.
  have hbegin : runExcept (step env) st [.encoder]
      = .ok ({ st with ring := { st.ring with reader := .load st.frame }, pc := .read }, []) := by
    simp [runExcept, step, encoderStep, hpc, hrunning, RingBuffer.step, hidle, ok_bind]
  obtain ⟨frame, hread⟩ := @run_read { st.ring with reader := .load st.frame } st.frame rfl hslot
  have hreading := @runExcept_reading ξ env
    { st with ring := { st.ring with reader := .load st.frame }, pc := .read } rfl _ _ _ hread
    (by simp)
  refine ⟨encoder, frame, hfits, ?_⟩
  rw [hparts]
  refine runExcept_trans hbegin (runExcept_trans hreading ?_)
  exact runExcept_trans (runExcept_return rfl rfl) (runExcept_encode rfl hopen hfits)

/-- The state after DOOM has written a frame. Its slot holds `data` and is READY. -/
def afterWrite (st : State ξ) (data : RingBuffer.FrameData) : State ξ :=
  { st with
    ring :=
      { st.ring with
        slots := Function.update st.ring.slots st.ring.gWriteIndex
          ⟨data, .ready, st.ring.gFrameCounter⟩
        gWriteIndex := nextSlot st.ring.gWriteIndex
        gFrameCounter := st.ring.gFrameCounter + 1
        writer := .idle } }

/-- DOOM writes a frame while the satellite waits. The frame is in the slot that the encoder
thread reads next. -/
theorem runExcept_doomWrite {st : State ξ} (h : Waiting st) (pixels : Pixels) :
    ∃ data out, runExcept (step env) st ((doomWrite pixels).map .doom)
        = .ok (afterWrite st data, out) ∧
      ((afterWrite st data).ring.slots st.ring.gReadIndex).status = .ready := by
  obtain ⟨data, hwrite⟩ := run_write h.writer (h.empty _) pixels
  have hdoom := @runExcept_doom ξ env st (doomWrite pixels)
  rw [map_onRing_doomWrite, hwrite] at hdoom
  refine ⟨data, _, hdoom, ?_⟩
  show (Function.update st.ring.slots st.ring.gWriteIndex _ st.ring.gReadIndex).status = .ready
  rw [h.together, Function.update_self]

/-- A frame on its way through a waiting satellite: DOOM writes it, and the encoder thread
reads, encodes and sends it in one round of its loop. Then the satellite waits again, and
x264 has got one more picture. -/
theorem deliver {st : State ξ} (h : Waiting st) (pixels : Pixels) :
    ∃ st' out, runExcept (step env) st (deliverActions pixels) = .ok (st', out) ∧ Waiting st' ∧
      ∃ call, st'.ctx.log = st.ctx.log ++ [call] ∧
        ∃ encoder input, call.encoded = (env.x264.encoderEncode encoder (some input)).1 := by
  obtain ⟨data, out, hwrite, hslot⟩ := @runExcept_doomWrite ξ env st h pixels
  obtain ⟨encoder, frame, hfits, hround⟩ :=
    @runExcept_round ξ env (afterWrite st data) h.loop h.running h.reader hslot h.ready
  refine ⟨_, _, runExcept_trans hwrite hround, ?_, _, rfl, _, _, rfl⟩
  refine ⟨rfl, h.running, rfl, rfl, congrArg nextSlot h.together, fun slot => ?_, fun _ => ?_⟩
  · -- The slot of the frame is EMPTY again, and the other two have not changed.
    show (Function.update (Function.update st.ring.slots st.ring.gWriteIndex _)
      st.ring.gReadIndex _ slot).status = .empty
    by_cases hslot : slot = st.ring.gReadIndex
    · rw [hslot, Function.update_self]
    · rw [Function.update_of_ne hslot, Function.update_of_ne (h.together ▸ hslot)]
      exact h.empty slot
  · exact ⟨_, rfl, (picIn_nextCtx env.x264 st.ctx encoder frame.data hfits).1⟩

/-! ### Any number of frames -/

/-- Every frame that DOOM writes reaches x264, when the encoder thread takes a round of its loop
after each write. The new pictures are as many as the frames, and each one has a result of x264.
The induction is on the frames; `Waiting` is what one delivery leaves for the next. -/
theorem deliver_all (screens : List Pixels) {st : State ξ} (h : Waiting st) :
    ∃ st' out, runExcept (step env) st (screens.flatMap deliverActions) = .ok (st', out) ∧
      Waiting st' ∧ ∃ calls, st'.ctx.log = st.ctx.log ++ calls ∧
        calls.length = screens.length ∧ ∀ call ∈ calls, ∃ encoder input,
          call.encoded = (env.x264.encoderEncode encoder (some input)).1 := by
  induction screens generalizing st with
  | nil => exact ⟨st, [], rfl, h, [], (List.append_nil _).symm, rfl, nofun⟩
  | cons pixels screens ih =>
    obtain ⟨st₁, out₁, hrun₁, hwaiting₁, call, hlog₁, hcall⟩ := @deliver ξ env st h pixels
    obtain ⟨st₂, out₂, hrun₂, hwaiting₂, calls, hlog₂, hlength, hcalls⟩ := ih hwaiting₁
    refine ⟨st₂, out₁ ++ out₂, runExcept_trans hrun₁ hrun₂, hwaiting₂, call :: calls, ?_,
      congrArg Nat.succ hlength, List.forall_mem_cons.mpr ⟨hcall, hcalls⟩⟩
    rw [hlog₂, hlog₁, List.append_assoc]
    rfl

end DoomSat.Satellite
