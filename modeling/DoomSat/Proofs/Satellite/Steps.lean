import DoomSat.Proofs.Satellite.Pictures
import DoomSat.Support.Outcome

/-!
# `DoomSat.Proofs.Satellite.Steps`: what a step of the satellite can do

`Effect` lists what a step of the two threads does to the state. `step_effect` shows that
every step from a state with an open encoder (`Ready`) has one of these effects, without a
fault. The invariants of the runs follow from `Effect` alone.
-/

set_option autoImplicit false

namespace DoomSat.Satellite

open Support
open Downlink (Call Nal runCall runCalls)
open Encoder
open RingBuffer (Event Frame)

variable {ξ : Type}

/-- The thread is in its main loop. -/
def Pc.working : Pc → Bool
  | .loop | .read | .encode | .sleep => true
  | .init | .shutdown | .done => false

/-- In the main loop the encoder is open, and its picture has room for a frame. -/
def Ready (st : State ξ) : Prop :=
  st.pc.working → ∃ encoder, st.ctx.encoder = some encoder ∧ Fits st.ctx.picIn

/-- The call of `downlink_send_nals` for a frame, if there are NAL units to send. -/
def sendCalls (nals : List Nal) (frameNum : UInt32) : List Call :=
  if nals = [] then [] else [⟨nals, rtpTimestamp frameNum⟩]

/-- The state after the frame is encoded and sent. -/
def afterEncode (env : Env ξ) (st : State ξ) (encoder : ξ) : State ξ :=
  let encoded := (encodeFrameResult env.x264 st.ctx encoder st.frame.data).1
  let calls := sendCalls encoded.output st.frame.number
  { st with
    ctx := nextCtx env.x264 st.ctx encoder st.frame.data
    downlink := runCalls env.net st.downlink calls
    pc := .sleep
    framesEncoded := st.framesEncoded + UInt32.ofNat calls.length }

/-- What a step of the satellite does: the state after it, and the outputs. -/
inductive Effect (env : Env ξ) (st : State ξ) : Action → State ξ → List Event → Prop where
  | doom (action : DoomAction) :
      Effect env st (.doom action) { st with ring := (RingBuffer.step st.ring action.onRing).1 }
        (RingBuffer.step st.ring action.onRing).2
  | stop : Effect env st .stop { st with gRunning := false } []
  | opened (hpc : st.pc = .init) (encoder : ξ) (picIn : Picture) (hfits : Fits picIn) :
      Effect env st .encoder
        { st with
          ctx := { st.ctx with encoder := some encoder, picIn := picIn }
          nextFrame := env.clock
          pc := .loop } []
  | failed (hpc : st.pc = .init) (ctx : Ctx ξ) (hlog : ctx.log = st.ctx.log)
      (hcount : ctx.frameCount = st.ctx.frameCount) :
      Effect env st .encoder { st with ctx := ctx, gRunning := false, pc := .done } []
  | beginRead (hpc : st.pc = .loop) (hrunning : st.gRunning = true) :
      Effect env st .encoder
        { st with ring := (RingBuffer.step st.ring (.beginRead st.frame)).1, pc := .read }
        (RingBuffer.step st.ring (.beginRead st.frame)).2
  | leave (hpc : st.pc = .loop) (hrunning : st.gRunning = false) :
      Effect env st .encoder { st with pc := .shutdown } []
  | reading (hpc : st.pc = .read)
      (hnone : ∀ frame, (RingBuffer.step st.ring .readerStep).2 ≠ [.readReturned frame]) :
      Effect env st .encoder { st with ring := (RingBuffer.step st.ring .readerStep).1 }
        (RingBuffer.step st.ring .readerStep).2
  | read (hpc : st.pc = .read) (frame : Option Frame)
      (hreturn : (RingBuffer.step st.ring .readerStep).2 = [.readReturned frame]) :
      Effect env st .encoder
        (afterRead { st with ring := (RingBuffer.step st.ring .readerStep).1 } frame)
        (RingBuffer.step st.ring .readerStep).2
  | encoded (hpc : st.pc = .encode) (encoder : ξ) (hopen : st.ctx.encoder = some encoder)
      (hfits : Fits st.ctx.picIn) : Effect env st .encoder (afterEncode env st encoder) []
  | slept (hpc : st.pc = .sleep) :
      Effect env st .encoder { st with nextFrame := st.nextFrame.next, pc := .loop } []
  | flushed (hpc : st.pc = .shutdown) (encoder : ξ) (hopen : st.ctx.encoder = some encoder) :
      Effect env st .encoder
        { st with
          ctx := (flushFrame env.x264 encoder st.ctx).2
          pc := if (flushFrame env.x264 encoder st.ctx).1 then .shutdown else .done } []
  | closed (hpc : st.pc = .shutdown) (hopen : st.ctx.encoder = none) :
      Effect env st .encoder { st with pc := .done } []
  | returned (hpc : st.pc = .done) : Effect env st .encoder st []

/-- The calls of the encoder and of the downlink for a frame. With no NAL unit to send, the
downlink is not called and the number of encoded frames stays. -/
theorem encodeFrame_eq (env : Env ξ) {st : State ξ} {encoder : ξ}
    (hopen : st.ctx.encoder = some encoder) (hfits : Fits st.ctx.picIn) :
    encodeFrame env st = .ok (afterEncode env st encoder) := by
  unfold encodeFrame
  rw [encoderEncodeFrame_eq env.x264 st.ctx encoder st.frame.data hopen hfits]
  show (if (encodeFrameResult env.x264 st.ctx encoder st.frame.data).1.numNals > 0 then _
    else _) = _
  by_cases hnone : (encodeFrameResult env.x264 st.ctx encoder st.frame.data).1.output = []
  · -- x264 gave no NAL unit, because of an error or of a delay.
    have hcalls : sendCalls (encodeFrameResult env.x264 st.ctx encoder st.frame.data).1.output
        st.frame.number = [] := if_pos hnone
    rw [if_neg (by rw [Encoded.numNals_pos_iff]; exact not_not.mpr hnone)]
    have hzero : st.framesEncoded + UInt32.ofNat 0 = st.framesEncoded := UInt32.add_zero _
    simp only [afterEncode, hcalls, List.length_nil, hzero]
    rfl
  · -- One call of `downlink_send_nals` with all of them.
    have hcalls : sendCalls (encodeFrameResult env.x264 st.ctx encoder st.frame.data).1.output
        st.frame.number = [⟨_, rtpTimestamp st.frame.number⟩] := if_neg hnone
    rw [if_pos ((Encoded.numNals_pos_iff _).mpr hnone)]
    simp only [afterEncode, hcalls]
    rfl

/-- `encoder_init` opens the encoder, or it leaves the record of the frames as it is. There are
four errors, and none of them gives x264 a picture. -/
theorem encoderInit_cases {x264 : X264 ξ} (halloc : x264.Allocates) (yuvBuffer : Bool)
    (ctx : Ctx ξ) :
    (∃ encoder picIn, Fits picIn ∧
      encoderInit x264 yuvBuffer ctx
        = (0, { ctx with encoder := some encoder, picIn := picIn })) ∨
      ∃ ctx', encoderInit x264 yuvBuffer ctx = (-1, ctx') ∧ ctx'.log = ctx.log ∧
        ctx'.frameCount = ctx.frameCount := by
  unfold encoderInit
  -- The four errors, in the order of the code: the preset, the encoder, the picture and the
  -- buffer.
  split
  · exact Or.inr ⟨_, rfl, rfl, rfl⟩
  · split
    · exact Or.inr ⟨_, rfl, rfl, rfl⟩
    · split
      · exact Or.inr ⟨_, rfl, rfl, rfl⟩
      · next picIn hpic =>
        split
        · exact Or.inr ⟨_, rfl, rfl, rfl⟩
        · exact Or.inl ⟨_, picIn, halloc picIn hpic, rfl⟩

/-- Every step of the encoder thread has an effect of the list. The cases are the places of the
thread, and `hready` rules out a closed encoder in the main loop. -/
theorem encoderStep_effect {env : Env ξ} (halloc : env.x264.Allocates) {st : State ξ}
    (hready : Ready st) :
    Ensures (encoderStep env st) (fun next => Effect env st .encoder next.1 next.2)
      fun _ => False := by
  unfold encoderStep
  cases hpc : st.pc with
  | init =>
    rcases encoderInit_cases halloc env.yuvBuffer st.ctx with
      ⟨encoder, picIn, hfits, heq⟩ | ⟨ctx, heq, hlog, hcount⟩
    · dsimp only
      rw [heq]
      exact .ok (.opened hpc encoder picIn hfits)
    · dsimp only
      rw [heq]
      exact .ok (.failed hpc ctx hlog hcount)
  | loop =>
    dsimp only
    split
    · next hrunning => exact .ok (.beginRead hpc hrunning)
    · next hrunning => exact .ok (.leave hpc (Bool.not_eq_true _ ▸ hrunning))
  | read =>
    refine .ok ?_
    unfold readFrame
    dsimp only
    split
    · next frame hreturn => exact .read hpc frame hreturn
    · next hnone => exact .reading hpc hnone
  | encode =>
    obtain ⟨encoder, hopen, hfits⟩ := hready (by rw [hpc]; rfl)
    dsimp only
    rw [encodeFrame_eq env hopen hfits]
    exact .ok (.encoded hpc encoder hopen hfits)
  | sleep => exact .ok (.slept hpc)
  | shutdown =>
    dsimp only
    split
    · next hopen => exact .ok (.closed hpc hopen)
    · next encoder hopen => exact .ok (.flushed hpc encoder hopen)
  | done => exact .ok (.returned hpc)

/-- Every step of the satellite has an effect of the list, and none has a fault. -/
theorem step_effect {env : Env ξ} (halloc : env.x264.Allocates) {st : State ξ}
    (hready : Ready st) (a : Action) :
    Ensures (step env st a) (fun next => Effect env st a next.1 next.2) fun _ => False := by
  cases a with
  | doom action => exact .ok (.doom action)
  | encoder => exact encoderStep_effect halloc hready
  | stop => exact .ok .stop

/-- The encoder stays open in the main loop. Only an error of `encoder_init` and the last round
of the flush close it, and both are outside the loop. -/
theorem Effect.ready {env : Env ξ} {st st' : State ξ} {a : Action} {out : List Event}
    (h : Effect env st a st' out) (hready : Ready st) : Ready st' := by
  cases h with
  | doom action | stop | reading hpc hnone => exact hready
  | opened hpc encoder picIn hfits => exact fun _ => ⟨encoder, rfl, hfits⟩
  | failed | leave | closed => exact fun h => by cases h
  | beginRead hpc hrunning | slept hpc => exact fun _ => hready (by rw [hpc]; rfl)
  | read hpc frame hreturn =>
    intro _
    have hopen := hready (by rw [hpc]; rfl)
    cases frame with
    | none => exact hopen
    | some frame => exact hopen
  | encoded hpc encoder hopen hfits =>
    have hnext := (picIn_nextCtx env.x264 st.ctx encoder st.frame.data hfits).1
    exact fun _ => ⟨_, rfl, hnext⟩
  | flushed hpc encoder hopen =>
    intro h
    dsimp only at h
    split at h <;> cases h
  | returned hpc => exact hready

/-- What every effect keeps holds in every run, and no run has a fault. It is the run lemma of
the satellite: the invariants of the runs give only the step for each effect. -/
theorem run_effects {env : Env ξ} (halloc : env.x264.Allocates)
    (inv : State ξ → List Event → Prop)
    (hstep : ∀ st a st' out out', Effect env st a st' out' → inv st out → inv st' (out ++ out'))
    {st : State ξ} (hready : Ready st) (hinit : inv st []) (actions : List Action) :
    ∃ next, runExcept (step env) st actions = .ok next ∧ Ready next.1 ∧ inv next.1 next.2 := by
  have hrun := @ensures_runExcept _ _ _ _ (step env) (fun st out => Ready st ∧ inv st out)
    (fun _ => False)
    (fun st out a h => (step_effect halloc h.1 a).mono
      (fun next heffect => ⟨heffect.ready h.1, hstep _ _ _ _ _ heffect h.2⟩) fun _ h => h)
    actions st [] ⟨hready, hinit⟩
  exact hrun.exists_ok

end DoomSat.Satellite
