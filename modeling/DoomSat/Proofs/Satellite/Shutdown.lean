import DoomSat.Proofs.Satellite.Runs

/-!
# `DoomSat.Proofs.Satellite.Shutdown`: the encoder thread ends

A signal clears `g_running`. The encoder thread looks at it once in a round of its loop only,
and it shares the ring buffer with the DOOM thread until then. `StepsLeft` counts the steps
that it still takes. A step of the thread counts them down, and a step of the DOOM thread
does not change them: a read never waits for a writer.

`encoder_thread_ends` is the result for every interleaving: after the signal the thread ends
within a fixed number of its own steps, and it encodes at most one more frame.

How many frames x264 delays is a property of x264. Here they are at most `delay`.
-/

set_option autoImplicit false

namespace DoomSat.Satellite

open Support
open Downlink (Call runCalls)
open Encoder
open RingBuffer (Event Frame FRAME_PIXELS)

variable {ξ : Type}

/-- The loop of `encoder_shutdown` ends within so many rounds. -/
def FlushesWithin (x264 : X264 ξ) : Nat → ξ → Prop
  | 0, _ => False
  | rounds + 1, encoder =>
    (x264.encoderEncode encoder none).1.frameSize ≤ 0 ∨
      FlushesWithin x264 rounds (x264.encoderEncode encoder none).2

/-- The steps to the return of `ringbuffer_read_frame`, if a frame is ready. -/
def readerSteps : RingBuffer.Reader → Nat
  | .idle => 0
  | .load _ => FRAME_PIXELS + 5
  | .acquire _ _ => FRAME_PIXELS + 4
  | .copy _ _ i => FRAME_PIXELS - i + 3
  | .release _ _ => 2
  | .advance _ _ => 1

/-- Without a new round of the loop, the thread ends within `n` of its steps. -/
def StepsLeft (x264 : X264 ξ) (delay n : Nat) (st : State ξ) : Prop :=
  match st.pc with
  | .init => delay + 3 ≤ n
  | .loop => delay + 2 ≤ n
  | .read => st.ring.reader ≠ .idle ∧ readerSteps st.ring.reader + (delay + 4) ≤ n
  | .encode => delay + 4 ≤ n
  | .sleep => delay + 3 ≤ n
  | .shutdown => 1 ≤ n ∧ ∀ encoder, st.ctx.encoder = some encoder → FlushesWithin x264 n encoder
  | .done => True

/-- The frames that the thread still encodes without a new round of the loop. -/
def Pc.pendingEncode : Pc → Nat
  | .read | .encode => 1
  | .init | .loop | .sleep | .shutdown | .done => 0

/-- After the signal: the steps that are left, and the frames encoded so far and to come. -/
structure Stopping (env : Env ξ) (delay encodes : Nat) (st : State ξ) (n : Nat) : Prop where
  ready : Ready st
  stopped : st.gRunning = false
  left : StepsLeft env.x264 delay n st
  encodes : st.ctx.log.length + st.pc.pendingEncode ≤ encodes

/-! ### The ring buffer -/

/-- A step in `ringbuffer_read_frame` comes nearer to its return. This is where a reader differs
from a thread that spins: every branch of the call goes forward, also the one where no frame is
ready. -/
theorem readerSteps_lt (ring : RingBuffer.State) (hbusy : ring.reader ≠ .idle) :
    readerSteps (RingBuffer.step ring .readerStep).1.reader + 1 ≤ readerSteps ring.reader := by
  unfold RingBuffer.step RingBuffer.readerStep
  cases hreader : ring.reader with
  | idle => exact absurd hreader hbusy
  | load out => exact Nat.le_refl _
  | acquire out slot =>
    dsimp only
    split
    · exact Nat.le_refl _
    · exact Nat.succ_le_succ (Nat.zero_le _)
  | copy out slot i =>
    dsimp only
    split
    · next hi =>
      show FRAME_PIXELS - (i + 1) + 3 + 1 ≤ FRAME_PIXELS - i + 3
      omega
    · exact Nat.le_add_left 3 _
  | release out slot => exact Nat.le_refl _
  | advance out slot => exact Nat.le_refl _

/-- A call of `ringbuffer_read_frame` that does not return goes on. -/
theorem reader_busy (ring : RingBuffer.State) (hbusy : ring.reader ≠ .idle)
    (hnone : ∀ frame, (RingBuffer.step ring .readerStep).2 ≠ [.readReturned frame]) :
    (RingBuffer.step ring .readerStep).1.reader ≠ .idle := by
  unfold RingBuffer.step RingBuffer.readerStep at hnone ⊢
  cases hreader : ring.reader with
  | idle => exact absurd hreader hbusy
  | load out | release out slot => exact nofun
  | acquire out slot =>
    rw [hreader] at hnone
    dsimp only at hnone ⊢
    split
    · exact nofun
    · next hbusy =>
      rw [if_neg hbusy] at hnone
      exact absurd rfl (hnone none)
  | copy out slot i =>
    dsimp only
    split
    · exact nofun
    · exact nofun
  | advance out slot =>
    rw [hreader] at hnone
    exact absurd rfl (hnone (some out))

/-- In a call of `ringbuffer_read_frame` the reader is not idle. -/
def Reading (st : State ξ) : Prop := st.pc = .read → st.ring.reader ≠ .idle

/-- A step keeps `Reading`. The reader leaves `idle` in the step that begins the call, and it is
idle again only in the step that ends it. -/
theorem Effect.reading_of {env : Env ξ} {st st' : State ξ} {a : Action} {out : List Event}
    (heffect : Effect env st a st' out) (hidle : st.pc ≠ .read → st.ring.reader = .idle)
    (h : Reading st) : Reading st' := by
  cases heffect with
  | doom action =>
    intro hpc
    rw [(pollResults_doom st.ring action).2]
    exact h hpc
  | stop | returned => exact h
  | beginRead hpc hrunning =>
    intro _
    show (RingBuffer.step st.ring (.beginRead st.frame)).1.reader ≠ .idle
    unfold RingBuffer.step
    rw [hidle (by rw [hpc]; decide)]
    exact nofun
  | reading hpc hnone => exact fun _ => reader_busy st.ring (h hpc) hnone
  | read hpc frame hreturn =>
    intro hread
    cases frame with
    | none => cases hread
    | some frame => cases hread
  | opened | failed | leave | encoded | slept | closed => exact nofun
  | flushed hpc encoder hopen =>
    intro hread
    dsimp only at hread
    split at hread <;> cases hread

/-! ### The flush -/

/-- An encoder that is flushed within some rounds is flushed within more. -/
theorem FlushesWithin.mono {x264 : X264 ξ} {rounds rounds' : Nat} {encoder : ξ}
    (h : FlushesWithin x264 rounds encoder) (hle : rounds ≤ rounds') :
    FlushesWithin x264 rounds' encoder := by
  induction rounds generalizing rounds' encoder with
  | zero => exact h.elim
  -- A round that ends the flush ends it with any bound. One that does not is followed by a flush
  -- with one round less.
  | succ rounds ih =>
    cases rounds' with
    | zero => exact absurd hle (Nat.not_succ_le_zero _)
    | succ rounds' => exact h.imp_right fun hrest => ih hrest (Nat.le_of_succ_le_succ hle)

/-- The state after a round of the flush. -/
def afterFlush (env : Env ξ) (encoder : ξ) (st : State ξ) : State ξ :=
  { st with
    ctx := (flushFrame env.x264 encoder st.ctx).2
    pc := if (flushFrame env.x264 encoder st.ctx).1 then .shutdown else .done }

/-- A round of the flush is one of the rounds that are left, and it encodes no frame. The flush
gives x264 no picture, so the record of the encoder does not grow. -/
theorem stepsLeft_afterFlush {env : Env ξ} {delay n : Nat} {encoder : ξ}
    (hflush : FlushesWithin env.x264 n encoder) (st : State ξ) :
    StepsLeft env.x264 delay (n - 1) (afterFlush env encoder st) ∧
      (afterFlush env encoder st).ctx.log.length
        + (afterFlush env encoder st).pc.pendingEncode = st.ctx.log.length := by
  cases n with
  | zero => exact hflush.elim
  | succ n =>
    by_cases hlast : (env.x264.encoderEncode encoder none).1.frameSize ≤ 0
    · have hdone : flushFrame env.x264 encoder st.ctx
          = (false, { st.ctx with encoder := none, picIn := noPicture }) := if_pos hlast
      simp only [afterFlush, hdone]
      exact ⟨trivial, rfl⟩
    · -- A delayed frame came out. The flush goes on, and it has a round left.
      have hgoes : flushFrame env.x264 encoder st.ctx
          = (true, { st.ctx with encoder := some (env.x264.encoderEncode encoder none).2 }) :=
        if_neg hlast
      have hrest := hflush.resolve_left hlast
      have hpos : 1 ≤ n := by
        cases n with
        | zero => exact hrest.elim
        | succ n => exact Nat.succ_le_succ (Nat.zero_le n)
      simp only [afterFlush, hgoes]
      refine ⟨⟨hpos, fun next hnext => ?_⟩, rfl⟩
      cases hnext
      exact hrest

/-! ### The steps after the signal -/

section
variable {env : Env ξ} {delay encodes n : Nat} {st st' : State ξ} {a : Action}
  {out : List Event}

/-- A step of the DOOM thread or another signal leaves the rest of the thread as it is. -/
theorem Stopping.other (heffect : Effect env st a st' out) (ha : a ≠ .encoder)
    (h : Stopping env delay encodes st n) : Stopping env delay encodes st' n := by
  cases heffect with
  | doom action =>
    refine ⟨h.ready, h.stopped, ?_, h.encodes⟩
    have hleft := h.left
    unfold StepsLeft at hleft ⊢
    rw [(pollResults_doom st.ring action).2]
    exact hleft
  | stop => exact ⟨h.ready, rfl, h.left, h.encodes⟩
  | opened | failed | beginRead | leave | reading | read | encoded | slept | flushed | closed
  | returned => exact absurd rfl ha

/-- A step of the thread is one of the steps that are left. Each effect of the thread is a case.
The one that begins a read is impossible after the signal, and the one that encodes takes the
frame from the pending ones to the record. -/
theorem Stopping.own (hflush : ∀ encoder, FlushesWithin env.x264 (delay + 1) encoder)
    (heffect : Effect env st .encoder st' out) (h : Stopping env delay encodes st n) :
    Stopping env delay encodes st' (n - 1) := by
  have hready := heffect.ready h.ready
  have hleft := h.left
  have hencodes := h.encodes
  unfold StepsLeft at hleft
  cases heffect with
  | opened hpc encoder picIn hfits =>
    rw [hpc] at hleft hencodes
    exact ⟨hready, h.stopped, Nat.le_sub_one_of_lt hleft, hencodes⟩
  | failed hpc ctx hlog hcount =>
    rw [hpc] at hencodes
    refine ⟨hready, rfl, trivial, ?_⟩
    show ctx.log.length + 0 ≤ encodes
    rw [hlog]
    exact hencodes
  | beginRead hpc hrunning =>
    rw [h.stopped] at hrunning
    cases hrunning
  | leave hpc hrunning =>
    rw [hpc] at hleft hencodes
    refine ⟨hready, h.stopped, ⟨?_, fun encoder _ => ?_⟩, hencodes⟩
    · change delay + 2 ≤ n at hleft
      omega
    · exact (hflush encoder).mono (Nat.le_sub_one_of_lt hleft)
  | reading hpc hnone =>
    rw [hpc] at hleft
    obtain ⟨hbusy, hsteps⟩ := hleft
    have hlt := readerSteps_lt st.ring hbusy
    refine ⟨hready, h.stopped, ?_, hencodes⟩
    unfold StepsLeft
    dsimp only
    rw [hpc]
    exact ⟨reader_busy st.ring hbusy hnone, by omega⟩
  | read hpc frame hreturn =>
    rw [hpc] at hleft hencodes
    obtain ⟨hbusy, hsteps⟩ := hleft
    have hlt := readerSteps_lt st.ring hbusy
    cases frame with
    | none =>
      refine ⟨hready, h.stopped, ?_, ?_⟩
      · show delay + 3 ≤ n - 1
        omega
      · exact (Nat.le_succ _).trans hencodes
    | some frame =>
      refine ⟨hready, h.stopped, ?_, hencodes⟩
      show delay + 4 ≤ n - 1
      omega
  | encoded hpc encoder hopen hfits =>
    rw [hpc] at hleft hencodes
    refine ⟨hready, h.stopped, Nat.le_sub_one_of_lt hleft, ?_⟩
    show (st.ctx.log ++ [_]).length + 0 ≤ encodes
    rw [List.length_append]
    exact hencodes
  | slept hpc =>
    rw [hpc] at hleft hencodes
    exact ⟨hready, h.stopped, Nat.le_sub_one_of_lt hleft, hencodes⟩
  | flushed hpc encoder hopen =>
    rw [hpc] at hleft hencodes
    obtain ⟨hrest, hlog⟩ := @stepsLeft_afterFlush _ env delay _ _ (hleft.2 encoder hopen) st
    exact ⟨hready, h.stopped, hrest, hlog.le.trans hencodes⟩
  | closed hpc hopen =>
    rw [hpc] at hencodes
    exact ⟨hready, h.stopped, trivial, hencodes⟩
  | returned hpc =>
    refine ⟨hready, h.stopped, ?_, hencodes⟩
    unfold StepsLeft
    rw [hpc]
    trivial

end

/-- The encoder thread takes the step. -/
def Action.isEncoder : Action → Bool
  | .encoder => true
  | .doom _ | .stop => false

/-- In the main loop and before it, the thread has at most this many steps left. The most are
left right after a poll has begun: the copy of a frame, the call of the encoder, the sleep and
the flush. -/
theorem stepsLeft_of_run {env : Env ξ} {delay : Nat}
    (hflush : ∀ encoder, FlushesWithin env.x264 (delay + 1) encoder) {st : State ξ}
    (hreading : Reading st) : StepsLeft env.x264 delay (FRAME_PIXELS + delay + 9) st := by
  unfold StepsLeft
  cases hpc : st.pc with
  | init | loop | sleep | encode => dsimp only; omega
  | read =>
    refine ⟨hreading hpc, ?_⟩
    have hreader : readerSteps st.ring.reader ≤ FRAME_PIXELS + 5 := by
      cases st.ring.reader with
      | idle | load | acquire | copy | release | advance => dsimp only [readerSteps]; omega
    omega
  | shutdown => exact ⟨by omega, fun encoder _ => (hflush encoder).mono (by omega)⟩
  | done => trivial

/-- The steps of the thread count down what is left, in every interleaving. The steps of the
DOOM thread and further signals are not counted. -/
theorem Stopping.run {env : Env ξ} (halloc : env.x264.Allocates) {delay encodes n : Nat}
    (hflush : ∀ encoder, FlushesWithin env.x264 (delay + 1) encoder) {st : State ξ}
    (h : Stopping env delay encodes st n) (actions : List Action) :
    Ensures (runExcept (step env) st actions)
      (fun next => Stopping env delay encodes next.1 (n - actions.countP Action.isEncoder))
      fun _ => False := by
  refine ensures_countdown ?_ ?_ actions h
  · intro st n a ha h
    cases a with
    | encoder =>
      refine (step_effect halloc h.ready _).mono ?_ fun _ hfault => hfault
      exact fun next heffect => h.own hflush heffect
    | doom action | stop => cases ha
  · intro st n a ha h
    refine (step_effect halloc h.ready a).mono ?_ fun _ hfault => hfault
    intro next heffect
    refine h.other heffect ?_
    rintro rfl
    cases ha

/-- A signal arrives after the steps `before`, and x264 never delays more than `delay`
frames. Whatever the DOOM thread does, the encoder thread ends within a fixed number of its
own steps. It encodes at most one more frame. -/
theorem encoder_thread_ends {env : Env ξ} (halloc : env.x264.Allocates) (delay : Nat)
    (hflush : ∀ encoder, FlushesWithin env.x264 (delay + 1) encoder)
    (memory : Fin RingBuffer.RING_BUFFER_SIZE → RingBuffer.FrameData) (tx : Downlink.State)
    (frame : Frame) (before after : List Action)
    (hsteps : FRAME_PIXELS + delay + 9 ≤ after.countP Action.isEncoder) :
    ∃ st₀ out₀ st out,
      runExcept (step env) (State.start memory tx frame) before = .ok (st₀, out₀) ∧
      runExcept (step env) (State.start memory tx frame) (before ++ .stop :: after)
        = .ok (st, out) ∧
      st.pc = .done ∧ st.ctx.log.length ≤ st₀.ctx.log.length + 1 := by
  obtain ⟨⟨st₀, out₀⟩, hbefore, hready, -, hreading⟩ := run_effects halloc
    (fun st out => PollInv st out ∧ Reading st)
    (fun st a st' out out' heffect h =>
      ⟨h.1.step heffect, heffect.reading_of h.1.idle h.2⟩)
    (ready_start memory tx frame) ⟨⟨RingBuffer.runInv_run memory [], fun _ => rfl⟩, nofun⟩
    before
  have hstart : Stopping env delay (st₀.ctx.log.length + 1) { st₀ with gRunning := false }
      (FRAME_PIXELS + delay + 9) := by
    refine ⟨hready, rfl, stepsLeft_of_run hflush hreading, ?_⟩
    have hone : st₀.pc.pendingEncode ≤ 1 := by cases st₀.pc <;> decide
    exact Nat.add_le_add_left hone _
  have hafter := hstart.run halloc hflush after
  obtain ⟨⟨st, out⟩, hrun, hstopping⟩ := hafter.exists_ok
  refine ⟨st₀, out₀, st, out₀ ++ ([] ++ out), hbefore, ?_, ?_, ?_⟩
  · rw [runExcept_append _ hbefore]
    show (runExcept (step env) { st₀ with gRunning := false } after >>= _) >>= _ = _
    rw [hrun]
    rfl
  · -- No step is left, and only a thread that has returned has none.
    have hleft := hstopping.left
    rw [Nat.sub_eq_zero_of_le hsteps] at hleft
    unfold StepsLeft at hleft
    cases hpc : st.pc with
    | init | loop | sleep | encode | read | shutdown =>
      rw [hpc] at hleft
      dsimp only at hleft
      omega
    | done => rfl
  · exact (Nat.le_add_right _ _).trans hstopping.encodes

/-- DOOM writes a frame, and the encoder thread has begun to copy it. -/
def frameInFlight : List Action :=
  .encoder :: (doomWrite fun _ => 0).map .doom ++ [.encoder, .encoder, .encoder]

/-- The signal arrives while the encoder thread copies a frame out of the ring buffer. -/
theorem encoder_thread_ends_frameInFlight :
    ∃ st₀ out₀ st out,
      runExcept (step quietEnv) quietStart frameInFlight = .ok (st₀, out₀) ∧
      (∃ frame slot, st₀.ring.reader = .copy frame slot 0) ∧
      runExcept (step quietEnv) quietStart
        (frameInFlight ++ .stop :: List.replicate (FRAME_PIXELS + 0 + 9) .encoder)
        = .ok (st, out) ∧
      st.pc = .done ∧ st.ctx.log.length ≤ st₀.ctx.log.length + 1 := by
  obtain ⟨st₀, out₀, st, out, hbefore, hresult⟩ :=
    @encoder_thread_ends _ quietEnv oneNalEncoder_allocates 0
      (fun _ => Or.inl (Int.le_refl 0)) (fun _ _ => ⟨0, 0, 0⟩) (Downlink.downlinkInit 3)
      ⟨fun _ => ⟨0, 0, 0⟩, 0⟩ frameInFlight (List.replicate (FRAME_PIXELS + 0 + 9) .encoder)
      (by rw [List.countP_replicate]; exact Nat.le_refl _)
  refine ⟨st₀, out₀, st, out, hbefore, ?_, hresult⟩
  -- The run once more, up to the copy.
  obtain ⟨st₁, hstart, hwaiting, -⟩ := quietStart_waiting
  obtain ⟨data, out₁, hwrite, hslot⟩ :=
    @runExcept_doomWrite _ quietEnv st₁ hwaiting fun _ => 0
  obtain ⟨st₂, hacquire, hcopy⟩ := @runExcept_acquire _ quietEnv (afterWrite st₁ data)
    hwaiting.loop hwaiting.running hwaiting.reader hslot
  have hrun := runExcept_trans (runExcept_trans hstart hwrite) hacquire
  have hsame : st₀ = st₂ := congrArg Prod.fst (Except.ok.inj (hbefore.symm.trans hrun))
  exact ⟨_, _, hsame ▸ hcopy⟩

end DoomSat.Satellite
