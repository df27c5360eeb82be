import DoomSat.Proofs.RingBuffer.Steps
import DoomSat.Support.Machine

/-!
# `DoomSat.Proofs.RingBuffer.Runs`: every interleaving behaves as a queue

`RunInv` ties a state to the outputs of the run that reached it: the outputs are the
operations of a queue of three frames, and the state holds this queue. `runInv_run` proves
it for every interleaving.

* `reads_prefix_of_writes`: what the reads returned is a prefix of what the writes
  published, and the frame numbers count up from 0.
* `refusals_justified`: a write is refused only when three frames are unreleased, a read
  only when none is. At most one slot is WRITING and at most one is READING.
-/

set_option autoImplicit false

namespace DoomSat.RingBuffer

open Support

/-! ### What the outputs say -/

/-- The frames whose writes stored READY, in order. -/
def publishedFrames (out : List Event) : List Frame := enqueued (queueOps out)

/-- The frames whose reads stored EMPTY, in order. -/
def releasedFrames (out : List Event) : List Frame := dequeued (queueOps out)

/-- The frame that a successful read returned. -/
def Event.returned? : Event → Option Frame
  | .readReturned frame => frame
  | _ => none

/-- The frames that the successful reads returned, in order. -/
def returnedFrames (out : List Event) : List Frame := out.filterMap Event.returned?

/-- A write returned true. -/
def Event.isAccepted : Event → Bool
  | .writeReturned accepted => accepted
  | _ => false

/-- The number of writes that returned true. -/
def acceptedWrites (out : List Event) : Nat := out.countP Event.isAccepted

/-- A write that stored READY and has not returned yet. -/
def Writer.pendingReturn : Writer → Nat
  | .advance _ => 1
  | .finish => 1
  | _ => 0

/-- The frame of a read that stored EMPTY and has not returned yet. -/
def Reader.pendingReturn : Reader → List Frame
  | .advance out _ => [out]
  | _ => []

/-! ### The invariant of a run -/

/-- The outputs are the operations of a queue, and the state holds the queue. -/
structure RunInv (st : State) (out : List Event) : Prop where
  queue : ∃ q, QueueRun 3 [] (queueOps out) q ∧ Sim st (releasedFrames out).length q
  number : ∀ k frame, (publishedFrames out)[k]? = some frame → frame.number = UInt32.ofNat k
  accepted : (publishedFrames out).length = acceptedWrites out + st.writer.pendingReturn
  returned : releasedFrames out = returnedFrames out ++ st.reader.pendingReturn

/-! ### What a step outputs -/

/-- A call of `ringbuffer_write_frame` with parameters that it does not accept. -/
def Action.InvalidWrite : Action → Prop
  | .beginWrite pixels width height => pixels = none ∨ width ≠ 320 ∨ height ≠ 200
  | _ => False

/-- The outputs of a step to `st'`, with what they say of the two threads. -/
inductive StepOutputs (st : State) (a : Action) (st' : State) : List Event → Prop where
  | silent (hw : st'.writer.pendingReturn = st.writer.pendingReturn)
      (hr : st'.reader.pendingReturn = st.reader.pendingReturn) : StepOutputs st a st' []
  | publish (frame : Frame) (hbefore : st.writer.pendingReturn = 0)
      (hafter : st'.writer.pendingReturn = 1)
      (hr : st'.reader.pendingReturn = st.reader.pendingReturn) :
      StepOutputs st a st' [.published frame]
  | accept (hbefore : st.writer.pendingReturn = 1) (hafter : st'.writer.pendingReturn = 0)
      (hr : st'.reader.pendingReturn = st.reader.pendingReturn) :
      StepOutputs st a st' [.writeReturned true]
  /-- The parameters are invalid, or the compare-exchange failed. -/
  | refuseWrite (hcause : a.InvalidWrite ∨ ∃ pixels slot,
        st.writer = .acquire pixels slot ∧ (st.slots slot).status ≠ .empty)
      (hw : st'.writer.pendingReturn = st.writer.pendingReturn)
      (hr : st'.reader.pendingReturn = st.reader.pendingReturn) :
      StepOutputs st a st' [.writeReturned false]
  | release (frame : Frame) (hbefore : st.reader.pendingReturn = [])
      (hafter : st'.reader.pendingReturn = [frame])
      (hw : st'.writer.pendingReturn = st.writer.pendingReturn) :
      StepOutputs st a st' [.released frame]
  | returnFrame (frame : Frame) (hbefore : st.reader.pendingReturn = [frame])
      (hafter : st'.reader.pendingReturn = [])
      (hw : st'.writer.pendingReturn = st.writer.pendingReturn) :
      StepOutputs st a st' [.readReturned (some frame)]
  /-- The compare-exchange failed. -/
  | refuseRead (hcause : ∃ out slot,
        st.reader = .acquire out slot ∧ (st.slots slot).status ≠ .ready)
      (hw : st'.writer.pendingReturn = st.writer.pendingReturn)
      (hr : st'.reader.pendingReturn = st.reader.pendingReturn) :
      StepOutputs st a st' [.readReturned none]

/-- A step of the DOOM thread has one of the listed outputs. -/
theorem writerStep_outputs (st : State) (a : Action) :
    StepOutputs st a (writerStep st).1 (writerStep st).2 := by
  unfold writerStep
  cases hw : st.writer with
  | idle => exact .silent rfl rfl
  | load pixels => exact .silent (by rw [hw]; rfl) rfl
  | acquire pixels slot =>
    dsimp only
    split
    · exact .silent (by rw [hw]; rfl) rfl
    · next hbusy => exact .refuseWrite (Or.inr ⟨pixels, slot, hw, hbusy⟩) (by rw [hw]; rfl) rfl
  | draw pixels slot i =>
    dsimp only
    split
    · exact .silent (by rw [hw]; rfl) rfl
    · exact .silent (by rw [hw]; rfl) rfl
  | publish pixels slot number => exact .publish _ (by rw [hw]; rfl) rfl rfl
  | advance slot => exact .silent (by rw [hw]; rfl) rfl
  | finish => exact .accept (by rw [hw]; rfl) rfl rfl

/-- A step of the encoder thread has one of the listed outputs. -/
theorem readerStep_outputs (st : State) (a : Action) :
    StepOutputs st a (readerStep st).1 (readerStep st).2 := by
  unfold readerStep
  cases hr : st.reader with
  | idle => exact .silent rfl rfl
  | load out => exact .silent rfl (by rw [hr]; rfl)
  | acquire out slot =>
    dsimp only
    split
    · exact .silent rfl (by rw [hr]; rfl)
    · next hbusy => exact .refuseRead ⟨out, slot, hr, hbusy⟩ rfl (by rw [hr]; rfl)
  | copy out slot i =>
    dsimp only
    split
    · exact .silent rfl (by rw [hr]; rfl)
    · exact .silent rfl (by rw [hr]; rfl)
  | release out slot => exact .release out (by rw [hr]; rfl) rfl rfl
  | advance out slot => exact .returnFrame out (by rw [hr]; rfl) rfl rfl

/-- Every step has outputs of this form. -/
theorem step_outputs (st : State) (a : Action) :
    StepOutputs st a (step st a).1 (step st a).2 := by
  cases a with
  | writerStep => exact writerStep_outputs st _
  | readerStep => exact readerStep_outputs st _
  | beginWrite pixels width height =>
    unfold step
    cases hw : st.writer with
    | idle =>
      cases pixels with
      | none => exact .refuseWrite (Or.inl (Or.inl rfl)) rfl rfl
      | some pixels =>
        unfold beginWrite
        dsimp only
        split
        · next hsize => exact .refuseWrite (Or.inl (Or.inr hsize)) rfl rfl
        · exact .silent (by rw [hw]; rfl) rfl
    | load | acquire | draw | publish | advance | finish => exact .silent rfl rfl
  | updatePalette palette =>
    unfold step
    cases hw : st.writer with
    | idle => exact .silent (by rw [hw]) rfl
    | load | acquire | draw | publish | advance | finish => exact .silent rfl rfl
  | beginRead out =>
    unfold step
    cases hr : st.reader with
    | idle => exact .silent rfl (by rw [hr]; rfl)
    | load | acquire | copy | release | advance => exact .silent rfl rfl

/-- A write that returns true has published before, and a write that has published returns true.
Between the two the write is pending, so the count is kept with it. -/
theorem StepOutputs.accepted {st st' : State} {a : Action} {out : List Event}
    (h : StepOutputs st a st' out) :
    st.writer.pendingReturn + (publishedFrames out).length
      = acceptedWrites out + st'.writer.pendingReturn := by
  cases h with
  | silent hw hr | refuseWrite _ hw hr | refuseRead _ hw hr =>
    rw [hw]
    exact Nat.add_comm _ _
  | release _ _ _ hw | returnFrame _ _ _ hw =>
    rw [hw]
    exact Nat.add_comm _ _
  | publish frame hbefore hafter hr | accept hbefore hafter hr =>
    rw [hbefore, hafter]
    rfl

/-- A read that returns a frame has released it before, and a read that has released a frame
returns it. Between the two the frame is pending. -/
theorem StepOutputs.returned {st st' : State} {a : Action} {out : List Event}
    (h : StepOutputs st a st' out) :
    st.reader.pendingReturn ++ releasedFrames out
      = returnedFrames out ++ st'.reader.pendingReturn := by
  cases h with
  | silent hw hr | refuseWrite _ hw hr | refuseRead _ hw hr =>
    rw [hr]
    exact List.append_nil _
  | publish _ _ _ hr | accept _ _ hr =>
    rw [hr]
    exact List.append_nil _
  | release frame hbefore hafter hw | returnFrame frame hbefore hafter hw =>
    rw [hbefore, hafter]
    rfl

/-- The frame that a step publishes has the next number. The frames before it have their numbers
by hypothesis, and the simulation gives the number of the youngest frame in the queue. -/
theorem number_of_move {st : State} {q q' : List Frame} {out out' : List Event}
    (hqueue : QueueRun 3 [] (queueOps out) q) (hmove : QueueMove 3 q (queueOps out') q')
    (hsim : Sim st ((releasedFrames out).length + (releasedFrames out').length) q')
    (hnumber : ∀ k frame, (publishedFrames out)[k]? = some frame →
      frame.number = UInt32.ofNat k) :
    ∀ k frame, (publishedFrames (out ++ out'))[k]? = some frame →
      frame.number = UInt32.ofNat k := by
  have hlaw : publishedFrames out = releasedFrames out ++ q := hqueue.append_enqueued
  have hnew : publishedFrames (out ++ out') = publishedFrames out ++ publishedFrames out' := by
    unfold publishedFrames
    rw [queueOps_append, enqueued_append]
  rw [hnew]
  unfold publishedFrames releasedFrames at *
  generalize queueOps out' = ops at hmove hsim ⊢
  cases hmove with
  | stay => simpa using hnumber
  | step hstep =>
    cases hstep with
    | dequeue a q' => simpa [enqueued] using hnumber
    | enqueue a q room =>
      intro k frame hk
      rcases Nat.lt_or_ge k (enqueued (queueOps out)).length with hlt | hge
      · rw [List.getElem?_append_left hlt] at hk
        exact hnumber k frame hk
      · -- The new frame is the last one of the queue.
        have hlast : k = (enqueued (queueOps out)).length := by
          have := (List.getElem?_eq_some_iff.mp hk).1
          simp [enqueued] at this hge ⊢
          omega
        have hframe : a = frame := by
          rw [hlast, List.getElem?_append_right (Nat.le_refl _), Nat.sub_self] at hk
          exact Option.some.inj hk
        have hlen : k = (dequeued (queueOps out)).length + q.length := by
          rw [hlast, hlaw, List.length_append]
        rw [← hframe, hlen]
        exact hsim.slots.number q.length a (by simp)

/-- Every step keeps the invariant. The queue moves as the simulation says, and the two counts
follow from what the step outputs. -/
theorem runInv_step {st : State} {out : List Event} (h : RunInv st out) (a : Action) :
    RunInv (step st a).1 (out ++ (step st a).2) := by
  obtain ⟨q, hqueue, hsim⟩ := h.queue
  obtain ⟨q', hmove, hsim'⟩ := step_sim hsim a
  refine ⟨⟨q', ?_, ?_⟩, number_of_move hqueue hmove hsim' h.number, ?_, ?_⟩
  · -- The queue, the relation to the state, and then what the writes and the reads have
    -- returned.
    rw [queueOps_append]
    exact hqueue.move hmove
  · unfold releasedFrames at *
    rw [queueOps_append, dequeued_append, List.length_append]
    exact hsim'
  · have hstep := (step_outputs st a).accepted
    have haccepted := h.accepted
    unfold publishedFrames acceptedWrites at *
    rw [queueOps_append, enqueued_append, List.length_append, List.countP_append]
    omega
  · have hstep := (step_outputs st a).returned
    have hreturned := h.returned
    unfold releasedFrames returnedFrames at *
    rw [queueOps_append, dequeued_append, List.filterMap_append, hreturned, List.append_assoc,
      hstep, List.append_assoc]

/-- Every interleaving keeps the invariant. -/
theorem runInv_run (memory : Fin RING_BUFFER_SIZE → FrameData) (actions : List Action) :
    RunInv (run step (ringbufferInit memory) actions).1
      (run step (ringbufferInit memory) actions).2 := by
  refine run_invariant step RunInv ?_ (fun st out a h => runInv_step h a) actions
  exact ⟨⟨[], .nil [], sim_init memory⟩, by simp [publishedFrames], rfl, rfl⟩

/-! ### The queue of the two threads -/

/-- In every interleaving, the frames that the reads returned are a prefix of the frames that
the writes published, with the numbers from 0 on. Every published frame belongs to a write that
returned true, except for the last one while its write is about to return. All of it is the run
invariant, read at the end of the run. -/
theorem reads_prefix_of_writes (memory : Fin RING_BUFFER_SIZE → FrameData)
    (actions : List Action) :
    let st := (run step (ringbufferInit memory) actions).1
    let out := (run step (ringbufferInit memory) actions).2
    returnedFrames out <+: publishedFrames out ∧
      (∀ k frame, (returnedFrames out)[k]? = some frame → frame.number = UInt32.ofNat k) ∧
      (publishedFrames out).length = acceptedWrites out + st.writer.pendingReturn := by
  intro st out
  have hinv : RunInv st out := runInv_run memory actions
  obtain ⟨q, hqueue, -⟩ := hinv.queue
  have hpre : returnedFrames out <+: publishedFrames out := by
    refine List.IsPrefix.trans ?_ hqueue.dequeued_prefix
    exact ⟨_, hinv.returned.symm⟩
  refine ⟨hpre, ?_, hinv.accepted⟩
  intro k frame hk
  obtain ⟨rest, hrest⟩ := hpre
  apply hinv.number k frame
  rw [← hrest, List.getElem?_append_left (List.getElem?_eq_some_iff.mp hk).1]
  exact hk

/-- A slot that the writer does not hold is not WRITING, and one that the reader does not
hold is not READING. -/
theorem status_unique {st : State} {released : Nat} {q : List Frame}
    (h : SlotSim st released q) {slot : Fin RING_BUFFER_SIZE} :
    ((st.slots slot).status = .writing → slot = ringSlot (released + q.length)) ∧
      ((st.slots slot).status = .reading → slot = ringSlot released) := by
  obtain ⟨k, hk, rfl⟩ := exists_ringSlot_eq released slot
  rw [h.status k hk]
  unfold expectedStatus
  -- Only one branch of the expected status is WRITING, and only one is READING.
  refine ⟨fun hw => ?_, fun hr => ?_⟩
  · split at hw
    · split at hw <;> cases hw
    · split at hw
      · rename_i hcond
        rw [hcond.2]
      · cases hw
  · split at hr
    · split at hr
      · rename_i hcond
        rw [hcond.2, Nat.add_zero]
      · cases hr
    · split at hr <;> cases hr

/-- A write that is refused has invalid parameters, or its compare-exchange finds a full
queue. -/
theorem full_of_refused {st : State} {released : Nat} {q : List Frame}
    (h : Sim st released q) {a : Action} (hrefused : .writeReturned false ∈ (step st a).2) :
    a.InvalidWrite ∨ q.length = 3 ∧ st.writer.pendingReturn = 0 := by
  have houtputs := step_outputs st a
  generalize (step st a).2 = out at houtputs hrefused
  cases houtputs with
  | refuseWrite hcause _ _ =>
    rcases hcause with hinvalid | ⟨pixels, slot, hw, hfail⟩
    · exact Or.inl hinvalid
    · right
      have hwriter := h.writer
      unfold WriterSim at hwriter
      rw [hw] at hwriter
      obtain ⟨-, -, rfl⟩ := hwriter
      -- The failing compare-exchange looks at the slot behind the queue.
      rw [ne_eq, writer_acquires_iff h.slots (by rw [hw]; rfl)] at hfail
      have hroom := h.slots.room
      refine ⟨by omega, ?_⟩
      rw [hw]
      rfl
  | silent | publish | accept | release | returnFrame | refuseRead => simp at hrefused

/-- A read that is refused finds an empty queue at its compare-exchange. -/
theorem empty_of_refused {st : State} {released : Nat} {q : List Frame}
    (h : Sim st released q) {a : Action} (hrefused : .readReturned none ∈ (step st a).2) :
    q = [] := by
  have houtputs := step_outputs st a
  generalize (step st a).2 = out at houtputs hrefused
  cases houtputs with
  | refuseRead hcause _ _ =>
    obtain ⟨out, slot, hr, hfail⟩ := hcause
    have hreader := h.reader
    unfold ReaderSim at hreader
    rw [hr] at hreader
    obtain ⟨-, rfl⟩ := hreader
    -- The failing compare-exchange looks at the first slot of the queue.
    rw [ne_eq, reader_acquires_iff h.slots (by rw [hr]; rfl)] at hfail
    exact not_not.mp hfail
  | silent | publish | accept | refuseWrite | release | returnFrame => simp at hrefused

/-- In every state that an interleaving reaches: a step that refuses a valid write finds three
accepted frames that are not released, and a step that refuses a read finds every published
frame released. At most one slot is WRITING, at most one is READING, and at most three frames
are not released. A refusal is judged at its compare-exchange, since the other thread can go on
before the call returns. -/
theorem refusals_justified (memory : Fin RING_BUFFER_SIZE → FrameData)
    (actions : List Action) :
    let st := (run step (ringbufferInit memory) actions).1
    let out := (run step (ringbufferInit memory) actions).2
    (∀ a, .writeReturned false ∈ (step st a).2 → a.InvalidWrite ∨
      acceptedWrites out = (releasedFrames out).length + 3) ∧
      (∀ a, .readReturned none ∈ (step st a).2 → publishedFrames out = releasedFrames out) ∧
      (∀ i j, (st.slots i).status = .writing → (st.slots j).status = .writing → i = j) ∧
      (∀ i j, (st.slots i).status = .reading → (st.slots j).status = .reading → i = j) ∧
      (publishedFrames out).length ≤ (releasedFrames out).length + 3 := by
  intro st out
  have hinv : RunInv st out := runInv_run memory actions
  obtain ⟨q, hqueue, hsim⟩ := hinv.queue
  have hlaw : publishedFrames out = releasedFrames out ++ q := hqueue.append_enqueued
  have hlen : (publishedFrames out).length = (releasedFrames out).length + q.length := by
    rw [hlaw, List.length_append]
  refine ⟨?_, ?_, ?_, ?_, ?_⟩
  · intro a hrefused
    rcases full_of_refused hsim hrefused with hinvalid | ⟨hfull, hpending⟩
    · exact Or.inl hinvalid
    · -- No write is between its store of READY and its return.
      have haccepted := hinv.accepted
      right
      omega
  · intro a hrefused
    rw [hlaw, empty_of_refused hsim hrefused, List.append_nil]
  · intro i j hi hj
    rw [(status_unique hsim.slots).1 hi, (status_unique hsim.slots).1 hj]
  · intro i j hi hj
    rw [(status_unique hsim.slots).2 hi, (status_unique hsim.slots).2 hj]
  · have := hsim.slots.room
    omega

end DoomSat.RingBuffer
