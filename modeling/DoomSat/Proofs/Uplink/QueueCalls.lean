import DoomSat.Model.Uplink

/-!
# `DoomSat.Proofs.Uplink.QueueCalls`: what a call on the key queue can do

`EnqueueSpec` has one case for each way out of `enqueue_key_event`, and `PopSpec` one for each
way out of `uplink_pop_key`. `enqueueKeyEvent_spec` and `uplinkPopKey_spec` say that there is
no other one.

From them come the exact conditions: `enqueueKeyEvent_accepted_iff` and `enqueue_full_iff` for
the outcome of a request, and `uplinkPopKey_eq_none_iff` for the return value 0.
-/

set_option autoImplicit false

namespace DoomSat.Uplink

open Support

/-- The test of the deduplication: the event is the one in the memory, and the time in the
memory is less than 120 ms ago. -/
def Repeats (st : State) (event : KeyEvent) (now : UInt64) : Prop :=
  st.gLastEnqueuedKey = event.key ∧ st.gLastEnqueuedPressed = event.pressed ∧
    st.gLastEnqueuedMs ≠ 0 ∧ now - st.gLastEnqueuedMs < UPLINK_DEDUP_MS

/-- What `enqueue_key_event` can do. -/
inductive EnqueueSpec (st : State) (event : KeyEvent) (ts ts' : Option Timespec) :
    State × Outcome → Prop where
  /-- The early return of the deduplication. -/
  | duplicate (hdup : Repeats st event (nowMs ts)) : EnqueueSpec st event ts ts' (st, .duplicate)
  /-- The early return for a full queue. -/
  | full (hnew : ¬ Repeats st event (nowMs ts)) (hfull : st.gQueue.push event = none) :
      EnqueueSpec st event ts ts' (st, .full)
  /-- The event is queued, and it becomes the memory of the deduplication. -/
  | accepted (hnew : ¬ Repeats st event (nowMs ts))
      (queue : CircularQueue KeyEvent KEY_QUEUE_SIZE)
      (hpush : st.gQueue.push event = some queue) :
      EnqueueSpec st event ts ts'
        ({ st with
          gQueue := queue
          gLastEnqueuedKey := event.key
          gLastEnqueuedPressed := event.pressed
          gLastEnqueuedMs := nowMs ts' }, .accepted)

/-- What `uplink_pop_key` can do. -/
inductive PopSpec (st : State) : State × Option KeyEvent → Prop where
  | empty (hempty : st.gQueue.pop = none) : PopSpec st (st, none)
  | popped (event : KeyEvent) (queue : CircularQueue KeyEvent KEY_QUEUE_SIZE)
      (hpop : st.gQueue.pop = some (event, queue)) :
      PopSpec st ({ st with gQueue := queue }, some event)

/-- Every call of `enqueue_key_event` has one of the three results. -/
theorem enqueueKeyEvent_spec {st : State} {event : KeyEvent} {ts ts' : Option Timespec}
    {next : State × Outcome} (h : enqueueKeyEvent st event ts ts' = next) :
    EnqueueSpec st event ts ts' next := by
  rw [← h, enqueueKeyEvent]
  split
  · next hdup => exact .duplicate hdup
  · next hnew =>
    cases hpush : st.gQueue.push event with
    | none => exact .full hnew hpush
    | some queue => exact .accepted hnew queue hpush

/-- Every call of `uplink_pop_key` has one of the two results. -/
theorem uplinkPopKey_spec {st : State} {next : State × Option KeyEvent}
    (h : uplinkPopKey st = next) : PopSpec st next := by
  rw [← h, uplinkPopKey]
  cases hpop : st.gQueue.pop with
  | none => exact .empty hpop
  | some popped => exact .popped popped.1 popped.2 hpop

/-! ### The outcome of a request -/

section
variable (st : State) (event : KeyEvent) (ts ts' : Option Timespec)

/-- A call of `enqueue_key_event` meets a full queue exactly when the queue holds 63 events and
the event is no quick repetition of the last one. One of the 64 cells is always free, and the
code looks for a repetition before it looks for room. -/
theorem enqueue_full_iff :
    (enqueueKeyEvent st event ts ts').2 = .full ↔
      st.gQueue.contents.length + 1 = KEY_QUEUE_SIZE ∧ ¬ Repeats st event (nowMs ts) := by
  rw [← CircularQueue.push_eq_none_iff st.gQueue event]
  generalize hnext : enqueueKeyEvent st event ts ts' = next
  cases enqueueKeyEvent_spec hnext with
  | duplicate hdup => simp [hdup]
  | full hnew hfull => simp [hnew, hfull]
  | accepted hnew queue hpush => simp [hpush]

/-- A request is accepted when it repeats nothing and there is room. These are the two early
returns of the code, the other way round. -/
theorem enqueueKeyEvent_accepted_iff :
    (enqueueKeyEvent st event ts ts').2 = .accepted ↔
      ¬ Repeats st event (nowMs ts) ∧ st.gQueue.contents.length < 63 := by
  have hlt : st.gQueue.contents.length < 64 := by
    rw [CircularQueue.length_contents]
    exact st.gQueue.size_lt
  have hroom : st.gQueue.push event ≠ none ↔ st.gQueue.contents.length < 63 := by
    rw [ne_eq, CircularQueue.push_eq_none_iff]
    show ¬ _ = 64 ↔ _
    omega
  rw [← hroom]
  generalize hnext : enqueueKeyEvent st event ts ts' = next
  cases enqueueKeyEvent_spec hnext with
  | duplicate hdup => simp [hdup]
  | full hnew hfull => simp [hfull]
  | accepted hnew queue hpush => simp [hnew, hpush]

/-- An accepted request records its second clock reading. The code reads the clock once for the
repetition and once more for the record. -/
theorem enqueueKeyEvent_lastMs (h : (enqueueKeyEvent st event ts ts').2 = .accepted) :
    (enqueueKeyEvent st event ts ts').1.gLastEnqueuedMs = nowMs ts' := by
  generalize hnext : enqueueKeyEvent st event ts ts' = next at h ⊢
  cases enqueueKeyEvent_spec hnext with
  | duplicate | full => cases h
  | accepted => rfl

/-- A rejected request changes nothing. So the memory of the deduplication is that of the last
accepted event. -/
theorem enqueueKeyEvent_rejected (h : (enqueueKeyEvent st event ts ts').2 ≠ .accepted) :
    (enqueueKeyEvent st event ts ts').1 = st := by
  generalize hnext : enqueueKeyEvent st event ts ts' = next at h ⊢
  cases enqueueKeyEvent_spec hnext with
  | duplicate | full => rfl
  | accepted => exact absurd rfl h

end

/-! ### The result of a pop -/

/-- `uplink_pop_key` returns 0 exactly when the queue is empty. -/
theorem uplinkPopKey_eq_none_iff (st : State) :
    (uplinkPopKey st).2 = none ↔ st.gQueue.contents = [] := by
  generalize hnext : uplinkPopKey st = next
  cases uplinkPopKey_spec hnext with
  | empty hempty =>
    have hcontents := (CircularQueue.head_eq_tail_iff _).mp (CircularQueue.head_of_pop hempty)
    simp [hcontents]
  | popped event queue hpop => simp [CircularQueue.contents_of_pop hpop]

/-- `uplink_pop_key` returns 1 with the oldest key event, and the others stay in their order. -/
theorem uplinkPopKey_some {st st' : State} {event : KeyEvent}
    (h : uplinkPopKey st = (st', some event)) :
    st.gQueue.contents = event :: st'.gQueue.contents := by
  cases uplinkPopKey_spec h with
  | popped _ queue hpop => exact CircularQueue.contents_of_pop hpop

/-- `uplink_pop_key` returns 0 only for an empty key queue, and it leaves the state alone. -/
theorem uplinkPopKey_none {st st' : State} (h : uplinkPopKey st = (st', none)) :
    st' = st ∧ st.gQueue.contents = [] := by
  have hnone := (uplinkPopKey_eq_none_iff st).mp (congrArg Prod.snd h)
  cases uplinkPopKey_spec h with
  | empty => exact ⟨rfl, hnone⟩

end DoomSat.Uplink
