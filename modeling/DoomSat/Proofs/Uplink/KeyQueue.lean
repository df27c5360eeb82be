import DoomSat.Model.KeyQueue
import DoomSat.Proofs.Uplink.QueueCalls
import DoomSat.Support.Block

/-!
# `DoomSat.Proofs.Uplink.KeyQueue`: the key queue is a bounded queue with a deduplication

`represent` turns a state of `Model.Uplink`, whose indices lie in the array by their type,
into the static variables with `int` indices. `step_represent` says that a call does the same
on both, and so no call accesses a cell outside `g_queue` and no index overflows
(`keyQueueRun_eq_ok`).

`RunInv` is then an invariant over the state of `Model.Uplink` and the events of the run:

* what was popped, and then what is pending, is what was accepted (`RunInv.fifo`);
* the memory of the deduplication is the last accepted event with its time
  (`RunInv.memory`);
* this time is not later than any clock reading to come (`RunInv.past`).

`BoundedFifo` says what this means for the next call, and `boundedFifo_run` proves it after
every interleaving.
-/

set_option autoImplicit false

namespace DoomSat.KeyQueue

open Support
open Uplink (KeyEvent Timespec Outcome nowMs KEY_QUEUE_SIZE UPLINK_DEDUP_MS Repeats
  enqueueKeyEvent_spec uplinkPopKey_spec)

/-! ### What the variables and the events say -/

/-- The events that wait in `g_queue`, the oldest first. -/
def pending (st : State) : List KeyEvent :=
  (List.range ((st.gQueueTail - st.gQueueHead) % KEY_QUEUE_SIZE).toNat).map fun i : Nat =>
    st.gQueue ⟨((st.gQueueHead + i) % KEY_QUEUE_SIZE).toNat, by unfold KEY_QUEUE_SIZE; omega⟩

/-- An accepted event with the time that was recorded for it. -/
def Event.accepted? : Event → Option (KeyEvent × UInt64)
  | .requested event .accepted lastMs => some (event, lastMs)
  | _ => none

/-- The accepted events, each with the time that was recorded for it. -/
def accepted (out : List Event) : List (KeyEvent × UInt64) := out.filterMap Event.accepted?

/-- The event of an `uplink_pop_key` that returned one. -/
def Event.popped? : Event → Option KeyEvent
  | .popReturned result => if result.ret = 0 then none else some ⟨result.key, result.pressed⟩
  | _ => none

/-- The events that `uplink_pop_key` returned. -/
def popped (out : List Event) : List KeyEvent := out.filterMap Event.popped?

/-- The event is the last accepted one again, and this one was recorded less than 120 ms
before `now`. -/
def RecentRepeat (out : List Event) (event : KeyEvent) (now : UInt64) : Prop :=
  ∃ recorded, (accepted out).getLast? = some (event, recorded) ∧
    now.toNat < recorded.toNat + 120

/-- A clock that never fails, does not read 0 ms and does not go back. -/
structure SteadyClock (clock : Nat → Option Timespec) : Prop where
  pos : ∀ n, 0 < nowMs (clock n)
  mono : ∀ m n, m ≤ n → nowMs (clock m) ≤ nowMs (clock n)

/-! ### The indices -/

/-- An index of the array is no fault. `cellAt` checks the bounds that the C code relies on. -/
@[simp] theorem cellAt_val (i : Fin KEY_QUEUE_SIZE) : cellAt (i.val : Int) = .ok i := by
  unfold cellAt
  rw [dif_pos ⟨by omega, by omega⟩]
  rfl

/-- The next index is that of the circular queue. The sum does not overflow, and `%` of C is the
remainder here, since no index is negative. -/
@[simp] theorem advance_val (i : Fin KEY_QUEUE_SIZE) :
    advance (i.val : Int) = .ok ((CircularQueue.next i).val : Int) := by
  have hi : i.val < 64 := i.isLt
  unfold advance INT_MAX
  rw [if_pos (by omega)]
  show Except.ok (((i.val + 1 : Nat) : Int).tmod KEY_QUEUE_SIZE) = _
  rw [← Int.ofNat_tmod]
  rfl

/-- The code compares the indices as `int`s, which is the comparison of the cells. -/
theorem val_eq_val_iff (i j : Fin KEY_QUEUE_SIZE) : (i.val : Int) = j.val ↔ i = j := by
  rw [Int.natCast_inj, Fin.ext_iff]

/-! ### The states of `Model.Uplink` -/

/-- The static variables for a state of `Model.Uplink`. -/
def represent (u : Uplink.State) (clockReads : Nat) : State where
  gQueue := u.gQueue.cells
  gQueueHead := u.gQueue.head.val
  gQueueTail := u.gQueue.tail.val
  gLastEnqueuedKey := u.gLastEnqueuedKey
  gLastEnqueuedPressed := u.gLastEnqueuedPressed
  gLastEnqueuedMs := u.gLastEnqueuedMs
  clockReads := clockReads

/-- The pending events are the content of the circular queue. `pending` computes with the `int`
indices as the variables have them, so the head may be behind the tail in the array or not. -/
theorem pending_represent (u : Uplink.State) (n : Nat) :
    pending (represent u n) = u.gQueue.contents := by
  have hhead : u.gQueue.head.val < 64 := u.gQueue.head.isLt
  have htail : u.gQueue.tail.val < 64 := u.gQueue.tail.isLt
  have hsize : (((u.gQueue.tail.val : Int) - u.gQueue.head.val) % KEY_QUEUE_SIZE).toNat
      = u.gQueue.size := by
    unfold CircularQueue.size KEY_QUEUE_SIZE
    -- Both orders of the two indices in the array.
    split <;> omega
  -- The two lists have the same length, and they agree cell by cell.
  apply List.ext_getElem
  · rw [CircularQueue.length_contents, ← hsize]
    simp [pending, represent]
  · intro i hi hi'
    rw [CircularQueue.length_contents] at hi'
    have hlt : u.gQueue.size < 64 := u.gQueue.size_lt
    simp only [pending, represent, CircularQueue.contents, List.getElem_map,
      List.getElem_range, List.getElem_ofFn]
    congr 1
    rw [Fin.ext_iff, CircularQueue.index_val]
    show (((u.gQueue.head.val : Int) + i) % 64).toNat
      = if u.gQueue.head.val + i < 64 then u.gQueue.head.val + i
        else u.gQueue.head.val + i - 64
    split <;> omega

/-- The clock readings of a call of `enqueue_key_event`. -/
def readsOf : Outcome → Nat
  | .accepted => 2
  | .duplicate | .full => 1

/-- A rejected request reads the clock once: the second reading is made after the acceptance. -/
theorem readsOf_rejected {outcome : Outcome} (h : outcome ≠ .accepted) :
    readsOf outcome = 1 := by
  cases outcome with
  | accepted => exact absurd rfl h
  | duplicate | full => rfl

section
variable (clock : Nat → Option Timespec)

/-- `enqueue_key_event` does on the variables what it does in `Model.Uplink`: the same outcome,
the same new state, and no fault on the way. -/
theorem enqueueKeyEvent_represent (u : Uplink.State) (n : Nat) (key : UInt16)
    (pressed : Bool) :
    enqueueKeyEvent clock (represent u n) key pressed =
      let next := Uplink.enqueueKeyEvent u ⟨key, pressed⟩ (clock n) (clock (n + 1))
      .ok (represent next.1 (n + readsOf next.2), next.2) := by
  generalize hnext : Uplink.enqueueKeyEvent u ⟨key, pressed⟩ (clock n) (clock (n + 1)) = next
  unfold enqueueKeyEvent
  -- The three ends of the function, in the order of its tests.
  cases enqueueKeyEvent_spec hnext with
  | duplicate hdup => exact if_pos hdup
  | full hnew hfull =>
    refine (if_neg hnew).trans ?_
    show (advance (u.gQueue.tail.val : Int) >>= _) = _
    rw [advance_val]
    exact if_pos ((val_eq_val_iff _ _).mpr (CircularQueue.next_tail_of_push hfull))
  | accepted hnew queue hpush =>
    obtain ⟨hroom, rfl⟩ := CircularQueue.eq_of_push hpush
    refine (if_neg hnew).trans ?_
    show (advance (u.gQueue.tail.val : Int) >>= _) = _
    rw [advance_val]
    refine (if_neg (mt (val_eq_val_iff _ _).mp hroom)).trans ?_
    show (cellAt (u.gQueue.tail.val : Int) >>= _) = _
    rw [cellAt_val]
    rfl

end

/-- What `uplink_pop_key` leaves for a popped event, or for none. -/
def popResult (key : UInt16) (pressed : Bool) : Option KeyEvent → PopResult
  | some event => ⟨1, event.key, event.pressed⟩
  | none => ⟨0, key, pressed⟩

/-- `uplink_pop_key` does on the variables what it does in `Model.Uplink`. Its output parameters
change only when an event is popped. -/
theorem uplinkPopKey_represent (u : Uplink.State) (n : Nat) (key : UInt16) (pressed : Bool) :
    uplinkPopKey (represent u n) key pressed =
      let next := Uplink.uplinkPopKey u
      .ok (represent next.1 n, popResult key pressed next.2) := by
  generalize hnext : Uplink.uplinkPopKey u = next
  unfold uplinkPopKey
  cases uplinkPopKey_spec hnext with
  | empty hempty =>
    have heq := CircularQueue.head_of_pop hempty
    exact if_neg (not_not.mpr ((val_eq_val_iff _ _).mpr heq))
  | popped event queue hpop =>
    obtain ⟨hne, rfl, rfl⟩ := CircularQueue.eq_of_pop hpop
    refine (if_pos (mt (val_eq_val_iff _ _).mp hne)).trans ?_
    show (cellAt (u.gQueue.head.val : Int) >>= fun head =>
      advance (u.gQueue.head.val : Int) >>= _) = _
    rw [cellAt_val, ok_bind, advance_val]
    rfl

/-! ### The run on `Model.Uplink` -/

/-- One call on a state of `Model.Uplink`, with the number of clock readings so far. -/
def uplinkStep (clock : Nat → Option Timespec) (s : Uplink.State × Nat) :
    Call → (Uplink.State × Nat) × List Event
  | .enqueueKeyEvent key pressed =>
    let next := Uplink.enqueueKeyEvent s.1 ⟨key, pressed⟩ (clock s.2) (clock (s.2 + 1))
    ((next.1, s.2 + readsOf next.2),
      [.requested ⟨key, pressed⟩ next.2 next.1.gLastEnqueuedMs])
  | .uplinkPopKey key pressed =>
    let next := Uplink.uplinkPopKey s.1
    ((next.1, s.2), [.popReturned (popResult key pressed next.2)])

/-- A call does the same on both, with the same clock readings. -/
theorem step_represent (clock : Nat → Option Timespec) (s : Uplink.State × Nat)
    (call : Call) :
    step clock (represent s.1 s.2) call =
      .ok (represent (uplinkStep clock s call).1.1 (uplinkStep clock s call).1.2,
        (uplinkStep clock s call).2) := by
  cases call with
  | enqueueKeyEvent key pressed =>
    rw [step, enqueueKeyEvent_represent]
    rfl
  | uplinkPopKey key pressed =>
    rw [step, uplinkPopKey_represent]
    rfl

/-- The state and the events of an interleaving on `Model.Uplink`. -/
def uplinkRun (clock : Nat → Option Timespec) (calls : List Call) :
    (Uplink.State × Nat) × List Event :=
  run (uplinkStep clock) (Uplink.staticState, 0) calls

/-- No interleaving has a fault, and its state represents one of `Model.Uplink`. No clock is
excluded here: the faults are those of the indices. -/
theorem keyQueueRun_eq_ok (clock : Nat → Option Timespec) (calls : List Call) :
    keyQueueRun clock calls =
      .ok (represent (uplinkRun clock calls).1.1 (uplinkRun clock calls).1.2,
        (uplinkRun clock calls).2) :=
  @runExcept_eq_ok _ _ _ _ _ (step clock) (uplinkStep clock) (fun s => represent s.1 s.2)
    (step_represent clock) (Uplink.staticState, 0) calls

/-! ### The invariant -/

/-- The event in the memory of the deduplication, with its time. The memory is empty while
the time is 0. -/
def remembered (u : Uplink.State) : Option (KeyEvent × UInt64) :=
  if u.gLastEnqueuedMs = 0 then none
  else some (⟨u.gLastEnqueuedKey, u.gLastEnqueuedPressed⟩, u.gLastEnqueuedMs)

/-- Ties a state to the events of the run that reached it. -/
structure RunInv (clock : Nat → Option Timespec) (s : Uplink.State × Nat) (out : List Event) :
    Prop where
  fifo : popped out ++ s.1.gQueue.contents = (accepted out).map Prod.fst
  memory : (accepted out).getLast? = remembered s.1
  past : ∀ n, s.2 ≤ n → s.1.gLastEnqueuedMs ≤ nowMs (clock n)

/-- The accepted events of two parts of a run. -/
@[simp] theorem accepted_append (out out' : List Event) :
    accepted (out ++ out') = accepted out ++ accepted out' :=
  List.filterMap_append

/-- The popped events of two parts of a run. -/
@[simp] theorem popped_append (out out' : List Event) :
    popped (out ++ out') = popped out ++ popped out' :=
  List.filterMap_append

/-- An event that shows no accepted request adds nothing to the accepted events. -/
theorem accepted_singleton {ev : Event} (h : ev.accepted? = none) : accepted [ev] = [] := by
  simp [accepted, h]

/-- An event that shows no popped key adds nothing to the popped events. -/
theorem popped_singleton {ev : Event} (h : ev.popped? = none) : popped [ev] = [] := by
  simp [popped, h]

/-- An outcome other than the acceptance shows no accepted event. -/
theorem accepted?_of_ne {outcome : Outcome} (h : outcome ≠ .accepted) (event : KeyEvent)
    (ms : UInt64) : (Event.requested event outcome ms).accepted? = none := by
  cases outcome with
  | accepted => exact absurd rfl h
  | duplicate | full => rfl

section
variable {clock : Nat → Option Timespec}

/-- The invariant holds when the program starts: nothing is queued and nothing remembered. -/
theorem runInv_staticState : RunInv clock (Uplink.staticState, 0) [] where
  fifo := (CircularQueue.head_eq_tail_iff _).mp rfl
  memory := rfl
  past := fun _ _ => UInt64.zero_le

section
variable {u : Uplink.State} {n : Nat} {out : List Event}

/-- An event that shows neither an accepted request nor a popped key keeps the invariant. The
clock can go on. -/
theorem RunInv.quiet (h : RunInv clock (u, n) out) {ev : Event} {n' : Nat} (hn : n ≤ n')
    (haccepted : ev.accepted? = none) (hpopped : ev.popped? = none) :
    RunInv clock (u, n') (out ++ [ev]) where
  fifo := by
    rw [popped_append, popped_singleton hpopped, accepted_append,
      accepted_singleton haccepted, List.append_nil, List.append_nil]
    exact h.fifo
  memory := by
    rw [accepted_append, accepted_singleton haccepted, List.append_nil]
    exact h.memory
  past := fun m hm => h.past m (Nat.le_trans hn hm)

/-- An accepted request puts its event into the queue and into the memory. The recorded time is
the second reading of the call, and the clock does not read 0, so the memory is in use from then
on. -/
theorem RunInv.accept (h : RunInv clock (u, n) out) (hclock : SteadyClock clock)
    (event : KeyEvent) {queue : CircularQueue KeyEvent KEY_QUEUE_SIZE}
    (hpush : u.gQueue.push event = some queue) :
    RunInv clock
      ({ u with
        gQueue := queue
        gLastEnqueuedKey := event.key
        gLastEnqueuedPressed := event.pressed
        gLastEnqueuedMs := nowMs (clock (n + 1)) }, n + readsOf .accepted)
      (out ++ [.requested event .accepted (nowMs (clock (n + 1)))]) := by
  constructor
  · rw [CircularQueue.contents_of_push hpush, popped_append, accepted_append, List.map_append,
      ← h.fifo]
    show popped out ++ [] ++ _ = _ ++ [event]
    rw [List.append_nil, List.append_assoc]
  · -- The recorded time is not 0, so the memory holds the event.
    have hpos : nowMs (clock (n + 1)) ≠ 0 := UInt64.pos_iff_ne_zero.mp (hclock.pos _)
    rw [accepted_append, remembered, if_neg hpos]
    exact List.getLast?_concat
  · -- Later readings are not earlier than the recorded one.
    intro m hm
    exact hclock.mono (n + 1) m (Nat.le_trans (Nat.le_succ _) hm)

/-- A pop takes the oldest event out of the queue. The memory of the deduplication stays, so an
event that was popped still counts as the last accepted one. -/
theorem RunInv.pop (h : RunInv clock (u, n) out) {event : KeyEvent}
    {queue : CircularQueue KeyEvent KEY_QUEUE_SIZE}
    (hpop : u.gQueue.pop = some (event, queue)) :
    RunInv clock ({ u with gQueue := queue }, n)
      (out ++ [.popReturned ⟨1, event.key, event.pressed⟩]) where
  fifo := by
    have hfifo := h.fifo
    rw [CircularQueue.contents_of_pop hpop] at hfifo
    rw [popped_append, accepted_append, List.map_append]
    show popped out ++ [event] ++ _ = (accepted out).map Prod.fst ++ []
    rw [List.append_nil, ← hfifo, List.append_assoc]
    rfl
  memory := by
    rw [accepted_append, accepted_singleton rfl, List.append_nil]
    exact h.memory
  past := h.past

end

/-- Every call keeps the invariant. The cases are those of the two specifications of
`DoomSat.Proofs.Uplink.QueueCalls`. -/
theorem runInv_step (hclock : SteadyClock clock) {s : Uplink.State × Nat} {out : List Event}
    (h : RunInv clock s out) (call : Call) :
    RunInv clock (uplinkStep clock s call).1 (out ++ (uplinkStep clock s call).2) := by
  obtain ⟨u, n⟩ := s
  cases call with
  | enqueueKeyEvent key pressed =>
    unfold uplinkStep
    dsimp only
    generalize hnext :
      Uplink.enqueueKeyEvent u ⟨key, pressed⟩ (clock n) (clock (n + 1)) = next
    cases enqueueKeyEvent_spec hnext with
    | duplicate hdup =>
      exact h.quiet (Nat.le_add_right n _) (accepted?_of_ne Outcome.noConfusion _ _) rfl
    | full hnew hfull =>
      exact h.quiet (Nat.le_add_right n _) (accepted?_of_ne Outcome.noConfusion _ _) rfl
    | accepted hnew queue hpush => exact h.accept hclock _ hpush
  | uplinkPopKey key pressed =>
    unfold uplinkStep
    dsimp only
    generalize hnext : Uplink.uplinkPopKey u = next
    cases uplinkPopKey_spec hnext with
    | empty => exact h.quiet (Nat.le_refl n) rfl rfl
    | popped event queue hpop => exact h.pop hpop

/-- The invariant holds after every interleaving. -/
theorem runInv_run (hclock : SteadyClock clock) (calls : List Call) :
    RunInv clock (uplinkRun clock calls).1 (uplinkRun clock calls).2 :=
  run_invariant (uplinkStep clock) (RunInv clock) runInv_staticState
    (fun _ _ call h => runInv_step hclock h call) calls

/-- The difference of two clock readings, when the clock does not go back: the unsigned
subtraction does not wrap around. -/
theorem sub_lt_dedup_iff {ms now : UInt64} (h : ms ≤ now) :
    now - ms < UPLINK_DEDUP_MS ↔ now.toNat < ms.toNat + 120 := by
  rw [UInt64.lt_iff_toNat_lt, UInt64.toNat_sub_of_le _ _ h]
  show now.toNat - ms.toNat < 120 ↔ _
  have hle := UInt64.le_iff_toNat_le.mp h
  omega

section
variable {u : Uplink.State} {n : Nat} {out : List Event}

/-- The deduplication finds the repetitions of the last accepted event within 120 ms, and
nothing else. The invariant supplies that the memory is this event, and that the clock has not
gone back since. -/
theorem RunInv.repeats_iff (h : RunInv clock (u, n) out) (event : KeyEvent) :
    Repeats u event (nowMs (clock n)) ↔ RecentRepeat out event (nowMs (clock n)) := by
  have hrecent := sub_lt_dedup_iff (h.past n (Nat.le_refl n))
  obtain ⟨key, pressed⟩ := event
  rw [RecentRepeat, h.memory]
  show _ ↔ ∃ recorded, remembered u = _ ∧ _
  unfold remembered
  -- The memory is empty, or it holds the last accepted event.
  split
  · next hzero => simp [Repeats, hzero]
  · next hne =>
    constructor
    · rintro ⟨rfl, rfl, -, hlt⟩
      exact ⟨u.gLastEnqueuedMs, rfl, hrecent.mp hlt⟩
    · rintro ⟨recorded, hsome, hlt⟩
      cases hsome
      exact ⟨rfl, rfl, hne, hrecent.mpr hlt⟩

end

end

/-! ### What a call does in a state of the run -/

/-- The result 0 is that of an empty queue. -/
theorem popResult_ret_iff (key : UInt16) (pressed : Bool) (event : Option KeyEvent) :
    (popResult key pressed event).ret = 0 ↔ event = none := by
  cases event <;> simp [popResult]

/-- The output parameters are left as they were exactly when nothing is popped: otherwise `ret`
is 1. -/
theorem popResult_eq_iff (key : UInt16) (pressed : Bool) (event : Option KeyEvent) :
    popResult key pressed event = ⟨0, key, pressed⟩ ↔ event = none := by
  cases event <;> simp [popResult]

/-- What holds of the queue after a run with the events `out`. -/
structure BoundedFifo (clock : Nat → Option Timespec) (st : State) (out : List Event) :
    Prop where
  head : 0 ≤ st.gQueueHead ∧ st.gQueueHead ≤ 63
  tail : 0 ≤ st.gQueueTail ∧ st.gQueueTail ≤ 63
  /-- What was popped, and then what is pending, is what was accepted, in order. -/
  fifo : popped out ++ pending st = (accepted out).map Prod.fst
  /-- The next request has no fault. It is accepted exactly when it is no recent repetition
  and there is room. An accepted request reads the clock twice, and the time that it records
  is the second reading. A rejected request only takes its clock reading. -/
  enqueue : ∀ key pressed, ∃ st' outcome,
    enqueueKeyEvent clock st key pressed = .ok (st', outcome) ∧
      (outcome = .accepted ↔
        ¬ RecentRepeat out ⟨key, pressed⟩ (nowMs (clock st.clockReads)) ∧
          (pending st).length < 63) ∧
      (outcome = .accepted → st'.clockReads = st.clockReads + 2 ∧
        st'.gLastEnqueuedMs = nowMs (clock (st.clockReads + 1))) ∧
      (outcome ≠ .accepted → st' = { st with clockReads := st.clockReads + 1 })
  /-- The next pop has no fault. It returns 0 exactly when nothing is pending, and then it
  leaves its output parameters as they were. -/
  pop : ∀ key pressed, ∃ st' result,
    uplinkPopKey st key pressed = .ok (st', result) ∧
      (result.ret = 0 ↔ pending st = []) ∧
      (result = ⟨0, key, pressed⟩ ↔ pending st = [])

/-- A state that the invariant ties to the events is one of a bounded queue. Each part is a fact
about the call in `Model.Uplink`, read through `represent`. -/
theorem RunInv.boundedFifo {clock : Nat → Option Timespec} {u : Uplink.State} {n : Nat}
    {out : List Event} (h : RunInv clock (u, n) out) :
    BoundedFifo clock (represent u n) out where
  head := by
    have hlt : u.gQueue.head.val < 64 := u.gQueue.head.isLt
    show 0 ≤ (u.gQueue.head.val : Int) ∧ (u.gQueue.head.val : Int) ≤ 63
    omega
  tail := by
    have hlt : u.gQueue.tail.val < 64 := u.gQueue.tail.isLt
    show 0 ≤ (u.gQueue.tail.val : Int) ∧ (u.gQueue.tail.val : Int) ≤ 63
    omega
  fifo := by
    rw [pending_represent]
    exact h.fifo
  enqueue := by
    intro key pressed
    refine ⟨_, _, enqueueKeyEvent_represent clock u n key pressed, ?_, ?_, ?_⟩
    · show _ ↔ ¬ RecentRepeat out ⟨key, pressed⟩ (nowMs (clock n)) ∧ _
      rw [pending_represent, ← h.repeats_iff]
      exact Uplink.enqueueKeyEvent_accepted_iff u _ _ _
    · intro haccepted
      refine ⟨?_, Uplink.enqueueKeyEvent_lastMs u _ _ _ haccepted⟩
      rw [haccepted]
      rfl
    · intro hrejected
      rw [Uplink.enqueueKeyEvent_rejected u _ _ _ hrejected, readsOf_rejected hrejected]
      rfl
  pop := by
    intro key pressed
    refine ⟨_, _, uplinkPopKey_represent u n key pressed, ?_, ?_⟩
    · rw [pending_represent, popResult_ret_iff]
      exact Uplink.uplinkPopKey_eq_none_iff u
    · rw [pending_represent, popResult_eq_iff]
      exact Uplink.uplinkPopKey_eq_none_iff u

/-- Every interleaving under a steady clock runs without a fault, and the key queue is then a
bounded queue with a deduplication. -/
theorem boundedFifo_run (clock : Nat → Option Timespec) (hclock : SteadyClock clock)
    (calls : List Call) :
    ∃ st out, keyQueueRun clock calls = .ok (st, out) ∧ BoundedFifo clock st out :=
  ⟨_, _, keyQueueRun_eq_ok clock calls, (runInv_run hclock calls).boundedFifo⟩

/-- A clock that reads 1 s three times, and 2 s after that. -/
def twoSeconds (k : Nat) : Option Timespec := if k < 3 then some ⟨1, 0⟩ else some ⟨2, 0⟩

/-- The clock never reads 0, and it goes forward. -/
theorem steadyClock_twoSeconds : SteadyClock twoSeconds where
  pos := by
    intro k
    unfold twoSeconds
    split <;> decide
  mono := by
    intro k m hkm
    unfold twoSeconds
    split
    · split <;> decide
    · next hk =>
      rw [if_neg (by omega)]
      exact UInt64.le_refl _

/-- ENTER is pressed twice in the first second and once in the next, and then two pops. -/
def enterThrice : List Call :=
  [.enqueueKeyEvent Uplink.DK_ENTER true, .enqueueKeyEvent Uplink.DK_ENTER true,
    .enqueueKeyEvent Uplink.DK_ENTER true, .uplinkPopKey 0 false, .uplinkPopKey 0 false]

/-- The run of `enterThrice` under this clock. Its second press is a duplicate. -/
theorem boundedFifo_run_enterThrice :
    SteadyClock twoSeconds ∧
      ∃ st out, keyQueueRun twoSeconds enterThrice = .ok (st, out) ∧
        BoundedFifo twoSeconds st out :=
  ⟨steadyClock_twoSeconds, boundedFifo_run twoSeconds steadyClock_twoSeconds enterThrice⟩

/-- The second press is a duplicate, and the third is not. -/
example : (keyQueueRun twoSeconds enterThrice).map Prod.snd = .ok
    [.requested ⟨Uplink.DK_ENTER, true⟩ .accepted 1000,
      .requested ⟨Uplink.DK_ENTER, true⟩ .duplicate 1000,
      .requested ⟨Uplink.DK_ENTER, true⟩ .accepted 2000,
      .popReturned ⟨1, Uplink.DK_ENTER, true⟩, .popReturned ⟨1, Uplink.DK_ENTER, true⟩] := by
  decide

end DoomSat.KeyQueue
