import DoomSat.Model.Uplink
import DoomSat.Support.Machine

/-!
# `DoomSat.Model.KeyQueue`: the key queue of `satellite/uplink.c` with its `int` indices

`Model.Uplink` keeps the two indices of the key queue inside the array by their type. Here
the static variables of the queue are as the source declares them: `g_queue_head` and
`g_queue_tail` are of type `int`. Every access to `g_queue` is checked, and so is the
addition to an index. A result `.error fault` stands for the undefined behaviour of the C
program.

`enqueue_key_event` and `uplink_pop_key` hold `g_queue_mutex` from their first access to
their last, so a call is one step. A list of calls is an interleaving of the threads.

The clock belongs to the environment: `clock k` is what the `k`-th `clock_gettime` answers,
and `clockReads` counts the calls of it.
-/

set_option autoImplicit false

namespace DoomSat.KeyQueue

open Support
open Uplink (KeyEvent Timespec Outcome nowMs KEY_QUEUE_SIZE UPLINK_DEDUP_MS)

/-- What the C program must not do with an index. -/
inductive Fault where
  /-- An access to `g_queue` at an index outside the array. -/
  | outOfBounds (i : Int)
  /-- An addition whose result is no `int`. -/
  | overflow
  deriving DecidableEq, Repr

def INT_MAX : Int := 2147483647

/-- The static variables of the key queue, with the environment's count of the clock
readings. -/
structure State where
  gQueue : Fin KEY_QUEUE_SIZE → KeyEvent
  gQueueHead : Int
  gQueueTail : Int
  gLastEnqueuedKey : UInt16
  gLastEnqueuedPressed : Bool
  gLastEnqueuedMs : UInt64
  /-- The number of `clock_gettime` calls so far. -/
  clockReads : Nat

/-- The static variables when the program starts. `uplink_init` sets both indices to 0
again. -/
def staticState : State where
  gQueue := fun _ => ⟨0, false⟩
  gQueueHead := 0
  gQueueTail := 0
  gLastEnqueuedKey := 0
  gLastEnqueuedPressed := false
  gLastEnqueuedMs := 0
  clockReads := 0

/-- The cell of `g_queue` at an index. -/
def cellAt (i : Int) : Except Fault (Fin KEY_QUEUE_SIZE) :=
  if h : 0 ≤ i ∧ i < KEY_QUEUE_SIZE then .ok ⟨i.toNat, by omega⟩ else .error (.outOfBounds i)

/-- `(i + 1) % KEY_QUEUE_SIZE`. The remainder of two `int` has the sign of the first. -/
def advance (i : Int) : Except Fault Int :=
  if i + 1 ≤ INT_MAX then .ok ((i + 1).tmod KEY_QUEUE_SIZE) else .error .overflow

/-- `clock_gettime` and the computation of `now_ms`. -/
def readClock (clock : Nat → Option Timespec) (st : State) : UInt64 × State :=
  (nowMs (clock st.clockReads), { st with clockReads := st.clockReads + 1 })

/-- The test of the deduplication. The difference is modulo 2^64, as for `uint64_t`. -/
def isDuplicate (st : State) (key : UInt16) (pressed : Bool) (now : UInt64) : Prop :=
  st.gLastEnqueuedKey = key ∧ st.gLastEnqueuedPressed = pressed ∧
    st.gLastEnqueuedMs ≠ 0 ∧ now - st.gLastEnqueuedMs < UPLINK_DEDUP_MS

instance (st : State) (key : UInt16) (pressed : Bool) (now : UInt64) :
    Decidable (isDuplicate st key pressed now) :=
  inferInstanceAs (Decidable (_ ∧ _ ∧ _ ∧ _))

/-- `enqueue_key_event`, and which of its three ways out it takes. -/
def enqueueKeyEvent (clock : Nat → Option Timespec) (st : State) (key : UInt16)
    (pressed : Bool) : Except Fault (State × Outcome) := do
  let (now, st) := readClock clock st
  if isDuplicate st key pressed now then
    .ok (st, .duplicate)
  else
    let nextTail ← advance st.gQueueTail
    if nextTail = st.gQueueHead then
      .ok (st, .full)
    else
      let tail ← cellAt st.gQueueTail
      let st := { st with
        gQueue := Function.update st.gQueue tail ⟨key, pressed⟩
        gQueueTail := nextTail }
      -- The clock is read again for the time of this event.
      let (now, st) := readClock clock st
      .ok ({ st with
        gLastEnqueuedKey := key
        gLastEnqueuedPressed := pressed
        gLastEnqueuedMs := now }, .accepted)

/-- What `uplink_pop_key` leaves: its return value, `*key` and `*pressed`. -/
structure PopResult where
  ret : Int
  key : UInt16
  pressed : Bool
  deriving DecidableEq, Repr

/-- `uplink_pop_key`, with what `*key` and `*pressed` hold before. -/
def uplinkPopKey (st : State) (key : UInt16) (pressed : Bool) :
    Except Fault (State × PopResult) :=
  if st.gQueueHead ≠ st.gQueueTail then do
    let head ← cellAt st.gQueueHead
    let event := st.gQueue head
    let nextHead ← advance st.gQueueHead
    .ok ({ st with gQueueHead := nextHead }, ⟨1, event.key, event.pressed⟩)
  else
    .ok (st, ⟨0, key, pressed⟩)

/-! ### Runs -/

/-- A call that some thread makes. -/
inductive Call where
  | enqueueKeyEvent (key : UInt16) (pressed : Bool)
  /-- With what the output parameters hold before. -/
  | uplinkPopKey (key : UInt16) (pressed : Bool)
  deriving DecidableEq

/-- What a call shows to the outside. -/
inductive Event where
  /-- `enqueue_key_event` ended so for this event, and left this `g_last_enqueued_ms`. -/
  | requested (event : KeyEvent) (outcome : Outcome) (lastMs : UInt64)
  /-- `uplink_pop_key` returned. -/
  | popReturned (result : PopResult)
  deriving DecidableEq

/-- One call. -/
def step (clock : Nat → Option Timespec) (st : State) :
    Call → Except Fault (State × List Event)
  | .enqueueKeyEvent key pressed => do
    let (st', outcome) ← enqueueKeyEvent clock st key pressed
    .ok (st', [.requested ⟨key, pressed⟩ outcome st'.gLastEnqueuedMs])
  | .uplinkPopKey key pressed => do
    let (st', result) ← uplinkPopKey st key pressed
    .ok (st', [.popReturned result])

/-- The run of an interleaving, from the start of the program. -/
def keyQueueRun (clock : Nat → Option Timespec) (calls : List Call) :
    Except Fault (State × List Event) :=
  runExcept (step clock) staticState calls

end DoomSat.KeyQueue
