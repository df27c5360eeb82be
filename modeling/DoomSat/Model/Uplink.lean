import DoomSat.Model.Protocol
import DoomSat.Support.CircularQueue

/-!
# `DoomSat.Model.Uplink`: the input receiver of `satellite/uplink.c`

`uplink_poll` reads the pending datagrams, compares the bitfield of each packet with the one
before, and queues a key event for every change. `uplink_pop_key` takes the events out.

The two are modelled step by step, since they can run in different threads. The key queue
is behind a mutex, so a call of `enqueue_key_event` or of `uplink_pop_key` is one step. The
steps of `uplink_poll` are the call of `recvfrom`, each call of `process_bit` and
`process_weapon`, and the update of `g_prev_bitfield`. `Poll` is the program counter of
`uplink_poll`, with its local variables.

An action is a step with what the environment answers: the result of `recvfrom`, and the two
clock readings of `enqueue_key_event`. So a list of actions is an interleaving. An action
that does not fit the program counter changes nothing. The outputs of a step are `Event`s.
-/

set_option autoImplicit false

namespace DoomSat.Uplink

open Support

/-! ### The key codes of DOOM -/

def DK_UPARROW : UInt16 := 0xad
def DK_DOWNARROW : UInt16 := 0xaf
def DK_LEFTARROW : UInt16 := 0xac
def DK_RIGHTARROW : UInt16 := 0xae
def DK_RCTRL : UInt16 := 0x80 + 0x1d
def DK_SPACE : UInt16 := 0x20
def DK_COMMA : UInt16 := 0x2c
def DK_PERIOD : UInt16 := 0x2e
def DK_RSHIFT : UInt16 := 0x80 + 0x36
def DK_RALT : UInt16 := 0x80 + 0x38
def DK_ENTER : UInt16 := 13
def DK_ESCAPE : UInt16 := 27
/-- The character `y`, which has no name in `uplink.c`. -/
def DK_Y : UInt16 := 0x79

def KEY_QUEUE_SIZE : Nat := 64
def UPLINK_DEDUP_MS : UInt64 := 120

/-- `key_event_t`. -/
structure KeyEvent where
  key : UInt16
  pressed : Bool
  deriving DecidableEq, Repr

/-! ### The comparison of two bitfields -/

/-- `process_bit`: the event that it queues, if any. -/
def processBit (cur prev mask doomKey : UInt16) : Option KeyEvent :=
  let curSet := decide (cur &&& mask ≠ 0)
  let prevSet := decide (prev &&& mask ≠ 0)
  if curSet && !prevSet then some ⟨doomKey, true⟩
  else if !curSet && prevSet then some ⟨doomKey, false⟩
  else none

/-- `process_weapon`: the event that it queues, if any. -/
def processWeapon (cur prev : UInt16) : Option KeyEvent :=
  let curW := (cur >>> INPUT_WEAPON_SHIFT) &&& 0x7
  let prevW := (prev >>> INPUT_WEAPON_SHIFT) &&& 0x7
  if curW = prevW then none
  -- A change to weapon 0 queues nothing: there is no release.
  else if curW > 0 ∧ curW ≠ prevW then some ⟨0x30 + curW, true⟩
  else none

/-- A call that `uplink_poll` makes for each packet. -/
inductive Call where
  | bit (mask doomKey : UInt16)
  | weapon

/-- The event that a call queues, if any. -/
def Call.keyEvent (cur prev : UInt16) : Call → Option KeyEvent
  | .bit mask doomKey => processBit cur prev mask doomKey
  | .weapon => processWeapon cur prev

/-- The calls of `uplink_poll` for one packet, in order. -/
def pollCalls : List Call :=
  [.bit INPUT_BIT_FORWARD DK_UPARROW, .bit INPUT_BIT_BACKWARD DK_DOWNARROW,
    .bit INPUT_BIT_LEFT DK_LEFTARROW, .bit INPUT_BIT_RIGHT DK_RIGHTARROW,
    .bit INPUT_BIT_FIRE DK_RCTRL, .bit INPUT_BIT_USE DK_SPACE,
    .bit INPUT_BIT_SLEFT DK_COMMA, .bit INPUT_BIT_SRIGHT DK_PERIOD,
    .bit INPUT_BIT_RUN DK_RSHIFT, .bit INPUT_BIT_STRAFE DK_RALT,
    .bit INPUT_BIT_ENTER DK_ENTER, .bit INPUT_BIT_ESCAPE DK_ESCAPE,
    .bit INPUT_BIT_Y DK_Y, .weapon]

/-! ### The state -/

/-- Where `uplink_poll` is. -/
inductive Poll where
  /-- Outside `uplink_poll`. -/
  | idle
  /-- Before `recvfrom`, after `count` packets. -/
  | receiving (count : Nat)
  /-- In the processing of a packet, with the calls still to make. After the last call comes
  the update of `g_prev_bitfield`. -/
  | processing (pkt : InputPacket) (calls : List Call) (count : Nat)

/-- The static state of `uplink.c`, and `uplink_poll`. The queue is `g_queue` with
`g_queue_head` and `g_queue_tail`. -/
structure State where
  gQueue : CircularQueue KeyEvent KEY_QUEUE_SIZE
  gPrevBitfield : UInt16
  gLastEnqueuedKey : UInt16
  gLastEnqueuedPressed : Bool
  gLastEnqueuedMs : UInt64
  gBytesReceived : UInt64
  poll : Poll

/-- The static state when the program starts. -/
def staticState : State where
  gQueue := { cells := fun _ => ⟨0, false⟩, head := ⟨0, by decide⟩, tail := ⟨0, by decide⟩ }
  gPrevBitfield := 0
  gLastEnqueuedKey := 0
  gLastEnqueuedPressed := false
  gLastEnqueuedMs := 0
  gBytesReceived := 0
  poll := .idle

/-- `uplink_init` with a socket that opens: the queue and the bitfield are reset, and the
memory of the last event is not. -/
def uplinkInit (st : State) : State :=
  { st with
    gQueue := { st.gQueue with head := ⟨0, by decide⟩, tail := ⟨0, by decide⟩ }
    gPrevBitfield := 0 }

/-! ### The key queue -/

/-- `struct timespec`. -/
structure Timespec where
  tvSec : Int64
  tvNsec : Int64

/-- `now_ms`: the milliseconds of a clock reading, and 0 for a `clock_gettime` that fails. -/
def nowMs : Option Timespec → UInt64
  | some ts => ts.tvSec.toUInt64 * 1000 + ts.tvNsec.toUInt64 / 1000000
  | none => 0

/-- The three ways out of `enqueue_key_event`. -/
inductive Outcome where
  | accepted
  | duplicate
  | full
  deriving DecidableEq, Repr

/-- `enqueue_key_event`, with its two clock readings. -/
def enqueueKeyEvent (st : State) (event : KeyEvent) (ts ts' : Option Timespec) :
    State × Outcome :=
  -- The difference of the clock readings is modulo 2^64, as for `uint64_t`.
  if st.gLastEnqueuedKey = event.key ∧ st.gLastEnqueuedPressed = event.pressed ∧
      st.gLastEnqueuedMs ≠ 0 ∧ nowMs ts - st.gLastEnqueuedMs < UPLINK_DEDUP_MS then
    (st, .duplicate)
  else
    match st.gQueue.push event with
    | none => (st, .full)
    | some queue =>
      -- The clock is read again for the time of this event.
      ({ st with
        gQueue := queue
        gLastEnqueuedKey := event.key
        gLastEnqueuedPressed := event.pressed
        gLastEnqueuedMs := nowMs ts' }, .accepted)

/-- `uplink_pop_key`: the event, or `none` for the return value 0. -/
def uplinkPopKey (st : State) : State × Option KeyEvent :=
  match st.gQueue.pop with
  | some (event, queue) => ({ st with gQueue := queue }, some event)
  | none => (st, none)

/-! ### The steps -/

/-- What a step shows to the outside. -/
inductive Event where
  /-- `recvfrom` took this datagram from the socket. -/
  | received (datagram : Datagram)
  /-- `enqueue_key_event` was called for this event, and how it ended. -/
  | requested (event : KeyEvent) (outcome : Outcome)
  /-- `g_prev_bitfield` was set after a packet. -/
  | processed (bitfield : UInt16)
  /-- `uplink_poll` returned. -/
  | pollReturned (result : Int)
  /-- `uplink_pop_key` returned 1 with this event, or 0. -/
  | popReturned (event : Option KeyEvent)
  deriving DecidableEq

/-- What `recvfrom` answers. -/
inductive Recv where
  | datagram (bytes : Datagram)
  /-- `EAGAIN` or `EWOULDBLOCK`. -/
  | wouldBlock
  /-- Another error. -/
  | error

/-- A step of the scheduler. -/
inductive Action where
  /-- A thread calls `uplink_poll`. -/
  | beginPoll
  /-- `recvfrom` returns in `uplink_poll`. -/
  | recv (r : Recv)
  /-- `uplink_poll` goes on with its packet, with the clock readings that it can take. -/
  | pollStep (ts ts' : Option Timespec)
  /-- A thread calls `uplink_pop_key`. -/
  | popKey

/-- The packet in what `recvfrom` copied into the 8 bytes of `buf`, or `none` when it
returned another length than 8. -/
def receivedPacket (bytes : Datagram) : Option InputPacket :=
  if h : (bytes.take 8).length = 8 then
    some (unpackInput ⟨(bytes.take 8).toArray, by simpa using h⟩)
  else none

/-- `uplink_poll` after `recvfrom`. -/
def receive (st : State) (count : Nat) : Recv → State × List Event
  | .wouldBlock => ({ st with poll := .idle }, [.pollReturned count])
  | .error => ({ st with poll := .idle }, [.pollReturned (-1)])
  | .datagram bytes =>
    match receivedPacket bytes with
    -- `continue`: the packet is ignored, and its bytes are not counted.
    | none => (st, [.received bytes])
    | some pkt =>
      ({ st with
        gBytesReceived := st.gBytesReceived + 8
        poll := .processing pkt pollCalls count }, [.received bytes])

/-- The next step of `uplink_poll` with its packet. -/
def pollStep (st : State) (ts ts' : Option Timespec) : State × List Event :=
  match st.poll with
  | .processing pkt [] count =>
    -- The bitfield is remembered whatever became of the events of the packet.
    ({ st with gPrevBitfield := pkt.bitfield, poll := .receiving (count + 1) },
      [.processed pkt.bitfield])
  | .processing pkt (call :: calls) count =>
    let st' := { st with poll := .processing pkt calls count }
    match call.keyEvent pkt.bitfield st.gPrevBitfield with
    | none => (st', [])
    | some event =>
      let next := enqueueKeyEvent st' event ts ts'
      (next.1, [.requested event next.2])
  | _ => (st, [])

/-- One step of an interleaving. -/
def step (st : State) : Action → State × List Event
  | .beginPoll =>
    match st.poll with
    | .idle => ({ st with poll := .receiving 0 }, [])
    | _ => (st, [])
  | .recv r =>
    match st.poll with
    | .receiving count => receive st count r
    | _ => (st, [])
  | .pollStep ts ts' => pollStep st ts ts'
  | .popKey =>
    let next := uplinkPopKey st
    (next.1, [.popReturned next.2])

end DoomSat.Uplink
