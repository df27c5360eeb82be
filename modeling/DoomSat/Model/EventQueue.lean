import DoomSat.Model.Engine
import DoomSat.Support.Machine

/-!
# `DoomSat.Model.EventQueue`: from the uplink to the event queue of DOOM

`D_PostEvent` and `D_PopEvent` of `d_event.c` keep the events of the engine in an array of 64
cells. `I_GetEvent` of `i_video.c` calls `uplink_poll` and then moves every key event from the
key queue of the uplink to this array.

`D_PostEvent` has no test for a full array. The mouse, joystick and quit events that
`I_GetEvent` can post are not modelled.
-/

set_option autoImplicit false

namespace DoomSat.Engine

open Support
open Uplink

def MAXEVENTS : Nat := 64

/-- The static state of `d_event.c`. -/
structure EventQueue where
  events : Fin MAXEVENTS → EngineEvent
  /-- The index of the next write. -/
  eventhead : Fin MAXEVENTS
  /-- The index of the next read. -/
  eventtail : Fin MAXEVENTS

/-- `D_PostEvent`: writes the event, whether or not the cell still waits for its read. -/
def dPostEvent (q : EventQueue) (ev : EngineEvent) : EventQueue :=
  { q with
    events := Function.update q.events q.eventhead ev
    eventhead := CircularQueue.next q.eventhead }

/-- `D_PopEvent`: the event, or `none` for a null pointer. -/
def dPopEvent (q : EventQueue) : Option EngineEvent × EventQueue :=
  if q.eventtail = q.eventhead then (none, q)
  else (some (q.events q.eventtail), { q with eventtail := CircularQueue.next q.eventtail })

/-- The array as a circular queue, which is read at its head and written at its tail. -/
def EventQueue.toQueue (q : EventQueue) : CircularQueue EngineEvent MAXEVENTS where
  cells := q.events
  head := q.eventtail
  tail := q.eventhead

/-- A call that returns an event is a pop. -/
theorem pop_of_dPopEvent {q q' : EventQueue} {ev : EngineEvent}
    (h : dPopEvent q = (some ev, q')) : q.toQueue.pop = some (ev, q'.toQueue) := by
  unfold dPopEvent at h
  split at h
  · cases h
  · next hne =>
    cases h
    exact if_pos hne

/-- A pop that returns an event leaves one event less. -/
theorem size_of_dPopEvent {q q' : EventQueue} {ev : EngineEvent}
    (h : dPopEvent q = (some ev, q')) : q'.toQueue.size < q.toQueue.size :=
  CircularQueue.size_of_pop (pop_of_dPopEvent h)

/-- The loop of `D_ProcessEvents`: the events that `D_PopEvent` returns before the first null
pointer, and the queue after it. -/
def popEvents (q : EventQueue) : List EngineEvent × EventQueue :=
  match _h : dPopEvent q with
  | (none, q') => ([], q')
  | (some ev, q') =>
    let rest := popEvents q'
    (ev :: rest.1, rest.2)
termination_by q.toQueue.size
decreasing_by exact size_of_dPopEvent _h

/-! ### The transfer of `I_GetEvent` -/

/-- A pop that returns a key event leaves one event less. -/
theorem size_of_uplinkPopKey {st st' : State} {event : KeyEvent}
    (h : uplinkPopKey st = (st', some event)) : st'.gQueue.size < st.gQueue.size := by
  unfold uplinkPopKey at h
  cases hpop : st.gQueue.pop with
  | none =>
    rw [hpop] at h
    cases h
  | some popped =>
    rw [hpop] at h
    cases h
    exact CircularQueue.size_of_pop hpop

/-- The loop of `I_GetEvent` over `uplink_pop_key`. -/
def transferKeys (st : State) (q : EventQueue) : State × EventQueue :=
  match _h : uplinkPopKey st with
  | (st', none) => (st', q)
  | (st', some event) => transferKeys st' (dPostEvent q (iGetEvent event))
termination_by st.gQueue.size
decreasing_by exact size_of_uplinkPopKey _h

/-- A datagram that waits in the socket, with the clock readings of the steps that
`uplink_poll` takes with it. -/
structure Pending where
  datagram : Datagram
  clock : Nat → Option Timespec × Option Timespec

/-- The steps of `uplink_poll` with a pending datagram. They change nothing after a datagram
that is ignored. -/
def Pending.actions (p : Pending) : List Action :=
  .recv (.datagram p.datagram) ::
    (List.range (pollCalls.length + 1)).map fun i => .pollStep (p.clock i).1 (p.clock i).2

/-- A call of `uplink_poll` with these pending datagrams. `failed` tells whether the last call
of `recvfrom` reports another error than an empty socket. -/
def uplinkPoll (st : State) (socket : List Pending) (failed : Bool) : State :=
  (run step st (.beginPoll :: socket.flatMap Pending.actions
    ++ [.recv (if failed then .error else .wouldBlock)])).1

/-- `I_GetEvent` when nothing but the uplink has an event. -/
def iGetEventUplink (st : State) (q : EventQueue) (socket : List Pending) (failed : Bool) :
    State × EventQueue :=
  transferKeys (uplinkPoll st socket failed) q

end DoomSat.Engine
