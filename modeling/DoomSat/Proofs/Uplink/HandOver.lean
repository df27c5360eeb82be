import DoomSat.Model.EventQueue
import DoomSat.Proofs.Uplink.QueueCalls

/-!
# `DoomSat.Proofs.Uplink.HandOver`: no event is lost on the way into the engine

`D_PostEvent` has no test for a full array: one event too many would make the array look
empty. It is enough that the array is empty at the start of `I_GetEvent`, since the key queue
of the uplink holds at most 63 events, and this is the number of events that the array holds.

* `push_of_dPostEvent`: with room left, a post is a push of `Support.CircularQueue`. So the
  array refines a queue.
* `popEvents_eq`: the pops before the first null pointer return the contents.
* `transferKeys_eq`: the loop of `I_GetEvent` posts the contents of the key queue.

`handOver` puts them together, for every state of the two queues and every poll.
-/

set_option autoImplicit false

namespace DoomSat.Engine

open Support
open Uplink

/-! ### The array as a queue -/

/-- The events that wait in the array, the oldest first. -/
def EventQueue.waiting (q : EventQueue) : List EngineEvent := q.toQueue.contents

/-- The array is empty when its indices are equal. -/
theorem waiting_eq_nil_iff (q : EventQueue) : q.waiting = [] ↔ q.eventtail = q.eventhead :=
  (CircularQueue.head_eq_tail_iff q.toQueue).symm

/-- A post that does not reach the read position is a push. -/
theorem push_of_dPostEvent {q : EventQueue} (ev : EngineEvent)
    (hroom : CircularQueue.next q.eventhead ≠ q.eventtail) :
    q.toQueue.push ev = some (dPostEvent q ev).toQueue :=
  if_neg hroom

/-- With fewer than 63 events there is room for one more. -/
theorem next_eventhead_ne {q : EventQueue} (h : q.waiting.length + 1 < MAXEVENTS) :
    CircularQueue.next q.eventhead ≠ q.eventtail := by
  intro hfull
  have := (CircularQueue.next_tail_eq_head_iff q.toQueue).mp hfull
  rw [EventQueue.waiting, CircularQueue.length_contents] at h
  omega

/-- A post with room left is the youngest event. -/
theorem waiting_dPostEvent {q : EventQueue} (ev : EngineEvent)
    (h : q.waiting.length + 1 < MAXEVENTS) :
    (dPostEvent q ev).waiting = q.waiting ++ [ev] :=
  CircularQueue.contents_of_push (push_of_dPostEvent ev (next_eventhead_ne h))

/-- Posts the events in order. -/
def postEvents (q : EventQueue) (evs : List EngineEvent) : EventQueue := evs.foldl dPostEvent q

/-- Posts never move the read position. -/
theorem eventtail_postEvents (q : EventQueue) (evs : List EngineEvent) :
    (postEvents q evs).eventtail = q.eventtail := by
  induction evs generalizing q with
  | nil => rfl
  | cons ev evs ih => exact ih (dPostEvent q ev)

/-- Events for which there is room all wait behind the earlier ones. The induction posts the
first of them, which leaves room for the others. -/
theorem waiting_postEvents {q : EventQueue} {evs : List EngineEvent}
    (h : q.waiting.length + evs.length < MAXEVENTS) :
    (postEvents q evs).waiting = q.waiting ++ evs := by
  induction evs generalizing q with
  | nil => exact (List.append_nil _).symm
  | cons ev evs ih =>
    rw [List.length_cons] at h
    have hone := waiting_dPostEvent ev (q := q) (by omega)
    show (postEvents (dPostEvent q ev) evs).waiting = _
    rw [ih (by rw [hone, List.length_append, List.length_singleton]; omega), hone,
      List.append_assoc]
    rfl

/-- `D_PopEvent` returns the oldest event. -/
theorem dPopEvent_some {q q' : EventQueue} {ev : EngineEvent}
    (h : dPopEvent q = (some ev, q')) : q.waiting = ev :: q'.waiting :=
  CircularQueue.contents_of_pop (pop_of_dPopEvent h)

/-- `D_PopEvent` returns a null pointer only for an empty array, and leaves it alone. -/
theorem dPopEvent_none {q q' : EventQueue} (h : dPopEvent q = (none, q')) :
    q' = q ∧ q.waiting = [] := by
  unfold dPopEvent at h
  split at h
  · next hempty =>
    cases h
    exact ⟨rfl, (waiting_eq_nil_iff q).mpr hempty⟩
  · cases h

/-- The pops before the first null pointer return the waiting events, and then the array is
empty. The recursion is the one of the loop. -/
theorem popEvents_eq (q : EventQueue) :
    (popEvents q).1 = q.waiting ∧ (popEvents q).2.waiting = [] := by
  rw [popEvents]
  split
  · next q' h =>
    obtain ⟨rfl, hempty⟩ := dPopEvent_none h
    exact ⟨hempty.symm, hempty⟩
  · next ev q' h =>
    obtain ⟨hevents, hempty⟩ := popEvents_eq q'
    refine ⟨?_, hempty⟩
    rw [dPopEvent_some h]
    exact congrArg (ev :: ·) hevents
termination_by q.toQueue.size
decreasing_by exact size_of_dPopEvent (by assumption)

/-! ### The loop of `I_GetEvent` -/

/-- The loop empties the key queue, and it posts every event of it, in order. The recursion is
the one of the loop, and its end is the empty key queue, not the full array. -/
theorem transferKeys_eq (st : State) (q : EventQueue) :
    (transferKeys st q).1.gQueue.contents = [] ∧
      (transferKeys st q).2 = postEvents q (st.gQueue.contents.map iGetEvent) := by
  rw [transferKeys]
  split
  · next st' h =>
    obtain ⟨rfl, hempty⟩ := uplinkPopKey_none h
    rw [hempty]
    exact ⟨rfl, rfl⟩
  · next st' event h =>
    obtain ⟨hempty, hposted⟩ := transferKeys_eq st' (dPostEvent q (iGetEvent event))
    rw [uplinkPopKey_some h]
    exact ⟨hempty, hposted⟩
termination_by st.gQueue.size
decreasing_by exact size_of_uplinkPopKey (by assumption)

/-! ### The hand-over -/

/-- The key queue holds at most 63 events. -/
theorem length_contents_lt (st : State) : st.gQueue.contents.length < MAXEVENTS := by
  rw [CircularQueue.length_contents]
  exact st.gQueue.size_lt

/-- A poll and the transfer behind it, from any state of the uplink and an empty event array.
With the events that the key queue holds after the poll:

- the transfer empties the key queue and posts them;
- no post brings the write position to the read position;
- the pops return them as engine events, in order, and then a null pointer;
- each engine event has the key code and the direction of its key event. -/
theorem handOver (st : State) (q : EventQueue) (socket : List Pending) (failed : Bool)
    (hempty : q.eventtail = q.eventhead) :
    let pending := (uplinkPoll st socket failed).gQueue.contents
    let after := iGetEventUplink st q socket failed
    (after.1.gQueue.contents = [] ∧ after.2 = postEvents q (pending.map iGetEvent)) ∧
    (∀ k, k < pending.length →
      CircularQueue.next (postEvents q ((pending.map iGetEvent).take k)).eventhead
        ≠ q.eventtail) ∧
    ((popEvents after.2).1 = pending.map iGetEvent ∧
      dPopEvent (popEvents after.2).2 = (none, (popEvents after.2).2)) ∧
    (popEvents after.2).1.map (fun ev => (ev.type, ev.data1))
      = pending.map fun event =>
        (if event.pressed then EvType.keydown else EvType.keyup, event.key.toNat) := by
  intro pending after
  have hlen : pending.length < MAXEVENTS := length_contents_lt _
  have hnil : q.waiting = [] := (waiting_eq_nil_iff q).mpr hempty
  obtain ⟨hdrained, hposted⟩ := transferKeys_eq (uplinkPoll st socket failed) q
  have hposted : after.2 = postEvents q (pending.map iGetEvent) := hposted
  have hwaiting : after.2.waiting = pending.map iGetEvent := by
    rw [hposted, waiting_postEvents (by rw [hnil, List.length_map]; simpa using hlen), hnil,
      List.nil_append]
  obtain ⟨hpopped, hnone⟩ := popEvents_eq after.2
  refine ⟨⟨hdrained, hposted⟩, ?_, ⟨hpopped.trans hwaiting, ?_⟩, ?_⟩
  · -- Before the post with index `k` there are `k` events in the array.
    intro k hk
    have htake : ((pending.map iGetEvent).take k).length = k := by
      rw [List.length_take, List.length_map]
      omega
    have hbefore := @waiting_postEvents q ((pending.map iGetEvent).take k)
      (by rw [hnil, htake, List.length_nil]; omega)
    have hroom := @next_eventhead_ne (postEvents q ((pending.map iGetEvent).take k))
      (by rw [hbefore, hnil, List.nil_append, htake]; omega)
    rwa [eventtail_postEvents] at hroom
  · -- An empty array gives a null pointer.
    exact if_pos ((waiting_eq_nil_iff _).mp hnone)
  · -- The code tells a press from a release by the type of the engine event.
    rw [hpopped, hwaiting, List.map_map]
    apply List.map_congr_left
    intro event _
    show (fun ev => (ev.type, ev.data1)) (iGetEvent event) = _
    unfold iGetEvent
    cases event.pressed <;> rfl

/-- The event array when the program starts. -/
def noEvents : EventQueue where
  events := fun _ => ⟨.keydown, 0, 0, 0⟩
  eventhead := ⟨0, by decide⟩
  eventtail := ⟨0, by decide⟩

/-- A datagram that presses all 13 bit keys. -/
def allKeys : Pending where
  datagram := (packInput ⟨0xE3FF, 0, 0⟩).toList
  clock := fun _ => (some ⟨1, 0⟩, some ⟨1, 0⟩)

/-- A hand-over of 13 presses after the start of the program. -/
theorem handOver_allKeys :
    let pending := (uplinkPoll (uplinkInit staticState) [allKeys] false).gQueue.contents
    let after := iGetEventUplink (uplinkInit staticState) noEvents [allKeys] false
    (after.1.gQueue.contents = [] ∧ after.2 = postEvents noEvents (pending.map iGetEvent)) ∧
    (∀ k, k < pending.length →
      CircularQueue.next (postEvents noEvents ((pending.map iGetEvent).take k)).eventhead
        ≠ noEvents.eventtail) ∧
    ((popEvents after.2).1 = pending.map iGetEvent ∧
      dPopEvent (popEvents after.2).2 = (none, (popEvents after.2).2)) ∧
    (popEvents after.2).1.map (fun ev => (ev.type, ev.data1))
      = pending.map fun event =>
        (if event.pressed then EvType.keydown else EvType.keyup, event.key.toNat) :=
  handOver (uplinkInit staticState) noEvents [allKeys] false rfl

-- The hand-over above is one of 13 events.
example :
    (uplinkPoll (uplinkInit staticState) [allKeys] false).gQueue.contents.length = 13 := by
  decide +kernel

end DoomSat.Engine
