import DoomSat.Proofs.Uplink.HandOver
import DoomSat.Proofs.Uplink.WellFormed

/-!
# `DoomSat.Proofs.Uplink.Room`: calls of `uplink_poll` that leave room in the queue

A packet makes at most 14 requests: one for each bit key and one for the weapon. So a call of
`uplink_poll` finds room in the key queue for all requests of a few packets, whatever else is
in the socket. `Polled` says what such steps do, and `uplinkPoll_polled` is the result for a
whole call.

`run_pops` describes the loop of `I_GetEvent` behind it as a run of the uplink.
-/

set_option autoImplicit false

namespace DoomSat.Engine

open Support
open Uplink

/-- The bitfield of a datagram, if it is a packet. -/
def Pending.bitfields (p : Pending) : List UInt16 :=
  (receivedPacket p.datagram).toList.map InputPacket.bitfield

/-- Steps of `uplink_poll` that process these bitfields, add at most `n` events to the queue
and never find it full. -/
structure Polled (n : Nat) (bitfields : List UInt16) (st st' : State) (out : List Event) :
    Prop where
  size : st'.gQueue.size ≤ st.gQueue.size + n
  room : ∀ r ∈ requests out, r.outcome ≠ .full
  processed : processed out = bitfields
  popped : poppedEvents out = []

/-- Steps without a request. -/
theorem Polled.quiet {n : Nat} {bitfields : List UInt16} {st st' : State} {out : List Event}
    (hqueue : st'.gQueue = st.gQueue) (hrequests : requests out = [])
    (hprocessed : Uplink.processed out = bitfields) (hpopped : poppedEvents out = []) :
    Polled n bitfields st st' out := by
  refine ⟨by rw [hqueue]; exact Nat.le_add_right _ n, ?_, hprocessed, hpopped⟩
  rw [hrequests]
  simp

/-- Two polls in a row are a poll of both bitfields. -/
theorem Polled.trans {n n' : Nat} {bitfields bitfields' : List UInt16} {st st' st'' : State}
    {out out' : List Event} (h : Polled n bitfields st st' out)
    (h' : Polled n' bitfields' st' st'' out') :
    Polled (n + n') (bitfields ++ bitfields') st st'' (out ++ out') := by
  have hsize := h.size
  have hsize' := h'.size
  refine ⟨by omega, ?_, ?_, ?_⟩
  · intro r hr
    rw [requests_append, List.mem_append] at hr
    rcases hr with hr | hr
    · exact h.room r hr
    · exact h'.room r hr
  · rw [processed_append, h.processed, h'.processed]
  · show List.filterMap _ (out ++ out') = []
    rw [List.filterMap_append]
    show poppedEvents out ++ poppedEvents out' = []
    rw [h.popped, h'.popped]
    rfl

/-- A request that finds room. It is queued or removed as a repetition, and the queue has at
most one event more. -/
theorem enqueueKeyEvent_polled {st : State} (event : KeyEvent) (ts ts' : Option Timespec)
    (hroom : st.gQueue.size + 1 < KEY_QUEUE_SIZE) :
    let next := enqueueKeyEvent st event ts ts'
    next.1.poll = st.poll ∧ Polled 1 [] st next.1 [.requested event next.2] := by
  intro next
  have hnext : enqueueKeyEvent st event ts ts' = next := rfl
  clear_value next
  cases enqueueKeyEvent_spec hnext with
  | duplicate hdup =>
    refine ⟨rfl, Nat.le_succ _, ?_, rfl, rfl⟩
    intro r hr
    rw [List.mem_singleton.mp hr]
    show Outcome.duplicate ≠ .full
    decide
  | full hnew hfull =>
    have hlen := (CircularQueue.push_eq_none_iff st.gQueue event).mp hfull
    rw [CircularQueue.length_contents] at hlen
    omega
  | accepted hnew queue hpush =>
    have hlen := congrArg List.length (CircularQueue.contents_of_push hpush)
    rw [List.length_append, CircularQueue.length_contents, CircularQueue.length_contents]
      at hlen
    refine ⟨rfl, Nat.le_of_eq hlen, ?_, rfl, rfl⟩
    intro r hr
    rw [List.mem_singleton.mp hr]
    show Outcome.accepted ≠ .full
    decide

/-- A call for a packet, from its `process_bit` or `process_weapon` to the next one. It makes
one request at most. -/
theorem pollStep_polled {st : State} {pkt : InputPacket} {call : Call} {calls : List Call}
    {count : Nat} (hpoll : st.poll = .processing pkt (call :: calls) count)
    (ts ts' : Option Timespec) (hroom : st.gQueue.size + 1 < KEY_QUEUE_SIZE) :
    let next := pollStep st ts ts'
    next.1.poll = .processing pkt calls count ∧ Polled 1 [] st next.1 next.2 := by
  unfold pollStep
  rw [hpoll]
  dsimp only
  cases call.keyEvent pkt.bitfield st.gPrevBitfield with
  | none => exact ⟨rfl, .quiet rfl rfl rfl rfl⟩
  | some event =>
    obtain ⟨hsame, hsize, hfits, hprocessed, hpopped⟩ := @enqueueKeyEvent_polled
      { st with poll := .processing pkt calls count } event ts ts' hroom
    exact ⟨hsame, hsize, hfits, hprocessed, hpopped⟩

/-- The steps of `uplink_poll` with a packet. The induction is over the calls that are left,
with room for one event for each of them; the step behind the last call stores the bitfield. -/
theorem run_calls {st : State} {pkt : InputPacket} {calls : List Call} {count : Nat}
    (hpoll : st.poll = .processing pkt calls count)
    {clocks : List (Option Timespec × Option Timespec)}
    (hclocks : clocks.length = calls.length + 1)
    (hroom : st.gQueue.size + calls.length < KEY_QUEUE_SIZE) :
    let r := run step st (clocks.map fun ts => .pollStep ts.1 ts.2)
    r.1.poll = .receiving (count + 1) ∧ Polled calls.length [pkt.bitfield] st r.1 r.2 := by
  induction calls generalizing st clocks with
  | nil =>
    obtain ⟨ts, rfl⟩ := List.length_eq_one_iff.mp hclocks
    have hstep : step st (.pollStep ts.1 ts.2)
        = ({ st with gPrevBitfield := pkt.bitfield, poll := .receiving (count + 1) },
          [.processed pkt.bitfield]) := by
      show pollStep st ts.1 ts.2 = _
      unfold pollStep
      rw [hpoll]
    show (run step st [.pollStep ts.1 ts.2]).1.poll = _ ∧ _
    simp only [List.map_cons, List.map_nil, run, hstep]
    exact ⟨trivial, .quiet rfl rfl rfl rfl⟩
  | cons call calls ih =>
    cases clocks with
    | nil => cases hclocks
    | cons ts clocks =>
      rw [List.length_cons] at hroom
      obtain ⟨hnext, hone⟩ := pollStep_polled hpoll ts.1 ts.2 (by omega)
      have hsize := hone.size
      obtain ⟨hend, hrest⟩ := ih hnext (Nat.succ.inj hclocks) (by omega)
      refine ⟨hend, ?_⟩
      rw [List.length_cons, Nat.add_comm]
      exact hone.trans hrest

/-- Outside a packet, a step for one changes nothing. -/
theorem run_pollSteps_receiving {st : State} {count : Nat} (hpoll : st.poll = .receiving count)
    (clocks : List (Option Timespec × Option Timespec)) :
    run step st (clocks.map fun ts => .pollStep ts.1 ts.2) = (st, []) := by
  induction clocks with
  | nil => rfl
  | cons ts clocks ih =>
    have hstep : step st (.pollStep ts.1 ts.2) = (st, []) := by
      show pollStep st ts.1 ts.2 = _
      unfold pollStep
      rw [hpoll]
    simp only [List.map_cons, run, hstep, ih]
    rfl

/-- A datagram: a packet that finds room, or one that is ignored. The actions of a datagram are
those of a packet, and for an ignored one all behind the first do nothing. -/
theorem run_pending {st : State} {count : Nat} (hpoll : st.poll = .receiving count)
    (p : Pending) (hroom : st.gQueue.size + 14 * p.bitfields.length < KEY_QUEUE_SIZE) :
    let r := run step st p.actions
    (∃ count', r.1.poll = .receiving count') ∧
      Polled (14 * p.bitfields.length) p.bitfields st r.1 r.2 := by
  have hactions : p.actions = .recv (.datagram p.datagram) ::
      ((List.range (pollCalls.length + 1)).map p.clock).map fun ts => .pollStep ts.1 ts.2 := by
    unfold Pending.actions
    rw [List.map_map]
    rfl
  have hlen : ((List.range (pollCalls.length + 1)).map p.clock).length
      = pollCalls.length + 1 := by
    rw [List.length_map, List.length_range]
  have hrecv : step st (.recv (.datagram p.datagram))
      = receive st count (.datagram p.datagram) := by
    unfold step
    rw [hpoll]
  rw [hactions]
  simp only [run, hrecv]
  unfold Pending.bitfields at hroom ⊢
  cases hpkt : receivedPacket p.datagram with
  -- A malformed datagram: no packet is in process, so the steps for one are idle.
  | none =>
    rw [receive_of_none hpkt]
    dsimp only
    rw [run_pollSteps_receiving hpoll]
    exact ⟨⟨count, hpoll⟩, .quiet rfl rfl rfl rfl⟩
  | some pkt =>
    rw [hpkt] at hroom
    have hroom : st.gQueue.size + pollCalls.length < KEY_QUEUE_SIZE := hroom
    rw [receive_of_some hpkt]
    dsimp only
    generalize htaken : ({ st with
      gBytesReceived := st.gBytesReceived + 8
      poll := .processing pkt pollCalls count } : State) = st₁
    have hpoll₁ : st₁.poll = .processing pkt pollCalls count := by rw [← htaken]
    have hqueue : st₁.gQueue = st.gQueue := by rw [← htaken]
    have hone : Polled 0 [] st st₁ [.received p.datagram] := .quiet hqueue rfl rfl rfl
    obtain ⟨hend, hcalls⟩ := run_calls hpoll₁ hlen (by rw [hqueue]; exact hroom)
    exact ⟨⟨count + 1, hend⟩, hone.trans hcalls⟩

/-- The datagrams of a call of `uplink_poll`. Each packet among them takes room for its 14
requests, so the room that is left is what the other datagrams need. -/
theorem run_socket {st : State} {count : Nat} (hpoll : st.poll = .receiving count)
    (socket : List Pending)
    (hroom : st.gQueue.size + 14 * (socket.flatMap Pending.bitfields).length
      < KEY_QUEUE_SIZE) :
    let r := run step st (socket.flatMap Pending.actions)
    (∃ count', r.1.poll = .receiving count') ∧
      Polled (14 * (socket.flatMap Pending.bitfields).length)
        (socket.flatMap Pending.bitfields) st r.1 r.2 := by
  induction socket generalizing st count with
  | nil => exact ⟨⟨count, hpoll⟩, .quiet rfl rfl rfl rfl⟩
  | cons p socket ih =>
    rw [List.flatMap_cons, List.length_append, Nat.mul_add] at hroom
    simp only [List.flatMap_cons, List.length_append, Nat.mul_add, run_append]
    obtain ⟨⟨count', hnext⟩, hone⟩ := run_pending hpoll p (by omega)
    have hsize := hone.size
    obtain ⟨hend, hrest⟩ := ih hnext (by omega)
    exact ⟨hend, hone.trans hrest⟩

/-- The actions of a call of `uplink_poll`. -/
def pollActions (socket : List Pending) (failed : Bool) : List Action :=
  .beginPoll :: socket.flatMap Pending.actions
    ++ [.recv (if failed then .error else .wouldBlock)]

/-- A call of `uplink_poll` finds room for all requests of at most four packets, if the queue is
empty before it: 4 · 14 = 56 events are fewer than the 63 that it holds. -/
theorem uplinkPoll_polled {st : State} (hidle : st.poll = .idle)
    (hempty : st.gQueue.contents = []) (socket : List Pending) (failed : Bool)
    (hfew : (socket.flatMap Pending.bitfields).length ≤ 4) :
    let r := run step st (pollActions socket failed)
    r.1 = uplinkPoll st socket failed ∧ r.1.poll = .idle ∧
      (∀ q ∈ requests r.2, q.outcome ≠ .full) ∧
      processed r.2 = socket.flatMap Pending.bitfields ∧ poppedEvents r.2 = [] := by
  have hsize : st.gQueue.size = 0 := by
    rw [← CircularQueue.length_contents, hempty]
    rfl
  have hbegin : step st .beginPoll = ({ st with poll := .receiving 0 }, []) := by
    unfold step
    rw [hidle]
  obtain ⟨⟨count, hpoll⟩, hpolled⟩ := @run_socket { st with poll := .receiving 0 } 0 rfl socket
    (by show st.gQueue.size + _ < 64; omega)
  -- The last `recvfrom` ends the call, and it leaves the queue alone.
  have hlast : ∀ st₁ : State, st₁.poll = .receiving count →
      ∃ result, run step st₁ [.recv (if failed then .error else .wouldBlock)]
        = ({ st₁ with poll := .idle }, [.pollReturned result]) := by
    intro st₁ hst₁
    cases failed with
    | true => exact ⟨-1, by simp [run, step, hst₁, receive]⟩
    | false => exact ⟨count, by simp [run, step, hst₁, receive]⟩
  obtain ⟨result, hreturn⟩ := hlast _ hpoll
  refine ⟨rfl, ?_⟩
  unfold pollActions
  rw [List.cons_append, run, hbegin]
  dsimp only
  rw [run_append, hreturn]
  let st₁ := (run step { st with poll := .receiving 0 } (socket.flatMap Pending.actions)).1
  have hreturned : Polled 0 [] st₁ { st₁ with poll := .idle } [.pollReturned result] :=
    .quiet rfl rfl rfl rfl
  have hend := hpolled.trans hreturned
  refine ⟨rfl, hend.room, ?_, hend.popped⟩
  have hprocessed := hend.processed
  rw [List.append_nil] at hprocessed
  exact hprocessed

/-! ### The loop of `I_GetEvent` -/

/-- The loop of `I_GetEvent` is a run of the uplink that pops the contents of the queue. -/
theorem run_pops (st : State) (q : EventQueue) :
    run step st (List.replicate st.gQueue.contents.length .popKey)
      = ((transferKeys st q).1,
        st.gQueue.contents.map fun event => .popReturned (some event)) := by
  rw [transferKeys]
  split
  · next st' h =>
    obtain ⟨rfl, hempty⟩ := uplinkPopKey_none h
    rw [hempty]
    rfl
  · next st' event h =>
    have hrest := run_pops st' (dPostEvent q (iGetEvent event))
    have hstep : step st .popKey = (st', [.popReturned (some event)]) := by
      show ((uplinkPopKey st).1, [Event.popReturned (uplinkPopKey st).2]) = _
      rw [h]
    rw [uplinkPopKey_some h, List.length_cons, List.replicate_succ, run, hstep]
    dsimp only
    rw [hrest]
    rfl
termination_by st.gQueue.size
decreasing_by exact size_of_uplinkPopKey (by assumption)

/-- The loop of `I_GetEvent` is outside of `uplink_poll`. -/
theorem poll_transferKeys (st : State) (q : EventQueue) :
    (transferKeys st q).1.poll = st.poll := by
  rw [transferKeys]
  split
  · next st' h =>
    obtain ⟨rfl, -⟩ := uplinkPopKey_none h
    rfl
  · next st' event h =>
    rw [poll_transferKeys st' (dPostEvent q (iGetEvent event))]
    cases uplinkPopKey_spec h with
    | popped event queue hpop => rfl
termination_by st.gQueue.size
decreasing_by exact size_of_uplinkPopKey (by assumption)

/-! ### The invariant of the uplink -/

/-- The invariant of a run of the uplink goes on from any of its states. -/
theorem runInv_actions {st : State} {out : List Event} (h : RunInv st out)
    (actions : List Action) :
    RunInv (run step st actions).1 (out ++ (run step st actions).2) := by
  induction actions generalizing st out with
  | nil =>
    show RunInv st (out ++ [])
    rw [List.append_nil]
    exact h
  | cons a actions ih =>
    have hrest := ih (h.step (step_spec st a))
    rw [List.append_assoc] at hrest
    exact hrest

/-- What the pops of a list of events say. -/
theorem pops_spec (events : List KeyEvent) :
    let out := events.map fun event => Event.popReturned (some event)
    requests out = [] ∧ processed out = [] ∧ poppedEvents out = events := by
  induction events with
  | nil => exact ⟨rfl, rfl, rfl⟩
  | cons event events ih =>
    obtain ⟨hreq, hproc, hpopped⟩ := ih
    exact ⟨hreq, hproc, congrArg (event :: ·) hpopped⟩

/-- A call of `I_GetEvent` that finds at most four packets, from a state in which the uplink has
handed over all its events. It processes the packets, hands over their events and leaves the
uplink as drained as before, so the next call starts from such a state again. -/
theorem iGetEventUplink_spec {st : State} {out : List Event} {q : EventQueue}
    (h : RunInv st out) (hroom : ∀ r ∈ requests out, r.outcome ≠ .full) (hidle : st.poll = .idle)
    (hdrained : st.gQueue.contents = []) (hempty : q.waiting = []) (socket : List Pending)
    (failed : Bool) (hfew : (socket.flatMap Pending.bitfields).length ≤ 4) :
    let next := iGetEventUplink st q socket failed
    ∃ out' events, RunInv next.1 out' ∧ (∀ r ∈ requests out', r.outcome ≠ .full) ∧
      processed out' = processed out ++ socket.flatMap Pending.bitfields ∧
      poppedEvents out' = poppedEvents out ++ events ∧ next.1.poll = .idle ∧
      next.1.gQueue.contents = [] ∧ next.2.waiting = events.map iGetEvent := by
  intro next
  obtain ⟨hpoll, hidle₁, hroom₁, hprocessed₁, hpopped₁⟩ :=
    uplinkPoll_polled hidle hdrained socket failed hfew
  have hinv₁ := runInv_actions h (pollActions socket failed)
  generalize run step st (pollActions socket failed) = polled at *
  obtain ⟨st₁, out₁⟩ := polled
  have hst₁ : uplinkPoll st socket failed = st₁ := hpoll.symm
  have hpops := run_pops st₁ q
  have hinv₂ := runInv_actions hinv₁ (List.replicate st₁.gQueue.contents.length .popKey)
  rw [hpops] at hinv₂
  obtain ⟨hreq₂, hproc₂, hpopped₂⟩ := pops_spec st₁.gQueue.contents
  obtain ⟨hdrained₂, hposted⟩ := transferKeys_eq st₁ q
  have hnext : next = transferKeys st₁ q := by
    show transferKeys (uplinkPoll st socket failed) q = _
    rw [hst₁]
  refine ⟨_, st₁.gQueue.contents, hnext ▸ hinv₂, ?_, ?_, ?_, ?_, hnext ▸ hdrained₂, ?_⟩
  · intro r hr
    rw [requests_append, requests_append, hreq₂, List.append_nil, List.mem_append] at hr
    rcases hr with hr | hr
    · exact hroom r hr
    · exact hroom₁ r hr
  · rw [processed_append, processed_append, hproc₂, List.append_nil, hprocessed₁]
  · show List.filterMap _ _ = _
    rw [List.filterMap_append, List.filterMap_append]
    show poppedEvents out ++ poppedEvents out₁ ++ poppedEvents _ = _
    rw [hpopped₁, hpopped₂, List.append_nil]
  · rw [hnext, poll_transferKeys]
    exact hidle₁
  · rw [hnext, hposted, waiting_postEvents, hempty, List.nil_append]
    rw [hempty, List.length_map, List.length_nil, Nat.zero_add]
    exact length_contents_lt st₁

end DoomSat.Engine
