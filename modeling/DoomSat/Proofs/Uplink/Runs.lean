import DoomSat.Proofs.Uplink.QueueCalls
import DoomSat.Proofs.Uplink.Requests
import DoomSat.Support.Machine

/-!
# `DoomSat.Proofs.Uplink.Runs`: every interleaving of the uplink

`StepSpec` says what a step can do, and `step_spec` that it does nothing else. `RunInv` ties
a state to the outputs of the run that reached it, and `runInv_run` proves it for every
interleaving:

* the queue operations are those of a queue with room for 63 events (`RunInv.fifo`);
* the requests, and then the events still to come from the packet in process, are the event
  stream of the bitfields (`RunInv.stream`);
* the remembered bitfield is the last one processed (`RunInv.prev`);
* a removed duplicate repeats the event accepted last (`RunInv.deduplicated`).
-/

set_option autoImplicit false

namespace DoomSat.Uplink

open Support

/-- A run of the program, from its start and through `uplink_init`. -/
def uplinkRun (actions : List Action) : State × List Event :=
  run step (uplinkInit staticState) actions

/-- The actions of a poll that processes packets with these bitfields, with one clock reading
for all calls. -/
def pollPackets (ts : Option Timespec) (bitfields : List UInt16) : List Action :=
  .beginPoll :: bitfields.flatMap (fun bitfield =>
    .recv (.datagram (packInput ⟨bitfield, 0, 0⟩).toList) ::
      List.replicate (pollCalls.length + 1) (.pollStep ts ts)) ++ [.recv .wouldBlock]

/-! ### What the outputs say -/

/-- The request of a call of `enqueue_key_event`. -/
def Event.request? : Event → Option Request
  | .requested event outcome => some ⟨event, outcome⟩
  | _ => none

/-- The calls of `enqueue_key_event`, in order. -/
def requests (out : List Event) : List Request := out.filterMap Event.request?

/-- The bitfield of a packet whose last bit and weapon are processed. -/
def Event.processed? : Event → Option UInt16
  | .processed bitfield => some bitfield
  | _ => none

/-- The bitfields of the packets processed, in order. -/
def processed (out : List Event) : List UInt16 := out.filterMap Event.processed?

/-- The datagram of a `recvfrom` that delivered one. -/
def Event.received? : Event → Option Datagram
  | .received bytes => some bytes
  | _ => none

/-- The datagrams that `recvfrom` delivered, in order. -/
def receivedDatagrams (out : List Event) : List Datagram := out.filterMap Event.received?

/-- The event of an `uplink_pop_key` that returned one. -/
def Event.popped? : Event → Option KeyEvent
  | .popReturned event => event
  | _ => none

/-- The events that `uplink_pop_key` returned, in order. -/
def poppedEvents (out : List Event) : List KeyEvent := out.filterMap Event.popped?

/-- The operation of the key queue that an output stands for. A request that was not accepted is
none. -/
def Event.queueOp? : Event → Option (QueueOp KeyEvent)
  | .requested event .accepted => some (.enqueue event)
  | .popReturned (some event) => some (.dequeue event)
  | _ => none

/-- The operations of the key queue, in order. -/
def queueOps (out : List Event) : List (QueueOp KeyEvent) := out.filterMap Event.queueOp?

/-- The bitfield of the packet in process. -/
def Poll.inFlight : Poll → List UInt16
  | .processing pkt _ _ => [pkt.bitfield]
  | _ => []

/-- The events that the calls still to make for the packet in process queue. -/
def Poll.toCome (prev : UInt16) : Poll → List KeyEvent
  | .processing pkt calls _ => calls.filterMap (Call.keyEvent pkt.bitfield prev)
  | _ => []

/-- The requests of two parts of a run. -/
@[simp] theorem requests_append (out out' : List Event) :
    requests (out ++ out') = requests out ++ requests out' :=
  List.filterMap_append

/-- The processed bitfields of two parts of a run. -/
@[simp] theorem processed_append (out out' : List Event) :
    processed (out ++ out') = processed out ++ processed out' :=
  List.filterMap_append

/-- The datagrams of two parts of a run. -/
@[simp] theorem receivedDatagrams_append (out out' : List Event) :
    receivedDatagrams (out ++ out') = receivedDatagrams out ++ receivedDatagrams out' :=
  List.filterMap_append

/-- The queue operations of two parts of a run. -/
@[simp] theorem queueOps_append (out out' : List Event) :
    queueOps (out ++ out') = queueOps out ++ queueOps out' :=
  List.filterMap_append

/-- An output that a history does not look at leaves it as it is. -/
theorem filterMap_concat_of_none {β : Type} {f : Event → Option β} {ev : Event}
    (h : f ev = none) (out : List Event) :
    (out ++ [ev]).filterMap f = out.filterMap f := by
  rw [List.filterMap_append, List.filterMap_cons_none h]
  exact List.append_nil _

/-- What is put into the queue are the accepted requests. A refused request is no operation of
the queue. -/
theorem enqueued_queueOps (out : List Event) :
    enqueued (queueOps out) = acceptedEvents (requests out) := by
  unfold enqueued queueOps acceptedEvents requests
  rw [List.filterMap_filterMap, List.filterMap_filterMap]
  apply List.filterMap_congr
  intro ev _
  -- Only a request that was accepted counts on either side.
  cases ev with
  | requested event outcome => cases outcome <;> rfl
  | popReturned event => cases event <;> rfl
  | received | processed | pollReturned => rfl

/-- What is taken out of the queue are the popped events. A pop from an empty queue is no
operation. -/
theorem dequeued_queueOps (out : List Event) : dequeued (queueOps out) = poppedEvents out := by
  unfold dequeued queueOps poppedEvents
  rw [List.filterMap_filterMap]
  apply List.filterMap_congr
  intro ev _
  cases ev with
  | requested event outcome => cases outcome <;> rfl
  | popReturned event => cases event <;> rfl
  | received | processed | pollReturned => rfl

/-! ### What a step can do -/

/-- The outputs that say nothing about a request, a packet or the queue. -/
def Event.isQuiet : Event → Bool
  | .pollReturned _ => true
  | .popReturned none => true
  | .received bytes => (receivedPacket bytes).isNone
  | _ => false

/-- The effects of a step. -/
inductive StepSpec (st : State) : State → List Event → Prop where
  /-- Only `uplink_poll` moves, and the packet in process has the same events to come. -/
  | quiet (poll : Poll) (out : List Event) (hflight : poll.inFlight = st.poll.inFlight)
      (hcome : poll.toCome st.gPrevBitfield = st.poll.toCome st.gPrevBitfield)
      (hout : ∀ ev ∈ out, ev.isQuiet) :
      StepSpec st { st with poll := poll } out
  /-- A packet comes in. -/
  | receive (bytes : Datagram) (pkt : InputPacket) (count : Nat)
      (hpkt : receivedPacket bytes = some pkt) (hpoll : st.poll = .receiving count) :
      StepSpec st { st with
        gBytesReceived := st.gBytesReceived + 8
        poll := .processing pkt pollCalls count } [.received bytes]
  /-- An event is not queued. -/
  | refuse (poll : Poll) (event : KeyEvent) (outcome : Outcome)
      (hflight : poll.inFlight = st.poll.inFlight)
      (hcome : st.poll.toCome st.gPrevBitfield = event :: poll.toCome st.gPrevBitfield)
      (hrefused : outcome ≠ .accepted)
      (hdup : outcome = .duplicate → st.gLastEnqueuedMs ≠ 0 ∧
        event = ⟨st.gLastEnqueuedKey, st.gLastEnqueuedPressed⟩) :
      StepSpec st { st with poll := poll } [.requested event outcome]
  /-- An event is queued. -/
  | accept (poll : Poll) (event : KeyEvent) (queue : CircularQueue KeyEvent KEY_QUEUE_SIZE)
      (ms : UInt64) (hflight : poll.inFlight = st.poll.inFlight)
      (hcome : st.poll.toCome st.gPrevBitfield = event :: poll.toCome st.gPrevBitfield)
      (hpush : st.gQueue.push event = some queue) :
      StepSpec st { st with
        gQueue := queue
        gLastEnqueuedKey := event.key
        gLastEnqueuedPressed := event.pressed
        gLastEnqueuedMs := ms
        poll := poll } [.requested event .accepted]
  /-- A packet is done. -/
  | finish (pkt : InputPacket) (count : Nat) (hpoll : st.poll = .processing pkt [] count) :
      StepSpec st { st with gPrevBitfield := pkt.bitfield, poll := .receiving (count + 1) }
        [.processed pkt.bitfield]
  /-- An event is taken out. -/
  | pop (event : KeyEvent) (queue : CircularQueue KeyEvent KEY_QUEUE_SIZE)
      (hpop : st.gQueue.pop = some (event, queue)) :
      StepSpec st { st with gQueue := queue } [.popReturned (some event)]

/-- A step that changes nothing: an action that does not fit the program counter, or a pop from
an empty queue. -/
theorem StepSpec.stay (st : State) {out : List Event} (hout : ∀ ev ∈ out, ev.isQuiet) :
    StepSpec st st out :=
  StepSpec.quiet st.poll out rfl rfl hout

/-- The call of `enqueue_key_event` for the next event of the packet in process. It is refused
as a duplicate, refused for a full queue, or accepted, as `enqueueKeyEvent_spec` lists them. -/
theorem enqueue_spec (st : State) {poll : Poll} {event : KeyEvent}
    (hflight : poll.inFlight = st.poll.inFlight)
    (hcome : st.poll.toCome st.gPrevBitfield = event :: poll.toCome st.gPrevBitfield)
    (ts ts' : Option Timespec) :
    StepSpec st (enqueueKeyEvent { st with poll := poll } event ts ts').1
      [.requested event (enqueueKeyEvent { st with poll := poll } event ts ts').2] := by
  generalize hnext : enqueueKeyEvent { st with poll := poll } event ts ts' = next
  cases enqueueKeyEvent_spec hnext with
  | duplicate hdup =>
    refine .refuse poll event .duplicate hflight hcome (by decide) ?_
    intro _
    obtain ⟨hkey, hpressed, hms, -⟩ := hdup
    exact ⟨hms, congrArg₂ KeyEvent.mk hkey.symm hpressed.symm⟩
  | full hnew hfull =>
    exact .refuse poll event .full hflight hcome (by decide) (by intro h; cases h)
  | accepted hnew queue hpush =>
    exact .accept poll event queue (nowMs ts') hflight hcome hpush

/-- A call of `recvfrom`. Without a datagram the poll returns. A datagram that is no packet is
ignored, and a packet is taken into process. -/
theorem receive_spec (st : State) {count : Nat} (h : st.poll = .receiving count) (r : Recv) :
    StepSpec st (receive st count r).1 (receive st count r).2 := by
  unfold receive
  cases r with
  | wouldBlock =>
    exact .quiet .idle _ (by rw [h]; rfl) (by rw [h]; rfl) (by simp [Event.isQuiet])
  | error =>
    exact .quiet .idle _ (by rw [h]; rfl) (by rw [h]; rfl) (by simp [Event.isQuiet])
  | datagram bytes =>
    dsimp only
    -- A datagram of fewer than 8 bytes is ignored.
    cases hpkt : receivedPacket bytes with
    | none => exact .stay st (by simp [Event.isQuiet, hpkt])
    | some pkt => exact .receive bytes pkt count hpkt h

/-- The next call for the packet in process. After the last one the bitfield is remembered, and
the packet is done. -/
theorem pollStep_spec (st : State) (ts ts' : Option Timespec) :
    StepSpec st (pollStep st ts ts').1 (pollStep st ts ts').2 := by
  unfold pollStep
  cases hpoll : st.poll with
  | idle => exact .stay st (by simp)
  | receiving count => exact .stay st (by simp)
  | processing pkt calls count =>
    cases calls with
    | nil => exact .finish pkt count hpoll
    | cons call calls =>
      have hflight : (Poll.processing pkt calls count).inFlight = st.poll.inFlight := by
        rw [hpoll]
        rfl
      dsimp only
      -- A call without an event drops out of what is to come, and any other one is next.
      cases hevent : call.keyEvent pkt.bitfield st.gPrevBitfield with
      | none =>
        refine .quiet (.processing pkt calls count) [] hflight ?_ (by simp)
        rw [hpoll]
        show _ = (call :: calls).filterMap _
        rw [List.filterMap_cons, hevent]
        rfl
      | some event =>
        refine enqueue_spec st hflight ?_ ts ts'
        rw [hpoll]
        show (call :: calls).filterMap _ = _
        rw [List.filterMap_cons, hevent]
        rfl

/-- Every step has one of the effects of `StepSpec`. All that follows uses this theorem and
never unfolds `step`. -/
theorem step_spec (st : State) (a : Action) : StepSpec st (step st a).1 (step st a).2 := by
  cases a with
  | beginPoll =>
    unfold step
    cases hpoll : st.poll with
    | idle => exact .quiet (.receiving 0) [] (by rw [hpoll]; rfl) (by rw [hpoll]; rfl) (by simp)
    | receiving count => exact .stay st (by simp)
    | processing pkt calls count => exact .stay st (by simp)
  | recv r =>
    unfold step
    cases hpoll : st.poll with
    | receiving count => exact receive_spec st hpoll r
    | idle => exact .stay st (by simp)
    | processing pkt calls count => exact .stay st (by simp)
  | pollStep ts ts' => exact pollStep_spec st ts ts'
  | popKey =>
    unfold step
    generalize hnext : uplinkPopKey st = next
    cases uplinkPopKey_spec hnext with
    | empty => exact .stay st (by simp [Event.isQuiet])
    | popped event queue hpop => exact .pop event queue hpop

/-! ### The invariant of a run -/

/-- The packets among the datagrams that were delivered. -/
def receivedPackets (out : List Event) : List InputPacket :=
  (receivedDatagrams out).filterMap receivedPacket

/-- The outputs of a run and the state that it reached. -/
structure RunInv (st : State) (out : List Event) : Prop where
  /-- The key queue is a queue with room for 63 events. -/
  fifo : QueueRun (KEY_QUEUE_SIZE - 1) [] (queueOps out) st.gQueue.contents
  /-- The remembered bitfield is the last one processed. -/
  prev : st.gPrevBitfield = (processed out).getLastD 0
  /-- The packets delivered are processed, or in process. -/
  packets : (receivedPackets out).map InputPacket.bitfield = processed out ++ st.poll.inFlight
  /-- The requests and the events to come are the stream of the bitfields. -/
  stream : requestedEvents (requests out) ++ st.poll.toCome st.gPrevBitfield
    = eventStream 0 (processed out ++ st.poll.inFlight)
  /-- Each removed duplicate repeats the event accepted last. -/
  deduplicated : Deduplicated (requests out)
  /-- The memory of the deduplication is the event accepted last. -/
  last : st.gLastEnqueuedMs ≠ 0 → (acceptedEvents (requests out)).getLast?
    = some ⟨st.gLastEnqueuedKey, st.gLastEnqueuedPressed⟩

/-- The invariant holds after `uplink_init`: nothing is queued, remembered or requested. -/
theorem runInv_init : RunInv (uplinkInit staticState) [] where
  fifo := by
    have hempty : (uplinkInit staticState).gQueue.contents = [] :=
      (CircularQueue.head_eq_tail_iff _).mp rfl
    rw [hempty]
    exact .nil []
  prev := rfl
  packets := rfl
  stream := rfl
  deduplicated := by
    intro before r after h
    cases before <;> cases h
  last := by
    intro h
    exact absurd rfl h

/-- The packets of two parts of a run. -/
@[simp] theorem receivedPackets_append (out out' : List Event) :
    receivedPackets (out ++ out') = receivedPackets out ++ receivedPackets out' := by
  rw [receivedPackets, receivedDatagrams_append, List.filterMap_append]
  rfl

/-- Quiet outputs add nothing to the history: no request, no processed bitfield, no queue
operation and no packet. -/
theorem isQuiet_spec {out : List Event} (h : ∀ ev ∈ out, ev.isQuiet) :
    requests out = [] ∧ processed out = [] ∧ queueOps out = [] ∧ receivedPackets out = [] := by
  induction out with
  | nil => exact ⟨rfl, rfl, rfl, rfl⟩
  | cons ev out ih =>
    obtain ⟨hreq, hproc, hops, hpkts⟩ := ih fun ev' hev' => h ev' (List.mem_cons_of_mem ev hev')
    have hev := h ev List.mem_cons_self
    rw [← List.singleton_append, requests_append, processed_append, queueOps_append,
      receivedPackets_append, hreq, hproc, hops, hpkts]
    -- A quiet output is an ignored datagram, an empty pop or the end of a poll.
    cases ev with
    | received bytes =>
      have hnone : receivedPacket bytes = none := Option.isNone_iff_eq_none.mp hev
      refine ⟨rfl, rfl, rfl, ?_⟩
      show [bytes].filterMap receivedPacket ++ [] = []
      simp [hnone]
    | popReturned event =>
      cases event with
      | none => exact ⟨rfl, rfl, rfl, rfl⟩
      | some event => cases hev
    | pollReturned result => exact ⟨rfl, rfl, rfl, rfl⟩
    | requested | processed => cases hev

section
variable {st : State} {out : List Event}

/-- Outputs without a request, a packet or a queue operation keep the invariant. Every history
is as it was, and so are the events to come. -/
theorem RunInv.quiet (h : RunInv st out) {poll : Poll} {out' : List Event}
    (hflight : poll.inFlight = st.poll.inFlight)
    (hcome : poll.toCome st.gPrevBitfield = st.poll.toCome st.gPrevBitfield)
    (hout : ∀ ev ∈ out', ev.isQuiet) : RunInv { st with poll := poll } (out ++ out') := by
  obtain ⟨hreq, hproc, hops, hpkts⟩ := isQuiet_spec hout
  constructor
  · rw [queueOps_append, hops, List.append_nil]
    exact h.fifo
  · rw [processed_append, hproc, List.append_nil]
    exact h.prev
  · rw [receivedPackets_append, hpkts, processed_append, hproc, List.append_nil,
      List.append_nil, hflight]
    exact h.packets
  · rw [requests_append, hreq, processed_append, hproc, List.append_nil, List.append_nil,
      hflight, hcome]
    exact h.stream
  · rw [requests_append, hreq, List.append_nil]
    exact h.deduplicated
  · rw [requests_append, hreq, List.append_nil]
    exact h.last

/-- A packet that comes in puts its events among those to come. The requests made so far are the
stream of the bitfields before it, since no packet was in process. -/
theorem RunInv.receive (h : RunInv st out) {bytes : Datagram} {pkt : InputPacket} {count : Nat}
    (hpkt : receivedPacket bytes = some pkt) (hpoll : st.poll = .receiving count) :
    RunInv { st with
      gBytesReceived := st.gBytesReceived + 8
      poll := .processing pkt pollCalls count } (out ++ [.received bytes]) := by
  have hflight : st.poll.inFlight = [] := by rw [hpoll]; rfl
  have hcome : st.poll.toCome st.gPrevBitfield = [] := by rw [hpoll]; rfl
  have hpkts : receivedPackets [.received bytes] = [pkt] := by
    show [bytes].filterMap receivedPacket = [pkt]
    simp [hpkt]
  have hreq : requests (out ++ [.received bytes]) = requests out :=
    filterMap_concat_of_none rfl out
  have hproc : processed (out ++ [.received bytes]) = processed out :=
    filterMap_concat_of_none rfl out
  have hops : queueOps (out ++ [.received bytes]) = queueOps out :=
    filterMap_concat_of_none rfl out
  constructor
  · rw [hops]
    exact h.fifo
  · rw [hproc]
    exact h.prev
  · have hold := h.packets
    rw [hflight, List.append_nil] at hold
    rw [receivedPackets_append, hpkts, hproc, List.map_append, hold]
    rfl
  · -- The calls for the packet queue the events of its bitfield after the last one.
    have hold := h.stream
    rw [hflight, hcome, List.append_nil, List.append_nil] at hold
    show _ ++ pollCalls.filterMap (Call.keyEvent pkt.bitfield st.gPrevBitfield)
      = eventStream 0 (_ ++ [pkt.bitfield])
    rw [hreq, hproc, hold, filterMap_pollCalls, eventStream_append, ← h.prev]
    show _ = _ ++ (packetEvents st.gPrevBitfield pkt.bitfield ++ [])
    rw [List.append_nil]
  · rw [hreq]
    exact h.deduplicated
  · rw [hreq]
    exact h.last

/-- The stream when the next event is requested. The event moves from those to come to the
requests, and the whole stays the same. The outcome does not matter. -/
theorem RunInv.stream_request (h : RunInv st out) {poll : Poll} {event : KeyEvent}
    (outcome : Outcome) (hflight : poll.inFlight = st.poll.inFlight)
    (hcome : st.poll.toCome st.gPrevBitfield = event :: poll.toCome st.gPrevBitfield) :
    requestedEvents (requests (out ++ [.requested event outcome]))
        ++ poll.toCome st.gPrevBitfield
      = eventStream 0 (processed (out ++ [.requested event outcome]) ++ poll.inFlight) := by
  have hproc : processed (out ++ [.requested event outcome]) = processed out :=
    filterMap_concat_of_none rfl out
  rw [hproc, hflight, ← h.stream, hcome, requests_append, requestedEvents_append,
    List.append_assoc]
  rfl

/-- A request adds no packet. -/
theorem RunInv.packets_request (h : RunInv st out) {poll : Poll} (event : KeyEvent)
    (outcome : Outcome) (hflight : poll.inFlight = st.poll.inFlight) :
    (receivedPackets (out ++ [.requested event outcome])).map InputPacket.bitfield
      = processed (out ++ [.requested event outcome]) ++ poll.inFlight := by
  rw [receivedPackets_append, processed_append, hflight]
  show (receivedPackets out ++ []).map _ = processed out ++ [] ++ _
  rw [List.append_nil, List.append_nil]
  exact h.packets

/-- The remembered bitfield does not change with a request. -/
theorem RunInv.prev_request (h : RunInv st out) (event : KeyEvent) (outcome : Outcome) :
    st.gPrevBitfield = (processed (out ++ [.requested event outcome])).getLastD 0 := by
  have hproc : processed (out ++ [.requested event outcome]) = processed out :=
    filterMap_concat_of_none rfl out
  rw [hproc]
  exact h.prev

/-- A refused request leaves the queue and the memory of the deduplication. -/
theorem RunInv.refuse (h : RunInv st out) {poll : Poll} {event : KeyEvent} {outcome : Outcome}
    (hflight : poll.inFlight = st.poll.inFlight)
    (hcome : st.poll.toCome st.gPrevBitfield = event :: poll.toCome st.gPrevBitfield)
    (hrefused : outcome ≠ .accepted)
    (hdup : outcome = .duplicate → st.gLastEnqueuedMs ≠ 0 ∧
      event = ⟨st.gLastEnqueuedKey, st.gLastEnqueuedPressed⟩) :
    RunInv { st with poll := poll } (out ++ [.requested event outcome]) := by
  have hreq : requests (out ++ [.requested event outcome])
      = requests out ++ [⟨event, outcome⟩] := requests_append out _
  refine ⟨?_, h.prev_request event outcome, h.packets_request event outcome hflight,
    h.stream_request outcome hflight hcome, ?_, ?_⟩
  · have hops : queueOps (out ++ [.requested event outcome]) = queueOps out := by
      apply filterMap_concat_of_none
      cases outcome with
      | accepted => exact absurd rfl hrefused
      | duplicate | full => rfl
    rw [hops]
    exact h.fifo
  · -- The memory of the deduplication is the event accepted last.
    rw [hreq]
    apply h.deduplicated.concat
    intro hout
    obtain ⟨hms, hevent⟩ := hdup hout
    show _ = some event
    rw [hevent]
    exact h.last hms
  · rw [hreq, acceptedEvents_append, acceptedEvents_singleton_of_ne hrefused, List.append_nil]
    exact h.last

/-- An accepted request is put into the queue, and it becomes the last one. -/
theorem RunInv.accept (h : RunInv st out) {poll : Poll} {event : KeyEvent}
    {queue : CircularQueue KeyEvent KEY_QUEUE_SIZE} (ms : UInt64)
    (hflight : poll.inFlight = st.poll.inFlight)
    (hcome : st.poll.toCome st.gPrevBitfield = event :: poll.toCome st.gPrevBitfield)
    (hpush : st.gQueue.push event = some queue) :
    RunInv { st with
      gQueue := queue
      gLastEnqueuedKey := event.key
      gLastEnqueuedPressed := event.pressed
      gLastEnqueuedMs := ms
      poll := poll } (out ++ [.requested event .accepted]) := by
  have hreq : requests (out ++ [.requested event .accepted])
      = requests out ++ [⟨event, .accepted⟩] := requests_append out _
  refine ⟨?_, h.prev_request event .accepted, h.packets_request event .accepted hflight,
    h.stream_request .accepted hflight hcome, ?_, ?_⟩
  · rw [queueOps_append]
    exact h.fifo.concat (CircularQueue.queueStep_of_push hpush)
  · rw [hreq]
    apply h.deduplicated.concat
    intro hout
    cases hout
  · intro _
    rw [hreq, acceptedEvents_append, acceptedEvents_singleton rfl, List.getLast?_concat]

/-- A packet that is done becomes the remembered bitfield. It had no events left to come, so the
requests are now the whole stream of the processed bitfields. -/
theorem RunInv.finish (h : RunInv st out) {pkt : InputPacket} {count : Nat}
    (hpoll : st.poll = .processing pkt [] count) :
    RunInv { st with gPrevBitfield := pkt.bitfield, poll := .receiving (count + 1) }
      (out ++ [.processed pkt.bitfield]) := by
  have hflight : st.poll.inFlight = [pkt.bitfield] := by rw [hpoll]; rfl
  have hcome : st.poll.toCome st.gPrevBitfield = [] := by rw [hpoll]; rfl
  have hproc : processed (out ++ [.processed pkt.bitfield]) = processed out ++ [pkt.bitfield] :=
    processed_append out _
  have hreq : requests (out ++ [.processed pkt.bitfield]) = requests out :=
    filterMap_concat_of_none rfl out
  constructor
  · have hops : queueOps (out ++ [.processed pkt.bitfield]) = queueOps out :=
      filterMap_concat_of_none rfl out
    rw [hops]
    exact h.fifo
  · rw [hproc, List.getLastD_concat]
  · -- The packet in process becomes the last one processed.
    rw [receivedPackets_append, hproc, ← hflight]
    show (receivedPackets out ++ []).map _ = _ ++ []
    rw [List.append_nil, List.append_nil]
    exact h.packets
  · rw [hreq, hproc, ← hflight]
    show _ ++ [] = eventStream 0 (_ ++ [])
    rw [List.append_nil, List.append_nil, ← h.stream, hcome, List.append_nil]
  · rw [hreq]
    exact h.deduplicated
  · rw [hreq]
    exact h.last

/-- A pop takes the oldest event out of the queue. Requests and packets are as they were. -/
theorem RunInv.pop (h : RunInv st out) {event : KeyEvent}
    {queue : CircularQueue KeyEvent KEY_QUEUE_SIZE}
    (hpop : st.gQueue.pop = some (event, queue)) :
    RunInv { st with gQueue := queue } (out ++ [.popReturned (some event)]) := by
  have hreq : requests (out ++ [.popReturned (some event)]) = requests out :=
    filterMap_concat_of_none rfl out
  have hproc : processed (out ++ [.popReturned (some event)]) = processed out :=
    filterMap_concat_of_none rfl out
  have hpkts : receivedPackets (out ++ [.popReturned (some event)]) = receivedPackets out :=
    congrArg (List.filterMap receivedPacket) (filterMap_concat_of_none rfl out)
  constructor
  · rw [queueOps_append]
    exact h.fifo.concat (CircularQueue.queueStep_of_pop hpop)
  · rw [hproc]
    exact h.prev
  · rw [hpkts, hproc]
    exact h.packets
  · rw [hreq, hproc]
    exact h.stream
  · rw [hreq]
    exact h.deduplicated
  · rw [hreq]
    exact h.last

end

/-- Every effect of `StepSpec` keeps the invariant, with one lemma for each. -/
theorem RunInv.step {st st' : State} {out out' : List Event} (h : RunInv st out)
    (hspec : StepSpec st st' out') : RunInv st' (out ++ out') := by
  cases hspec with
  | quiet poll out' hflight hcome hout => exact h.quiet hflight hcome hout
  | receive bytes pkt count hpkt hpoll => exact h.receive hpkt hpoll
  | refuse poll event outcome hflight hcome hrefused hdup =>
    exact h.refuse hflight hcome hrefused hdup
  | accept poll event queue ms hflight hcome hpush => exact h.accept ms hflight hcome hpush
  | finish pkt count hpoll => exact h.finish hpoll
  | pop event queue hpop => exact h.pop hpop

/-- The invariant holds after every interleaving: `runInv_init` is the start, and `step_spec`
with `RunInv.step` is the step. -/
theorem runInv_run (actions : List Action) :
    RunInv (uplinkRun actions).1 (uplinkRun actions).2 :=
  run_invariant step RunInv runInv_init (fun st _ a h => h.step (step_spec st a)) actions

/-! ### What the invariant says of a run -/

/-- No packet is in process, and the key queue is empty. -/
structure Drained (st : State) : Prop where
  between : st.poll.inFlight = []
  empty : st.gQueue.head = st.gQueue.tail

section
variable {st : State} {out : List Event}

/-- What was accepted was popped, in order, or it is in the queue. The queue started empty. -/
theorem RunInv.acceptedEvents_eq (h : RunInv st out) :
    acceptedEvents (requests out) = poppedEvents out ++ st.gQueue.contents := by
  rw [← enqueued_queueOps, ← dequeued_queueOps, ← h.fifo.append_enqueued]
  rfl

/-- When the queue is empty, all accepted events were popped. -/
theorem RunInv.poppedEvents_eq (h : RunInv st out) (hdrained : Drained st) :
    poppedEvents out = acceptedEvents (requests out) := by
  rw [h.acceptedEvents_eq, (CircularQueue.head_eq_tail_iff _).mp hdrained.empty,
    List.append_nil]

/-- Without a packet in process there are no events to come. -/
theorem Poll.toCome_eq_nil {poll : Poll} (h : poll.inFlight = []) (prev : UInt16) :
    poll.toCome prev = [] := by
  cases poll with
  | idle | receiving => rfl
  | processing => cases h

/-- Between two packets, the requests are the stream of the bitfields processed, and nothing is
missing from them. -/
theorem RunInv.requestedEvents_eq (h : RunInv st out) (hbetween : st.poll.inFlight = []) :
    requestedEvents (requests out) = eventStream 0 (processed out) := by
  have hstream := h.stream
  rw [Poll.toCome_eq_nil hbetween, hbetween, List.append_nil, List.append_nil] at hstream
  exact hstream

/-- In the bitfield 0, which `uplink_init` remembers, no key is down. -/
theorem BitKey.isSet_zero (k : BitKey) : k.isSet 0 = false := Nat.zero_testBit k.bit

/-- Each bit key is requested when its bit changes. So its requests alternate between press and
release, with a press first, also in the middle of a packet. -/
theorem RunInv.alternates (h : RunInv st out) {k : BitKey} (hk : k ∈ bitKeys) :
    Alternates k.key (requestedEvents (requests out)) := by
  have hchain := isChain_edges (k.isSet 0) ((processed out ++ st.poll.inFlight).map k.isSet)
  rw [← directions_eventStream 0 _ hk, ← h.stream, k.isSet_zero] at hchain
  exact Alternates.prefix hchain

/-- Between two packets, the requests leave each bit key in the state of its bit. The last edge
of a level is the level itself. -/
theorem RunInv.held_requestedEvents (h : RunInv st out) (hbetween : st.poll.inFlight = [])
    {k : BitKey} (hk : k ∈ bitKeys) :
    held k.key (requestedEvents (requests out)) = k.isSet ((processed out).getLastD 0) := by
  rw [held, h.requestedEvents_eq hbetween, directions_eventStream 0 _ hk, ← k.isSet_zero,
    getLastD_edges]
  -- No packet yet, or a last one.
  rcases List.eq_nil_or_concat (processed out) with hnil | ⟨bitfields, last, hlast⟩
  · rw [hnil]
    rfl
  · rw [hlast, List.concat_eq_append, List.map_append, List.map_singleton, List.getLastD_concat,
      List.getLastD_concat]

end

end DoomSat.Uplink
