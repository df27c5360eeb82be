import DoomSat.Proofs.Uplink.Runs

/-!
# `DoomSat.Proofs.Uplink.WellFormed`: which datagrams steer the game

`uplink_poll` ignores a datagram when `recvfrom` returns another number than 8. It asks for 8
bytes, so `recvfrom` returns 8 for every longer datagram too, and its first 8 bytes are taken
as a packet. Only the shorter datagrams are ignored.

The module compares a run with the run without the datagrams of another length than 8
(`wellFormed`). `SameResult` says that the two end alike, and `sameResult_iff` that they do
exactly when no delivered datagram is longer than 8 bytes.

* `run_wellFormed_of_not_long` is the easy direction: a short datagram changes nothing.
* `Lag` is the relation between the two runs for the other direction. The first run is at most
  one packet ahead, and each long datagram adds 8 bytes and one packet to it (`run_lag`).
-/

set_option autoImplicit false

namespace DoomSat.Uplink

open Support

/-! ### The two runs -/

/-- Whether the action is anything but the delivery of a malformed datagram. -/
def Action.isWellFormed : Action → Bool
  | .recv (.datagram bytes) => bytes.length == 8
  | _ => true

/-- The actions without the deliveries of malformed datagrams. The steps that the first run
takes with such a datagram stay in the list, and they change nothing in a poll that waits in
`recvfrom`. -/
def wellFormed (actions : List Action) : List Action := actions.filter Action.isWellFormed

/-- Whether the action delivers a datagram of more than 8 bytes. -/
def Action.isLong : Action → Bool
  | .recv (.datagram bytes) => decide (8 < bytes.length)
  | _ => false

/-- Whether `uplink_poll` waits in `recvfrom`. -/
def Poll.isReceiving : Poll → Bool
  | .receiving _ => true
  | _ => false

/-- Whether the action is a return of `recvfrom`. -/
def Action.isRecv : Action → Bool
  | .recv _ => true
  | _ => false

/-- `recvfrom` returns only where `uplink_poll` calls it. -/
def RecvFits : State → List Action → Prop
  | _, [] => True
  | st, a :: as =>
    (a.isRecv = true → st.poll.isReceiving = true) ∧ RecvFits (step st a).1 as

instance decidableRecvFits : ∀ st actions, Decidable (RecvFits st actions)
  | _, [] => isTrue trivial
  | st, a :: as =>
    have := decidableRecvFits (step st a).1 as
    inferInstanceAs (Decidable (_ ∧ _))

/-- The result of a call of `uplink_poll`. -/
def Event.returned? : Event → Option Int
  | .pollReturned result => some result
  | _ => none

/-- What `uplink_poll` returned, call by call. -/
def pollResults (out : List Event) : List Int := out.filterMap Event.returned?

/-- The two runs end with the same remembered bitfield, key queue, deduplication memory,
packet counts and byte counter. -/
structure SameResult (r r' : State × List Event) : Prop where
  bitfield : r.1.gPrevBitfield = r'.1.gPrevBitfield
  queue : r.1.gQueue = r'.1.gQueue
  memory : r.1.gLastEnqueuedKey = r'.1.gLastEnqueuedKey ∧
    r.1.gLastEnqueuedPressed = r'.1.gLastEnqueuedPressed ∧
    r.1.gLastEnqueuedMs = r'.1.gLastEnqueuedMs
  /-- As many packets are processed. -/
  packets : (processed r.2).length = (processed r'.2).length
  /-- The calls of `uplink_poll` return the same counts. -/
  results : pollResults r.2 = pollResults r'.2
  bytes : r.1.gBytesReceived = r'.1.gBytesReceived

/-! ### Short datagrams -/

/-- A datagram of fewer than 8 bytes is no packet: `recvfrom` returns its length, and
`uplink_poll` goes on to the next one. -/
theorem receivedPacket_of_short {bytes : Datagram} (h : bytes.length < 8) :
    receivedPacket bytes = none := by
  unfold receivedPacket
  rw [dif_neg]
  rw [List.length_take]
  omega

/-- A datagram of at least 8 bytes is a packet. `recvfrom` cuts it to the 8 bytes asked for, so
the test for another number than 8 does not see the rest. -/
theorem receivedPacket_of_le {bytes : Datagram} (h : 8 ≤ bytes.length) :
    ∃ pkt, receivedPacket bytes = some pkt := by
  have hlen : (bytes.take 8).length = 8 := by
    rw [List.length_take]
    omega
  exact ⟨_, dif_pos hlen⟩

/-- A datagram that is no packet is ignored. -/
theorem receive_of_none {bytes : Datagram} (h : receivedPacket bytes = none) (st : State)
    (count : Nat) : receive st count (.datagram bytes) = (st, [.received bytes]) := by
  simp only [receive, h]

/-- A packet is taken in. -/
theorem receive_of_some {bytes : Datagram} {pkt : InputPacket}
    (h : receivedPacket bytes = some pkt) (st : State) (count : Nat) :
    receive st count (.datagram bytes)
      = ({ st with
          gBytesReceived := st.gBytesReceived + 8
          poll := .processing pkt pollCalls count }, [.received bytes]) := by
  simp only [receive, h]

/-- The delivery of a short datagram leaves the state alone, and no history sees it. The same
holds when no poll waits for it, since the action then does not fit. -/
theorem step_short {bytes : Datagram} (h : bytes.length < 8) (st : State) :
    (step st (.recv (.datagram bytes))).1 = st ∧
      processed (step st (.recv (.datagram bytes))).2 = [] ∧
      pollResults (step st (.recv (.datagram bytes))).2 = [] := by
  unfold step
  cases st.poll with
  | idle => exact ⟨rfl, rfl, rfl⟩
  | processing pkt calls count => exact ⟨rfl, rfl, rfl⟩
  | receiving count =>
    dsimp only
    rw [receive_of_none (receivedPacket_of_short h)]
    exact ⟨rfl, rfl, rfl⟩

/-- An action that is dropped and not long delivers a short datagram. These are the only actions
in which the two runs differ when no datagram is long. -/
theorem Action.short_of_dropped {a : Action} (hdropped : a.isWellFormed = false)
    (hlong : a.isLong = false) : ∃ bytes, a = .recv (.datagram bytes) ∧ bytes.length < 8 := by
  cases a with
  | beginPoll | pollStep | popKey => cases hdropped
  | recv r =>
    cases r with
    | wouldBlock | error => cases hdropped
    | datagram bytes =>
      have hne : bytes.length ≠ 8 := by simpa [isWellFormed] using hdropped
      have hle : ¬ 8 < bytes.length := by simpa [isLong] using hlong
      exact ⟨bytes, rfl, by omega⟩

/-- An action that both runs take delivers no long datagram. -/
theorem Action.isLong_of_kept {a : Action} (hkeep : a.isWellFormed = true) :
    a.isLong = false := by
  cases a with
  | beginPoll | pollStep | popKey => rfl
  | recv r =>
    cases r with
    | wouldBlock | error => rfl
    | datagram bytes =>
      have hlen : bytes.length = 8 := by simpa [isWellFormed] using hkeep
      simp [isLong, hlen]

/-- Without long datagrams, the malformed ones leave no trace: the two runs have the same state,
the same processed bitfields and the same results, from any state on. -/
theorem run_wellFormed_of_not_long (st : State) {actions : List Action}
    (h : ∀ a ∈ actions, a.isLong = false) :
    (run step st actions).1 = (run step st (wellFormed actions)).1 ∧
      processed (run step st actions).2 = processed (run step st (wellFormed actions)).2 ∧
      pollResults (run step st actions).2
        = pollResults (run step st (wellFormed actions)).2 := by
  -- The induction is over the actions. The state is the same in both runs all along.
  induction actions generalizing st with
  | nil => exact ⟨rfl, rfl, rfl⟩
  | cons a as ih =>
    have hrest : ∀ a' ∈ as, a'.isLong = false := fun a' ha' =>
      h a' (List.mem_cons_of_mem a ha')
    obtain ⟨hstate, hprocessed, hresults⟩ := ih (step st a).1 hrest
    show (run step (step st a).1 as).1 = _ ∧
      (processed ((step st a).2 ++ (run step (step st a).1 as).2)) = _ ∧
      (pollResults ((step st a).2 ++ (run step (step st a).1 as).2)) = _
    unfold pollResults at hresults ⊢
    rw [processed_append, List.filterMap_append]
    cases hkeep : a.isWellFormed with
    | true =>
      -- Both runs take the step.
      have hcons : wellFormed (a :: as) = a :: wellFormed as := List.filter_cons_of_pos hkeep
      rw [hcons, hprocessed, hresults, hstate, run]
      exact ⟨rfl, (processed_append _ _).symm, List.filterMap_append.symm⟩
    | false =>
      have hcons : wellFormed (a :: as) = wellFormed as :=
        List.filter_cons_of_neg (by simp [hkeep])
      obtain ⟨bytes, rfl, hshort⟩ :=
        Action.short_of_dropped hkeep (h a List.mem_cons_self)
      obtain ⟨hsame, hnone, hnone'⟩ := step_short hshort st
      unfold pollResults at hnone'
      rw [hcons, hnone, hnone', hprocessed, hresults, hstate, hsame]
      exact ⟨rfl, rfl, rfl⟩

/-! ### Long datagrams -/

/-- The next program counter of `uplink_poll` with its packet. -/
def Poll.next : Poll → Poll
  | .processing _ [] count => .receiving (count + 1)
  | .processing pkt (_ :: calls) count => .processing pkt calls count
  | poll => poll

/-- The bitfield that the next step of `uplink_poll` completes. -/
def Poll.completes : Poll → List UInt16
  | .processing pkt [] _ => [pkt.bitfield]
  | _ => []

/-- `enqueue_key_event` touches the queue and the deduplication only. -/
theorem enqueueKeyEvent_frame (st : State) (event : KeyEvent) (ts ts' : Option Timespec) :
    (enqueueKeyEvent st event ts ts').1.poll = st.poll ∧
      (enqueueKeyEvent st event ts ts').1.gBytesReceived = st.gBytesReceived := by
  generalize hnext : enqueueKeyEvent st event ts ts' = next
  cases enqueueKeyEvent_spec hnext with
  | duplicate | full | accepted => exact ⟨rfl, rfl⟩

/-- The program counter, the byte counter and the completed packets after a step with the
packet. None of the three depends on the key queue, in which the two runs may differ. -/
theorem pollStep_frame (st : State) (ts ts' : Option Timespec) :
    (pollStep st ts ts').1.poll = st.poll.next ∧
      (pollStep st ts ts').1.gBytesReceived = st.gBytesReceived ∧
      processed (pollStep st ts ts').2 = st.poll.completes := by
  unfold pollStep
  cases hpoll : st.poll with
  | idle => exact ⟨hpoll, rfl, rfl⟩
  | receiving count => exact ⟨hpoll, rfl, rfl⟩
  | processing pkt calls count =>
    cases calls with
    | nil => exact ⟨rfl, rfl, rfl⟩
    | cons call calls =>
      dsimp only
      cases call.keyEvent pkt.bitfield st.gPrevBitfield with
      | none => exact ⟨rfl, rfl, rfl⟩
      | some event =>
        obtain ⟨hsame, hbytes⟩ := enqueueKeyEvent_frame
          { st with poll := .processing pkt calls count } event ts ts'
        exact ⟨hsame, hbytes, rfl⟩

/-- The program counter after a call of `uplink_poll`. -/
def Poll.begun : Poll → Poll
  | .idle => .receiving 0
  | poll => poll

/-- A call of `uplink_poll` moves the program counter and nothing else of what the lag is about. -/
theorem beginPoll_frame (st : State) :
    (step st .beginPoll).1.poll = st.poll.begun ∧
      (step st .beginPoll).1.gBytesReceived = st.gBytesReceived ∧
      processed (step st .beginPoll).2 = [] := by
  unfold step
  cases hpoll : st.poll with
  | idle => exact ⟨rfl, rfl, rfl⟩
  | receiving count => exact ⟨hpoll, rfl, rfl⟩
  | processing pkt calls count => exact ⟨hpoll, rfl, rfl⟩

/-- A pop moves nothing of what the lag is about. -/
theorem popKey_frame (st : State) :
    (step st .popKey).1.poll = st.poll ∧
      (step st .popKey).1.gBytesReceived = st.gBytesReceived ∧
      processed (step st .popKey).2 = [] := by
  unfold step uplinkPopKey
  cases st.gQueue.pop <;> exact ⟨rfl, rfl, rfl⟩

/-- How far the first run is ahead of the second one: by no packet, or by the long one that it
is processing while the second one waits in `recvfrom`. -/
inductive Lag : Poll → Poll → Nat → Prop where
  | idle : Lag .idle .idle 0
  | receiving (count count' : Nat) : Lag (.receiving count) (.receiving count') 0
  | processing (pkt : InputPacket) (calls : List Call) (count count' : Nat) :
      Lag (.processing pkt calls count) (.processing pkt calls count') 0
  | ahead (pkt : InputPacket) (calls : List Call) (count count' : Nat) :
      Lag (.processing pkt calls count) (.receiving count') 1

/-- Two runs from the same state start without a lag. -/
theorem Lag.refl (poll : Poll) : Lag poll poll 0 := by
  cases poll with
  | idle => exact .idle
  | receiving count => exact .receiving count count
  | processing pkt calls count => exact .processing pkt calls count count

/-- A new poll keeps the lag. While a long packet is in process, the first run ignores the call,
and the second one is in a poll as well. -/
theorem Lag.begun {poll poll' : Poll} {lag : Nat} (h : Lag poll poll' lag) :
    Lag poll.begun poll'.begun lag := by
  cases h with
  | idle => exact .receiving 0 0
  | receiving count count' => exact .receiving count count'
  | processing pkt calls count count' => exact .processing pkt calls count count'
  | ahead pkt calls count count' => exact .ahead pkt calls count count'

/-- The first run is at most one packet ahead. So at the end all long datagrams but one show in
the number of processed packets. -/
theorem Lag.le_one {poll poll' : Poll} {lag : Nat} (h : Lag poll poll' lag) : lag ≤ 1 := by
  cases h <;> decide

/-- When the first run waits in `recvfrom`, the second one does too, and nothing is ahead. -/
theorem Lag.of_isReceiving {poll poll' : Poll} {lag : Nat} (h : Lag poll poll' lag)
    (hreceiving : poll.isReceiving = true) :
    lag = 0 ∧ ∃ count count', poll = .receiving count ∧ poll' = .receiving count' := by
  cases h with
  | receiving count count' => exact ⟨rfl, count, count', rfl, rfl⟩
  | idle | processing | ahead => cases hreceiving

/-- A step of both polls. The packets completed make up for the change of the lag: when the
first run completes the long packet, it is no longer ahead. -/
theorem Lag.next {poll poll' : Poll} {lag : Nat} (h : Lag poll poll' lag) :
    ∃ lag', Lag poll.next poll'.next lag' ∧
      poll.completes.length + lag' = poll'.completes.length + lag := by
  cases h with
  | idle => exact ⟨0, .idle, rfl⟩
  | receiving count count' => exact ⟨0, .receiving count count', rfl⟩
  | processing pkt calls count count' =>
    cases calls with
    | nil => exact ⟨0, .receiving _ _, rfl⟩
    | cons call calls => exact ⟨0, .processing pkt calls count count', rfl⟩
  -- Only the first run has a packet. The second one stays in `recvfrom`.
  | ahead pkt calls count count' =>
    cases calls with
    | nil => exact ⟨0, .receiving _ _, rfl⟩
    | cons call calls => exact ⟨1, .ahead pkt calls count count', rfl⟩

/-- What a step adds to the lag of the first run: one packet and 8 bytes for a long datagram,
and nothing for any other one. -/
structure LagStep (st st₁ : State) (out : List Event) (st' st₁' : State) (out' : List Event)
    (lag long : Nat) : Prop where
  packets : ∃ lag', Lag st₁.poll st₁'.poll lag' ∧
    (processed out).length + lag' = (processed out').length + lag + long
  bytes : st₁.gBytesReceived + st'.gBytesReceived
    = st₁'.gBytesReceived + st.gBytesReceived + 8 * UInt64.ofNat long

/-- One step and then the others. The long datagrams and the bytes add up, and the lag between
the two is the one that the first step leaves. -/
theorem LagStep.trans {st st₁ st₂ st' st₁' st₂' : State} {out out₂ out' out₂' : List Event}
    {lag long long₂ : Nat} (h : LagStep st st₁ out st' st₁' out' lag long)
    (h₂ : ∀ lag₁, Lag st₁.poll st₁'.poll lag₁ →
      LagStep st₁ st₂ out₂ st₁' st₂' out₂' lag₁ long₂) :
    LagStep st st₂ (out ++ out₂) st' st₂' (out' ++ out₂') lag (long + long₂) := by
  obtain ⟨lag₁, hlag₁, hpackets⟩ := h.packets
  obtain ⟨lag₂, hlag₂, hpackets₂⟩ := (h₂ lag₁ hlag₁).packets
  have hbytes := h.bytes
  have hbytes₂ := (h₂ lag₁ hlag₁).bytes
  constructor
  · refine ⟨lag₂, hlag₂, ?_⟩
    rw [processed_append, processed_append, List.length_append, List.length_append]
    omega
  · rw [UInt64.ofNat_add]
    grind

/-- A step that both runs take. It adds neither packets nor bytes to one run alone. -/
theorem lagStep_kept {st st' : State} {lag : Nat} (h : Lag st.poll st'.poll lag) {a : Action}
    (hfits : a.isRecv = true → st.poll.isReceiving = true) (hkeep : a.isWellFormed = true) :
    LagStep st (step st a).1 (step st a).2 st' (step st' a).1 (step st' a).2 lag 0 := by
  cases a with
  | beginPoll =>
    obtain ⟨hpoll, hbytes, hdone⟩ := beginPoll_frame st
    obtain ⟨hpoll', hbytes', hdone'⟩ := beginPoll_frame st'
    constructor
    · rw [hpoll, hpoll', hdone, hdone']
      exact ⟨lag, h.begun, rfl⟩
    · rw [hbytes, hbytes']
      simp [UInt64.add_comm]
  | recv r =>
    obtain ⟨rfl, count, count', hp, hp'⟩ := h.of_isReceiving (hfits rfl)
    simp only [step, hp, hp']
    cases r with
    | wouldBlock => exact ⟨⟨0, .idle, rfl⟩, by simp [receive, UInt64.add_comm]⟩
    | error => exact ⟨⟨0, .idle, rfl⟩, by simp [receive, UInt64.add_comm]⟩
    | datagram bytes =>
      have hlen : bytes.length = 8 := by simpa [Action.isWellFormed] using hkeep
      obtain ⟨pkt, hpkt⟩ := receivedPacket_of_le (Nat.le_of_eq hlen.symm)
      rw [receive_of_some hpkt, receive_of_some hpkt]
      refine ⟨⟨0, .processing pkt pollCalls count count', rfl⟩, ?_⟩
      show st.gBytesReceived + 8 + st'.gBytesReceived
        = st'.gBytesReceived + 8 + st.gBytesReceived + 8 * UInt64.ofNat 0
      grind
  | pollStep ts ts' =>
    obtain ⟨hpoll, hbytes, hdone⟩ := pollStep_frame st ts ts'
    obtain ⟨hpoll', hbytes', hdone'⟩ := pollStep_frame st' ts ts'
    show LagStep st (pollStep st ts ts').1 (pollStep st ts ts').2 st' (pollStep st' ts ts').1
      (pollStep st' ts ts').2 lag 0
    constructor
    · rw [hpoll, hpoll', hdone, hdone']
      exact h.next
    · rw [hbytes, hbytes']
      simp [UInt64.add_comm]
  | popKey =>
    obtain ⟨hpoll, hbytes, hdone⟩ := popKey_frame st
    obtain ⟨hpoll', hbytes', hdone'⟩ := popKey_frame st'
    constructor
    · rw [hpoll, hpoll', hdone, hdone']
      exact ⟨lag, h, rfl⟩
    · rw [hbytes, hbytes']
      simp [UInt64.add_comm]

/-- A step that only the first run takes: a short datagram, which it ignores, or a long one,
which it takes into process. -/
theorem lagStep_dropped {st st' : State} {lag : Nat} (h : Lag st.poll st'.poll lag)
    {a : Action} (hfits : a.isRecv = true → st.poll.isReceiving = true)
    (hdropped : a.isWellFormed = false) :
    LagStep st (step st a).1 (step st a).2 st' st' [] lag (if a.isLong then 1 else 0) := by
  cases hlong : a.isLong with
  | false =>
    obtain ⟨bytes, rfl, hshort⟩ := Action.short_of_dropped hdropped hlong
    obtain ⟨hsame, hnone, -⟩ := step_short hshort st
    rw [hsame]
    constructor
    · rw [hnone]
      exact ⟨lag, h, rfl⟩
    · simp [UInt64.add_comm]
  | true =>
    obtain ⟨bytes, rfl, hlen⟩ : ∃ bytes, a = .recv (.datagram bytes) ∧ 8 < bytes.length := by
      cases a with
      | recv r =>
        cases r with
        | datagram bytes => exact ⟨bytes, rfl, by simpa [Action.isLong] using hlong⟩
        | wouldBlock | error => cases hlong
      | beginPoll | pollStep | popKey => cases hlong
    obtain ⟨rfl, count, count', hp, hp'⟩ := h.of_isReceiving (hfits rfl)
    obtain ⟨pkt, hpkt⟩ := receivedPacket_of_le (Nat.le_of_lt hlen)
    -- The first run processes the first 8 bytes, and the second one still waits.
    simp only [step, hp]
    rw [receive_of_some hpkt]
    refine ⟨⟨1, hp' ▸ .ahead pkt pollCalls count count', rfl⟩, ?_⟩
    show st.gBytesReceived + 8 + st'.gBytesReceived
      = st'.gBytesReceived + st.gBytesReceived + 8 * UInt64.ofNat 1
    have hone : UInt64.ofNat 1 = 1 := rfl
    rw [hone]
    grind

/-- The number of long datagrams that the actions deliver. -/
def longDatagrams (actions : List Action) : Nat := actions.countP Action.isLong

/-- The lag of a whole run. Each long datagram is one more packet and 8 more bytes, except that
the last one can still be in process. The induction is over the actions, with `lagStep_kept` and
`lagStep_dropped` as its steps. -/
theorem run_lag {st st' : State} {lag : Nat} (h : Lag st.poll st'.poll lag)
    {actions : List Action} (hfits : RecvFits st actions) :
    LagStep st (run step st actions).1 (run step st actions).2
      st' (run step st' (wellFormed actions)).1 (run step st' (wellFormed actions)).2
      lag (longDatagrams actions) := by
  induction actions generalizing st st' lag with
  | nil => exact ⟨⟨lag, h, rfl⟩, by simp [wellFormed, longDatagrams, UInt64.add_comm]⟩
  | cons a as ih =>
    obtain ⟨hhead, htail⟩ := hfits
    have hcount : longDatagrams (a :: as)
        = (if a.isLong then 1 else 0) + longDatagrams as := by
      show (a :: as).countP _ = _
      rw [List.countP_cons, Nat.add_comm]
      rfl
    rw [hcount]
    cases hkeep : a.isWellFormed with
    | true =>
      have hcons : wellFormed (a :: as) = a :: wellFormed as := List.filter_cons_of_pos hkeep
      rw [hcons, a.isLong_of_kept hkeep]
      exact (lagStep_kept h hhead hkeep).trans fun lag₁ hlag₁ => ih hlag₁ htail
    | false =>
      have hcons : wellFormed (a :: as) = wellFormed as :=
        List.filter_cons_of_neg (by simp [hkeep])
      rw [hcons]
      exact (lagStep_dropped h hhead hkeep).trans fun lag₁ hlag₁ => ih hlag₁ htail

/-- The run and the run without the malformed datagrams end alike exactly when no datagram
that is delivered is longer than 8 bytes. -/
theorem sameResult_iff (st : State) (actions : List Action) (hfits : RecvFits st actions) :
    SameResult (run step st actions) (run step st (wellFormed actions))
      ↔ ∀ bytes, .recv (.datagram bytes) ∈ actions → bytes.length ≤ 8 := by
  have hlong : (∀ a ∈ actions, a.isLong = false)
      ↔ ∀ bytes, .recv (.datagram bytes) ∈ actions → bytes.length ≤ 8 := by
    constructor
    · intro h bytes hin
      exact Nat.not_lt.mp (of_decide_eq_false (h _ hin))
    · intro h a ha
      cases a with
      | beginPoll | pollStep | popKey => rfl
      | recv r =>
        cases r with
        | wouldBlock | error => rfl
        | datagram bytes => exact decide_eq_false (Nat.not_lt.mpr (h bytes ha))
  rw [← hlong]
  constructor
  · intro hsame
    -- The packets leave at most the last long datagram open, and the bytes settle it.
    obtain ⟨⟨lag, hlag, hpackets⟩, hbytes⟩ := run_lag (Lag.refl st.poll) hfits
    rw [hsame.packets] at hpackets
    rw [hsame.bytes] at hbytes
    have hle : lag ≤ 1 := hlag.le_one
    have hcount : longDatagrams actions = lag := by omega
    -- A single long datagram in process has already been counted in the bytes.
    have hzero : longDatagrams actions = 0 := by
      by_contra hne
      have hone : longDatagrams actions = 1 := by omega
      rw [hone, UInt64.left_eq_add] at hbytes
      exact absurd hbytes (by decide)
    intro a ha
    have := List.countP_eq_zero.mp hzero a ha
    simpa using this
  · intro hnone
    obtain ⟨hstate, hprocessed, hresults⟩ := run_wellFormed_of_not_long st hnone
    constructor
    · rw [hstate]
    · rw [hstate]
    · rw [hstate]
      exact ⟨rfl, rfl, rfl⟩
    · rw [hprocessed]
    · exact hresults
    · rw [hstate]

/-- The actions of a poll that gets one datagram, with one clock reading for all calls. -/
def pollDatagram (ts : Option Timespec) (bytes : Datagram) : List Action :=
  [.beginPoll, .recv (.datagram bytes)]
    ++ List.replicate (pollCalls.length + 1) (.pollStep ts ts) ++ [.recv .wouldBlock]

/-- A datagram of 9 bytes whose first two set the bit of the forward key. -/
def longForward : Datagram := [0, 1, 0, 0, 0, 0, 0, 0, 0]

/-- The long datagram is processed as a packet, so the first run has one packet more. -/
theorem not_sameResult_longForward :
    ¬ SameResult (uplinkRun (pollDatagram (some ⟨1, 0⟩) longForward))
      (uplinkRun (wellFormed (pollDatagram (some ⟨1, 0⟩) longForward))) := by
  intro h
  exact absurd h.packets (by decide +kernel)

/-- A poll that gets a datagram of 3 bytes, and then one that gets the long datagram. -/
def shortThenLong : List Action :=
  pollDatagram (some ⟨1, 0⟩) [0, 1, 2] ++ pollDatagram (some ⟨2, 0⟩) longForward

/-- The equivalence for `shortThenLong`. -/
theorem sameResult_iff_shortThenLong :
    SameResult (run step (uplinkInit staticState) shortThenLong)
        (run step (uplinkInit staticState) (wellFormed shortThenLong))
      ↔ ∀ bytes, .recv (.datagram bytes) ∈ shortThenLong → bytes.length ≤ 8 :=
  sameResult_iff (uplinkInit staticState) shortThenLong (by decide +kernel)

end DoomSat.Uplink
