import DoomSat.Proofs.Input.Polls
import DoomSat.Support.Spacing

/-!
# `DoomSat.Proofs.Input.Rate`: the rate of the uplink

The throttle of `input_poll` subtracts 32-bit clock readings. A run is given by true times that
do not decrease, of any size, and the code sees them modulo 2^32.

`RateInv` ties the state to the packets that a run handed to `sendto`. The timer of the state
is the time of the last packet modulo 2^32, so a difference of at least 50 modulo 2^32 is a
difference of at least 50. `rate_run` states the bounds on the packets of a run.
-/

set_option autoImplicit false

namespace DoomSat.Input

open Support

/-- A call of `input_poll` at a true time in milliseconds. -/
structure TimedPoll where
  time : Nat
  events : List SdlEvent
  keyboard : Keyboard
  sent : Int

/-- What the code sees of the call: the time modulo 2^32, as `get_timestamp_ms` returns it
(`TimedPoll.now_toPoll`). -/
def TimedPoll.toPoll (p : TimedPoll) : Poll where
  events := p.events
  keyboard := p.keyboard
  now := UInt32.ofNat p.time
  sent := p.sent

/-- The time that the code sees is the one that `get_timestamp_ms` computes, when the true time
is a reading of the monotonic clock in milliseconds. -/
theorem TimedPoll.now_toPoll {p : TimedPoll} {tvSec tvNsec : Int64} (hsec : 0 ≤ tvSec.toInt)
    (hnsec : 0 ≤ tvNsec.toInt)
    (htime : p.time = tvSec.toInt.toNat * 1000 + tvNsec.toInt.toNat / 1000000) :
    p.toPoll.now = getTimestampMs tvSec tvNsec := by
  rw [getTimestampMs_eq hsec hnsec, ← htime]
  rfl

/-- A call with its outputs, each next to the call that shows it. -/
def timedStep (st : State) (p : TimedPoll) : State × List (TimedPoll × Event) :=
  ((inputPoll st p.toPoll).1, (inputPoll st p.toPoll).2.map fun ev => (p, ev))

/-- A packet handed to `sendto`, and the call that did it. -/
structure Send where
  poll : TimedPoll
  packet : InputPacket

/-- The packet of a call of `sendto`, with the call of `input_poll` around it. -/
def send? : TimedPoll × Event → Option Send
  | (p, .sendto buf _) => some ⟨p, unpackInput buf⟩
  | _ => none

/-- The packets that a run of calls hands to `sendto`, in order, whatever `sendto` returns. -/
def sends (st : State) (polls : List TimedPoll) : List Send :=
  (run timedStep st polls).2.filterMap send?

/-- The state after a run of calls. -/
def timedState (st : State) (polls : List TimedPoll) : State := (run timedStep st polls).1

/-! ### One more call -/

/-- The packet that a call hands to `sendto` in this state. -/
def sendOf (st : State) (p : TimedPoll) : Send :=
  ⟨p, ⟨snapshot p.keyboard, UInt32.ofNat p.time, st.gSeq⟩⟩

/-- What a call does to the timer and the packets of the run before it. -/
structure Waits (st : State) (polls : List TimedPoll) (p : TimedPoll) : Prop where
  cause : pollEvents p.events = true ∨
    timerExpired (timedState st polls).gLastSendMs (UInt32.ofNat p.time) = false
  sends : sends st (polls ++ [p]) = sends st polls
  seq : (timedState st (polls ++ [p])).gSeq = (timedState st polls).gSeq
  last : (timedState st (polls ++ [p])).gLastSendMs = (timedState st polls).gLastSendMs

/-- What a call that sends does to them. -/
structure Sends (st : State) (polls : List TimedPoll) (p : TimedPoll) : Prop where
  timer : timerExpired (timedState st polls).gLastSendMs (UInt32.ofNat p.time) = true
  sends : sends st (polls ++ [p]) = sends st polls ++ [sendOf (timedState st polls) p]
  seq : (timedState st (polls ++ [p])).gSeq = (timedState st polls).gSeq + 1
  last : (timedState st (polls ++ [p])).gLastSendMs = UInt32.ofNat p.time

/-- A call after a run either sends nothing or one packet. Both cases say what becomes of the
timer and of the sequence number. -/
theorem waits_or_sends (st : State) (polls : List TimedPoll) (p : TimedPoll) :
    Waits st polls p ∨ Sends st polls p := by
  have hstate : timedState st (polls ++ [p])
      = (inputPoll (timedState st polls) p.toPoll).1 := by
    show (run timedStep st (polls ++ [p])).1 = _
    rw [run_concat]
    rfl
  have hsends : sends st (polls ++ [p]) = sends st polls
      ++ ((inputPoll (timedState st polls) p.toPoll).2.map fun ev => (p, ev)).filterMap
        send? := by
    show (run timedStep st (polls ++ [p])).2.filterMap send? = _
    rw [run_concat, List.filterMap_append]
    rfl
  have hspec := inputPoll_spec (timedState st polls) p.toPoll
  generalize inputPoll (timedState st polls) p.toPoll = r at hstate hsends hspec
  obtain ⟨st', out⟩ := r
  cases hspec with
  | quit hquit =>
    exact Or.inl ⟨Or.inl hquit, hsends.trans (List.append_nil _), by rw [hstate]; rfl,
      by rw [hstate]; rfl⟩
  | wait _ hquit htimer hseq hlast =>
    exact Or.inl ⟨Or.inr htimer, hsends.trans (List.append_nil _), by rw [hstate, hseq],
      by rw [hstate, hlast]⟩
  | send _ hquit htimer hseq hlast =>
    refine Or.inr ⟨htimer, ?_, by rw [hstate, hseq], by rw [hstate, hlast]; rfl⟩
    rw [hsends]
    show _ ++ [Send.mk p (unpackInput (packInput _))] = _
    rw [unpackInput_packInput]
    rfl

/-! ### The invariant of a run -/

/-- The state and the packets of a run. `initial` is the sequence number at its start. -/
structure RateInv (initial : UInt16) (st : State) (packets : List Send) : Prop where
  /-- The packets are at least 50 ms apart. -/
  spaced : Spaced 50 (packets.map fun s => s.poll.time)
  /-- The timer is the time of the last packet. -/
  last : ∀ s, packets.getLast? = some s → st.gLastSendMs = UInt32.ofNat s.poll.time
  seq : st.gSeq = initial + UInt16.ofNat packets.length
  numbered : ∀ k s, packets[k]? = some s → s.packet.seqNumber = initial + UInt16.ofNat k
  /-- Each packet has the snapshot of its call. -/
  bitfield : ∀ s ∈ packets, s.packet.bitfield = snapshot s.poll.keyboard

/-- The calls that sent are calls of the run. -/
theorem poll_mem_of_mem_sends {st : State} {polls : List TimedPoll} {s : Send}
    (h : s ∈ sends st polls) : s.poll ∈ polls := by
  induction polls using List.reverseRecOn with
  | nil => cases h
  | append_singleton polls p ih =>
    rcases waits_or_sends st polls p with hw | hs
    · rw [hw.sends] at h
      exact List.mem_append_left _ (ih h)
    · rw [hs.sends] at h
      rcases List.mem_append.mp h with h | h
      · exact List.mem_append_left _ (ih h)
      · rw [List.mem_singleton.mp h]
        exact List.mem_append_right _ List.mem_cons_self

/-- The invariant of an empty run. -/
theorem rateInv_nil (st : State) : RateInv st.gSeq st [] := by
  refine ⟨List.Pairwise.nil, ?_, ?_, ?_, ?_⟩
  · intro s h
    cases h
  · exact (UInt16.add_zero _).symm
  · intro k s h
    cases h
  · intro s h
    cases h

/-- A call that sends nothing keeps the invariant. -/
theorem RateInv.wait {initial : UInt16} {st : State} {polls : List TimedPoll} {p : TimedPoll}
    (hinv : RateInv initial (timedState st polls) (sends st polls)) (hw : Waits st polls p) :
    RateInv initial (timedState st (polls ++ [p])) (sends st (polls ++ [p])) := by
  rw [hw.sends]
  exact ⟨hinv.spaced, fun s h => hw.last.trans (hinv.last s h), hw.seq.trans hinv.seq,
    hinv.numbered, hinv.bitfield⟩

/-- A call that sends keeps the invariant, when it is not earlier than the last packet. Its
packet is at least 50 ms behind the last one, since a smaller difference would not expire the
timer. -/
theorem RateInv.send {initial : UInt16} {st : State} {polls : List TimedPoll}
    {p : TimedPoll} (hinv : RateInv initial (timedState st polls) (sends st polls))
    (hlate : ∀ s ∈ sends st polls, s.poll.time ≤ p.time) (hs : Sends st polls p) :
    RateInv initial (timedState st (polls ++ [p])) (sends st (polls ++ [p])) := by
  rw [hs.sends]
  constructor
  · rw [List.map_append]
    apply hinv.spaced.concat
    intro t ht
    rw [List.getLast?_map, Option.map_eq_some_iff] at ht
    obtain ⟨s, hlast, rfl⟩ := ht
    -- The timer counts from the packet before, modulo 2^32.
    have hle := hlate s (List.mem_of_getLast? hlast)
    have htimer := hs.timer
    rw [hinv.last s hlast, timerExpired_ofNat hle, decide_eq_true_eq] at htimer
    have := Nat.mod_le (p.time - s.poll.time) (2 ^ 32)
    show s.poll.time + 50 ≤ p.time
    omega
  · intro s h
    rw [List.getLast?_concat] at h
    cases h
    exact hs.last
  · rw [hs.seq, hinv.seq, List.length_append, List.length_singleton, UInt16.ofNat_add,
      UInt16.add_assoc]
    rfl
  · intro k s h
    by_cases hk : k < (sends st polls).length
    · rw [List.getElem?_append_left hk] at h
      exact hinv.numbered k s h
    · -- The new packet takes the number of the state.
      rw [List.getElem?_append_right (Nat.not_lt.mp hk), List.getElem?_singleton] at h
      split at h
      · cases h
        have hlen : k = (sends st polls).length := by omega
        rw [hlen, ← hinv.seq]
        rfl
      · cases h
  · intro s h
    rcases List.mem_append.mp h with h | h
    · exact hinv.bitfield s h
    · rw [List.mem_singleton.mp h]
      rfl

/-- The invariant holds after every run of calls at times that do not decrease. -/
theorem rateInv_run (st : State) {polls : List TimedPoll}
    (hmono : polls.Pairwise fun p p' => p.time ≤ p'.time) :
    RateInv st.gSeq (timedState st polls) (sends st polls) := by
  induction polls using List.reverseRecOn with
  | nil => exact rateInv_nil st
  | append_singleton polls p ih =>
    obtain ⟨hmono, -, hlate⟩ := List.pairwise_append.mp hmono
    rcases waits_or_sends st polls p with hw | hs
    · exact (ih hmono).wait hw
    · apply (ih hmono).send _ hs
      intro s hmem
      exact hlate s.poll (poll_mem_of_mem_sends hmem) p List.mem_cons_self

/-- A call without a quit event sends when it comes at least 50 ms and less than 2^32 ms after
the last packet. Later than that, the wrapped difference may look small again. -/
theorem sends_of_expired {st : State} {polls : List TimedPoll} {p : TimedPoll}
    (hmono : polls.Pairwise fun p p' => p.time ≤ p'.time) (hquit : pollEvents p.events = false)
    {last : Send} (hlast : (sends st polls).getLast? = some last)
    (hlate : last.poll.time + 50 ≤ p.time) (hsoon : p.time < last.poll.time + 2 ^ 32) :
    Sends st polls p := by
  have hexpired : timerExpired (timedState st polls).gLastSendMs (UInt32.ofNat p.time)
      = true := by
    rw [(rateInv_run st hmono).last last hlast, timerExpired_ofNat (by omega),
      Nat.mod_eq_of_lt (by omega), decide_eq_true_eq]
    omega
  rcases waits_or_sends st polls p with hw | hs
  · rcases hw.cause with hc | hc
    · rw [hquit] at hc
      cases hc
    · rw [hexpired] at hc
      cases hc
  · exact hs

/-- The packets of every run after `input_init`, at true times that do not decrease:

- any two packets are at least 50 ms apart;
- a window of `width` ms has at most `width / 50 + 1` of them;
- a call without a quit event, at least 50 ms and less than 2^32 ms after the last packet,
  sends a packet;
- the `k`-th packet has the sequence number `k` modulo 65,536, and the bitfield of the snapshot
  that its call took. -/
theorem rate_run (st : State) (polls : List TimedPoll)
    (hmono : polls.Pairwise fun p p' => p.time ≤ p'.time) :
    (sends (inputInit st) polls).Pairwise (fun s s' => s.poll.time + 50 ≤ s'.poll.time) ∧
    (∀ start width, (sends (inputInit st) polls).countP
      (fun s => start ≤ s.poll.time ∧ s.poll.time ≤ start + width) ≤ width / 50 + 1) ∧
    (∀ before p after, polls = before ++ p :: after → pollEvents p.events = false →
      ∀ last, (sends (inputInit st) before).getLast? = some last →
        last.poll.time + 50 ≤ p.time → p.time < last.poll.time + 2 ^ 32 →
          ∃ packet, sends (inputInit st) (before ++ [p])
            = sends (inputInit st) before ++ [⟨p, packet⟩]) ∧
    ∀ k s, (sends (inputInit st) polls)[k]? = some s →
      s.packet.seqNumber = UInt16.ofNat k ∧ s.packet.bitfield = snapshot s.poll.keyboard := by
  have hinv := rateInv_run (inputInit st) hmono
  refine ⟨List.pairwise_map.mp hinv.spaced, ?_, ?_, ?_⟩
  · intro start width
    have hwin := countP_window_le (by decide) hinv.spaced start width
    rwa [List.countP_map] at hwin
  · intro before p after hsplit hquit last hlast hlate hsoon
    rw [hsplit] at hmono
    have hbefore := (List.pairwise_append.mp hmono).1
    exact ⟨_, (sends_of_expired hbefore hquit hlast hlate hsoon).sends⟩
  · intro k s hk
    refine ⟨?_, hinv.bitfield s (List.mem_of_getElem? hk)⟩
    rw [hinv.numbered k s hk]
    exact UInt16.zero_add _

/-- A call at this time without a quit event, with no key down. -/
def idlePoll (time : Nat) : TimedPoll where
  time := time
  events := []
  keyboard := fun _ => false
  sent := 8

/-- Three calls around the time when the 32-bit clock wraps. -/
def wrapPolls : List TimedPoll :=
  [idlePoll 4294967290, idlePoll 4294967330, idlePoll 4294967350]

/-- The bounds for `wrapPolls`. -/
theorem rate_run_wrapPolls :
    (sends (inputInit staticState) wrapPolls).Pairwise
      (fun s s' => s.poll.time + 50 ≤ s'.poll.time) ∧
    (∀ start width, (sends (inputInit staticState) wrapPolls).countP
      (fun s => start ≤ s.poll.time ∧ s.poll.time ≤ start + width) ≤ width / 50 + 1) ∧
    (∀ before p after, wrapPolls = before ++ p :: after → pollEvents p.events = false →
      ∀ last, (sends (inputInit staticState) before).getLast? = some last →
        last.poll.time + 50 ≤ p.time → p.time < last.poll.time + 2 ^ 32 →
          ∃ packet, sends (inputInit staticState) (before ++ [p])
            = sends (inputInit staticState) before ++ [⟨p, packet⟩]) ∧
    ∀ k s, (sends (inputInit staticState) wrapPolls)[k]? = some s →
      s.packet.seqNumber = UInt16.ofNat k ∧ s.packet.bitfield = snapshot s.poll.keyboard :=
  rate_run staticState wrapPolls (by decide)

-- The first and the last of these calls send, 60 ms apart.
example : (sends (inputInit staticState) wrapPolls).map (fun s => s.poll.time)
    = [4294967290, 4294967350] := by
  decide +kernel

end DoomSat.Input
