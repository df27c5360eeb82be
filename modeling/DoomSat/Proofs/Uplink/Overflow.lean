import DoomSat.Proofs.Uplink.Runs

/-!
# `DoomSat.Proofs.Uplink.Overflow`: keys that a full queue leaves stuck

`uplink_poll` remembers the bitfield of a packet, also when `enqueue_key_event` discarded an
event of it. It discards an event exactly when the queue holds 63 events and the event is no
quick repetition of the last accepted one (`enqueue_full_iff`). The ground station repeats its
state, but a repeated bitfield has no events, so the repetition does not bring the lost event
back.

`agrees_iff_even_discarded` says when the popped events still agree with the bitfield after
a repetition: for each bit key, the number of its events that were discarded at a full queue,
since the last one that was not, is even. `stuck_after_burst` is a run that leaves a key up
while its bit is set.
-/

set_option autoImplicit false

namespace DoomSat.Uplink

open Support

/-- The popped events leave each bit key in the state that the bitfield gives it. -/
def Agrees (bitfield : UInt16) (events : List KeyEvent) : Prop :=
  ∀ k ∈ bitKeys, held k.key events = k.isSet bitfield

instance (bitfield : UInt16) (events : List KeyEvent) : Decidable (Agrees bitfield events) :=
  inferInstanceAs (Decidable (∀ k ∈ bitKeys, _))

/-- The state of a bit key after the queue was drained. The requests for the key alternate, so
each discarded one turns the state around, and two of them cancel out. -/
theorem RunInv.held_iff {st : State} {out : List Event} (h : RunInv st out)
    (hdrained : Drained st) {k : BitKey} (hk : k ∈ bitKeys) :
    held k.key (poppedEvents out) = k.isSet ((processed out).getLastD 0) ↔
      Even (discarded k.key (requests out)) := by
  rw [h.poppedEvents_eq hdrained, ← h.held_requestedEvents hdrained.between hk]
  exact held_eq_iff h.deduplicated (h.alternates hk)

/-- A packet that repeats the last bitfield makes no request: no bit has changed, and the weapon
number has not either. -/
theorem requests_of_repeat (first second : List Action) {bitfield : UInt16}
    (hfirst : (uplinkRun first).1.poll.inFlight = [])
    (hlast : (processed (uplinkRun first).2).getLast? = some bitfield)
    (hsecond : (uplinkRun (first ++ second)).1.poll.inFlight = [])
    (hrepeat : processed (uplinkRun (first ++ second)).2
      = processed (uplinkRun first).2 ++ [bitfield]) :
    requests (uplinkRun (first ++ second)).2 = requests (uplinkRun first).2 := by
  -- The repetition adds nothing to the stream, so it adds no request.
  have hevents : requestedEvents (requests (uplinkRun (first ++ second)).2)
      = requestedEvents (requests (uplinkRun first).2) := by
    rw [(runInv_run _).requestedEvents_eq hsecond, (runInv_run _).requestedEvents_eq hfirst,
      hrepeat, eventStream_append, List.getLastD_eq_getLast?, hlast]
    show _ ++ (packetEvents bitfield bitfield ++ []) = _
    rw [packetEvents_self, List.append_nil, List.append_nil]
  -- The outputs of the longer run go on behind those of the first, so equal requests leave none
  -- for the rest.
  obtain ⟨out', hout⟩ : ∃ out', (uplinkRun (first ++ second)).2 = (uplinkRun first).2 ++ out' :=
    ⟨_, congrArg Prod.snd (run_append step _ first second)⟩
  rw [hout, requests_append, requestedEvents_append] at hevents
  have hnil : requests out' = [] :=
    List.map_eq_nil_iff.mp (List.self_eq_append_right.mp hevents.symm)
  rw [hout, requests_append, hnil, List.append_nil]

/-- Suppose that the last two packets have the same bitfield, and that the queue is drained
before and after the second of them. Then the popped events agree with the bitfield exactly
when, for each bit key, an even number of events was discarded at a full queue since the last
one that was not. So a lost press stays lost until the bit changes again. -/
theorem agrees_iff_even_discarded (first second : List Action) (bitfield : UInt16)
    (hfirst : Drained (uplinkRun first).1)
    (hlast : (processed (uplinkRun first).2).getLast? = some bitfield)
    (hsecond : Drained (uplinkRun (first ++ second)).1)
    (hrepeat : processed (uplinkRun (first ++ second)).2
      = processed (uplinkRun first).2 ++ [bitfield]) :
    Agrees bitfield (poppedEvents (uplinkRun (first ++ second)).2) ↔
      ∀ k ∈ bitKeys, Even (discarded k.key (requests (uplinkRun first).2)) := by
  have hreq := requests_of_repeat first second hfirst.between hlast hsecond.between hrepeat
  -- Key by key, the state after the repetition is the one before it.
  unfold Agrees
  refine forall₂_congr fun k hk => ?_
  rw [← hreq, ← (runInv_run (first ++ second)).held_iff hsecond hk, hrepeat,
    List.getLastD_concat]

/-- Polls that press and release all 13 bit keys at once, without a pop between them: 65
events for a queue with room for 63. -/
def burst : List Action :=
  pollPackets (some ⟨1, 0⟩) [0xE3FF, 0, 0xE3FF, 0, 0xE3FF] ++ List.replicate 64 .popKey

/-- The ground station repeats its last state. -/
def repetition : List Action := pollPackets (some ⟨2, 0⟩) [0xE3FF] ++ [.popKey]

/-- After the burst, ESCAPE and `y` stay up, although the ground station holds them down. -/
theorem stuck_after_burst :
    Drained (uplinkRun burst).1 ∧
    (processed (uplinkRun burst).2).getLast? = some 0xE3FF ∧
    Drained (uplinkRun (burst ++ repetition)).1 ∧
    processed (uplinkRun (burst ++ repetition)).2 = processed (uplinkRun burst).2 ++ [0xE3FF] ∧
    ¬ Agrees 0xE3FF (poppedEvents (uplinkRun (burst ++ repetition)).2) :=
  ⟨⟨by decide +kernel, by decide +kernel⟩, by decide +kernel,
    ⟨by decide +kernel, by decide +kernel⟩, by decide +kernel, by decide +kernel⟩

/-- The burst and the repetition once more: the two sides are equivalent, and the number of
discarded events is odd for a key, so both are false. -/
theorem agrees_iff_even_discarded_burst :
    (Agrees 0xE3FF (poppedEvents (uplinkRun (burst ++ repetition)).2) ↔
      ∀ k ∈ bitKeys, Even (discarded k.key (requests (uplinkRun burst).2))) ∧
    ¬ ∀ k ∈ bitKeys, Even (discarded k.key (requests (uplinkRun burst).2)) :=
  ⟨agrees_iff_even_discarded burst repetition 0xE3FF ⟨by decide +kernel, by decide +kernel⟩
    (by decide +kernel) ⟨by decide +kernel, by decide +kernel⟩ (by decide +kernel),
    by decide +kernel⟩

end DoomSat.Uplink
