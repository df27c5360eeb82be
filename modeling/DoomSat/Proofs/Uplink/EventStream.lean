import DoomSat.Proofs.Uplink.Runs

/-!
# `DoomSat.Proofs.Uplink.EventStream`: the popped events are the stream of the packets

Suppose that no event finds the key queue full. Then, for any packets in any order and any
interleaving, the events that `uplink_pop_key` returns are the event stream of the packets,
without the weapon presses that the deduplication removes. `ExactStream` lists what this
means, and `exactStream_run` proves it. The clock readings are arbitrary.
-/

set_option autoImplicit false

namespace DoomSat.Uplink

open Support

/-- The events of a run in which the packets `pkts` were delivered, in this order. -/
structure ExactStream (pkts : List InputPacket) (st : State) (out : List Event) : Prop where
  /-- The requests follow the stream of the packets. -/
  requested : requestedEvents (requests out) <+: eventStream 0 (pkts.map InputPacket.bitfield)
  /-- They are all of it when no packet is in process. -/
  complete : st.poll.inFlight = [] →
    requestedEvents (requests out) = eventStream 0 (pkts.map InputPacket.bitfield)
  /-- The events popped, and then those in the queue, are the requests that were accepted. -/
  popped : poppedEvents out ++ st.gQueue.contents = acceptedEvents (requests out)
  /-- A request that was not accepted is the press of a weapon key, and it repeats the event
  accepted last. -/
  removed : ∀ before r after, requests out = before ++ r :: after → r.outcome ≠ .accepted →
    (∃ w, 0 < w ∧ w < 8 ∧ r.event = ⟨weaponKey w, true⟩) ∧
      (acceptedEvents before).getLast? = some r.event
  /-- No request for a bit key is removed. -/
  kept : ∀ r ∈ requests out, ∀ k ∈ bitKeys, r.event.key = k.key → r.outcome = .accepted
  /-- The events popped for a bit key are a press, a release, a press, and so on. -/
  alternate : ∀ k ∈ bitKeys, Alternates k.key (poppedEvents out)
  /-- Once the queue is drained, the bit keys that are down are the bits of the last
  packet. -/
  held : Drained st → ∀ k ∈ bitKeys,
    held k.key (poppedEvents out) = k.isSet ((pkts.map InputPacket.bitfield).getLastD 0)

/-- A packed packet is received as it was sent. -/
theorem receivedPacket_packInput (pkt : InputPacket) :
    receivedPacket (packInput pkt).toList = some pkt := by
  have hlen : ((packInput pkt).toList.take 8).length = 8 := rfl
  rw [receivedPacket, dif_pos hlen]
  exact congrArg some (unpackInput_packInput pkt)

/-- Packed datagrams are received as the packets they were packed from. -/
theorem receivedPackets_eq {out : List Event} {pkts : List InputPacket}
    (h : receivedDatagrams out = pkts.map fun pkt => (packInput pkt).toList) :
    receivedPackets out = pkts := by
  have hsome : receivedPacket ∘ (fun pkt => (packInput pkt).toList) = some :=
    funext receivedPacket_packInput
  rw [receivedPackets, h, List.filterMap_map, hsome, List.filterMap_some]

/-- The exact uplink event stream, for any packets, any interleaving of their delivery with the
pops, and any clock readings. The only hypothesis is that no request found the queue full; the
datagrams are packed packets, as the ground station sends them. -/
theorem exactStream_run (actions : List Action) (pkts : List InputPacket)
    (hpkts : receivedDatagrams (uplinkRun actions).2
      = pkts.map fun pkt => (packInput pkt).toList)
    (hroom : ∀ r ∈ requests (uplinkRun actions).2, r.outcome ≠ .full) :
    ExactStream pkts (uplinkRun actions).1 (uplinkRun actions).2 := by
  have h := runInv_run actions
  generalize (uplinkRun actions).1 = st at *
  generalize (uplinkRun actions).2 = out at *
  have hbitfields : pkts.map InputPacket.bitfield = processed out ++ st.poll.inFlight := by
    rw [← h.packets, receivedPackets_eq hpkts]
  -- The requests for a bit key alternate, so none of them repeats the last accepted event.
  have hkept : ∀ r ∈ requests out, ∀ k ∈ bitKeys, r.event.key = k.key →
      r.outcome = .accepted := by
    intro r hr k hk hkey
    exact outcome_eq_accepted h.deduplicated (h.alternates hk) (fun r' hr' _ => hroom r' hr') hr
      hkey
  constructor
  case requested =>
    rw [hbitfields, ← h.stream]
    exact ⟨_, rfl⟩
  case complete =>
    intro hbetween
    rw [hbitfields, hbetween, List.append_nil]
    exact h.requestedEvents_eq hbetween
  case popped => exact h.acceptedEvents_eq.symm
  case removed =>
    intro before r after heq hne
    have hmem : r ∈ requests out := by
      rw [heq]
      exact List.mem_append_right _ List.mem_cons_self
    -- No queue was full, so the request is a duplicate.
    have hdup : r.outcome = .duplicate := by
      cases hout : r.outcome with
      | accepted => exact absurd hout hne
      | duplicate => rfl
      | full => exact absurd hout (hroom r hmem)
    refine ⟨?_, h.deduplicated before r after heq hdup⟩
    have hstream : r.event ∈ eventStream 0 (processed out ++ st.poll.inFlight) := by
      rw [← h.stream]
      exact List.mem_append_left _ (List.mem_map_of_mem hmem)
    rcases mem_eventStream_cases hstream with ⟨k, hk, hkey⟩ | hweapon
    · exact absurd (hkept r hmem k hk hkey) hne
    · exact hweapon
  case kept => exact hkept
  case alternate =>
    intro k hk
    have haccepted : Alternates k.key (acceptedEvents (requests out)) := by
      unfold Alternates
      rw [directions_acceptedEvents fun r hr => hkept r hr k hk]
      exact h.alternates hk
    rw [h.acceptedEvents_eq] at haccepted
    exact haccepted.prefix
  case held =>
    intro hdrained k hk
    -- All requests for the key were accepted and popped.
    rw [h.poppedEvents_eq hdrained, hbitfields, hdrained.between, List.append_nil,
      ← h.held_requestedEvents hdrained.between hk, Uplink.held, Uplink.held,
      directions_acceptedEvents fun r hr => hkept r hr k hk]

/-- Weapon 1 is selected twice in a short time, and the second press is removed. -/
theorem exactStream_run_sameWeapon :
    ExactStream [⟨0x0401, 0, 0⟩, ⟨0x0001, 0, 0⟩, ⟨0x0401, 0, 0⟩]
      (uplinkRun (pollPackets (some ⟨1, 0⟩) [0x0401, 0x0001, 0x0401] ++ [.popKey, .popKey])).1
      (uplinkRun (pollPackets (some ⟨1, 0⟩) [0x0401, 0x0001, 0x0401] ++ [.popKey, .popKey])).2 :=
  exactStream_run _ _ (by decide +kernel) (by decide +kernel)

end DoomSat.Uplink
