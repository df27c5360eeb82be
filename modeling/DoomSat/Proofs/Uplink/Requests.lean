import DoomSat.Proofs.Uplink.Stream
import Mathlib.Algebra.Group.Nat.Even
import Mathlib.Data.List.DropRight

/-!
# `DoomSat.Proofs.Uplink.Requests`: which key events reach the queue

A `Request` is a call of `enqueue_key_event` with the way it ended. A list of requests is a
history of the key queue, and this module needs no other part of the program.

`Deduplicated` says what the deduplication removes: an event that repeats the last accepted
one. A key whose requests alternate between press and release never repeats. So the
deduplication is harmless for it (`outcome_eq_accepted`), and only a full queue can separate
the key that its observer sees from the key of the requests. `held_eq_iff` gives the exact
condition: the number of its requests that a full queue discarded, since the last one that
was not discarded, is even.
-/

set_option autoImplicit false

namespace DoomSat.Uplink

open Support

/-- A call of `enqueue_key_event` and how it ended. -/
structure Request where
  event : KeyEvent
  outcome : Outcome
  deriving DecidableEq

/-- The events of the requests. -/
def requestedEvents (requests : List Request) : List KeyEvent := requests.map Request.event

/-- The events that went into the queue. -/
def acceptedEvents (requests : List Request) : List KeyEvent :=
  requests.filterMap fun r => if r.outcome = .accepted then some r.event else none

/-- The key is down for an observer of these events: the last one was a press. -/
def held (key : UInt16) (events : List KeyEvent) : Bool :=
  (directions key events).getLastD false

/-- The number of requests for the key that found the queue full, since the last one that did
not. -/
def discarded (key : UInt16) (requests : List Request) : Nat :=
  ((requests.filter fun r => r.event.key = key).rtakeWhile fun r => r.outcome = .full).length

/-- Each removed duplicate repeats the event that was accepted last. -/
def Deduplicated (requests : List Request) : Prop :=
  ∀ before r after, requests = before ++ r :: after → r.outcome = .duplicate →
    (acceptedEvents before).getLast? = some r.event

/-! ### One more request -/

/-- The requests of two histories one after the other. -/
@[simp] theorem requestedEvents_append (requests requests' : List Request) :
    requestedEvents (requests ++ requests')
      = requestedEvents requests ++ requestedEvents requests' :=
  List.map_append

/-- The accepted events of two histories one after the other. -/
@[simp] theorem acceptedEvents_append (requests requests' : List Request) :
    acceptedEvents (requests ++ requests')
      = acceptedEvents requests ++ acceptedEvents requests' :=
  List.filterMap_append

/-- An accepted request adds its event. -/
theorem acceptedEvents_singleton {r : Request} (h : r.outcome = .accepted) :
    acceptedEvents [r] = [r.event] := by
  simp [acceptedEvents, h]

/-- A refused request adds nothing to the queue. -/
theorem acceptedEvents_singleton_of_ne {r : Request} (h : r.outcome ≠ .accepted) :
    acceptedEvents [r] = [] := by
  simp [acceptedEvents, h]

/-- After an event of the key, the observer sees its direction. -/
theorem held_concat_self (event : KeyEvent) (events : List KeyEvent) :
    held event.key (events ++ [event]) = event.pressed := by
  rw [held, directions_append, directions_cons_self, directions_nil, List.getLastD_concat]

/-- An event of another key leaves what the observer sees. -/
theorem held_concat_of_ne {key : UInt16} {event : KeyEvent} (h : event.key ≠ key)
    (events : List KeyEvent) : held key (events ++ [event]) = held key events := by
  rw [held, directions_append, directions_cons_of_ne h, directions_nil, List.append_nil, held]

/-- A request for another key leaves the count. The count looks only at the requests for the
key. -/
theorem discarded_concat_of_ne {key : UInt16} {r : Request} (h : r.event.key ≠ key)
    (requests : List Request) : discarded key (requests ++ [r]) = discarded key requests := by
  simp [discarded, List.filter_append, h]

/-- A full queue adds one to the count of the key. -/
theorem discarded_concat_full {r : Request} (h : r.outcome = .full)
    (requests : List Request) :
    discarded r.event.key (requests ++ [r]) = discarded r.event.key requests + 1 := by
  simp [discarded, h]

/-- Any other outcome sets the count back: it is the last request that was not discarded. -/
theorem discarded_concat_of_ne_full {r : Request} (h : r.outcome ≠ .full)
    (requests : List Request) : discarded r.event.key (requests ++ [r]) = 0 := by
  simp [discarded, h]

/-- A key that no full queue discarded has no discarded request. This is the case of a run
without a full queue. -/
theorem discarded_eq_zero {key : UInt16} {requests : List Request}
    (hroom : ∀ r ∈ requests, r.event.key = key → r.outcome ≠ .full) :
    discarded key requests = 0 := by
  rw [discarded, List.length_eq_zero_iff, List.rtakeWhile_eq_nil_iff]
  intro hne hfull
  have hmem := List.mem_filter.mp (List.getLast_mem hne)
  exact hroom _ hmem.1 (of_decide_eq_true hmem.2) (of_decide_eq_true hfull)

/-- A prefix of a history has removed its duplicates for the same reason. -/
theorem Deduplicated.prefix {requests requests' : List Request}
    (h : Deduplicated (requests ++ requests')) : Deduplicated requests := by
  intro before r after heq
  apply h before r (after ++ requests')
  rw [heq, List.append_assoc, List.cons_append]

/-- One more request: if it is a duplicate, it must repeat the event accepted last. This is the
step of the invariant in `DoomSat.Proofs.Uplink.Runs`. -/
theorem Deduplicated.concat {requests : List Request} (h : Deduplicated requests) {r : Request}
    (hr : r.outcome = .duplicate → (acceptedEvents requests).getLast? = some r.event) :
    Deduplicated (requests ++ [r]) := by
  intro before r' after heq
  -- The duplicate is the new request, or it lies in the history before it.
  rcases List.eq_nil_or_concat after with rfl | ⟨after, last, rfl⟩
  · obtain ⟨rfl, hlast⟩ := List.append_inj' heq rfl
    cases hlast
    exact hr
  · rw [List.concat_eq_append, ← List.cons_append, ← List.append_assoc] at heq
    obtain ⟨rfl, _⟩ := List.append_inj' heq rfl
    exact h before r' after rfl

/-- An observer whose last event is the press of a key sees it down, and up after its release. -/
theorem held_of_getLast {event : KeyEvent} {events : List KeyEvent}
    (h : events.getLast? = some event) : held event.key events = event.pressed := by
  obtain ⟨events, rfl⟩ := List.getLast?_eq_some_iff.mp h
  exact held_concat_self event events

/-! ### A key whose requests alternate -/

/-- The requests for a key alternate between press and release, with a press first. -/
def Alternates (key : UInt16) (events : List KeyEvent) : Prop :=
  (false :: directions key events).IsChain (· ≠ ·)

/-- A prefix of alternating requests alternates. -/
theorem Alternates.prefix {key : UInt16} {events events' : List KeyEvent}
    (h : Alternates key (events ++ events')) : Alternates key events := by
  unfold Alternates at *
  rw [directions_append, ← List.cons_append] at h
  exact h.left_of_append

/-- The next request for an alternating key changes it: it is not the direction the key has now. -/
theorem Alternates.ne {event : KeyEvent} {events : List KeyEvent}
    (h : Alternates event.key (events ++ [event])) : held event.key events ≠ event.pressed := by
  unfold Alternates at h
  rw [directions_append, directions_cons_self, directions_nil, ← List.cons_append,
    List.isChain_append] at h
  apply h.2.2
  · rw [held, List.getLastD_eq_getLast?, List.getLast?_cons]
    rfl
  · rfl

/-- An observer of the queue sees the state of an alternating key exactly when an even number of
its requests was discarded since the last one that was not.

The induction adds one request at the end. A request that is not discarded brings the observer
up to date: it is accepted, or it repeats what the observer saw last. A discarded one turns the
key over and leaves the observer, so the parity changes. -/
theorem held_eq_iff {key : UInt16} {requests : List Request} (hdedup : Deduplicated requests)
    (halt : Alternates key (requestedEvents requests)) :
    held key (acceptedEvents requests) = held key (requestedEvents requests) ↔
      Even (discarded key requests) := by
  induction requests using List.reverseRecOn with
  | nil => simp [discarded, acceptedEvents, requestedEvents]
  | append_singleton requests r ih =>
    rw [requestedEvents_append] at halt
    have ih := ih hdedup.prefix halt.prefix
    have hevents : requestedEvents [r] = [r.event] := rfl
    rw [acceptedEvents_append, requestedEvents_append, hevents]
    by_cases hkey : r.event.key = key
    · subst hkey
      have hchange := halt.ne
      rw [held_concat_self]
      -- A request for the key itself: the three ways in which it ends.
      cases hout : r.outcome with
      | accepted =>
        rw [acceptedEvents_singleton hout, held_concat_self,
          discarded_concat_of_ne_full (by rw [hout]; decide)]
        simp
      | duplicate =>
        have hlast := hdedup requests r [] rfl hout
        rw [acceptedEvents_singleton_of_ne (by rw [hout]; decide), List.append_nil,
          held_of_getLast hlast, discarded_concat_of_ne_full (by rw [hout]; decide)]
        simp
      | full =>
        rw [acceptedEvents_singleton_of_ne (by rw [hout]; decide), List.append_nil,
          discarded_concat_full hout, Nat.even_add_one, ← ih]
        -- The key of the requests turns over, and the observer does not see it.
        revert hchange
        generalize held r.event.key (acceptedEvents requests) = seen
        generalize held r.event.key (requestedEvents requests) = before
        generalize r.event.pressed = after
        revert seen before after
        decide
    · -- A request for another key changes neither side.
      rw [held_concat_of_ne hkey, discarded_concat_of_ne hkey]
      by_cases hout : r.outcome = .accepted
      · rw [acceptedEvents_singleton hout, held_concat_of_ne hkey]
        exact ih
      · rw [acceptedEvents_singleton_of_ne hout, List.append_nil]
        exact ih

/-- Without a full queue, every request for an alternating key is accepted: it never repeats the
event accepted last. Otherwise the observer would see the direction that is requested, and by
`held_eq_iff` the key would have it already. -/
theorem outcome_eq_accepted {key : UInt16} {requests : List Request}
    (hdedup : Deduplicated requests) (halt : Alternates key (requestedEvents requests))
    (hroom : ∀ r ∈ requests, r.event.key = key → r.outcome ≠ .full) {r : Request}
    (hmem : r ∈ requests) (hkey : r.event.key = key) : r.outcome = .accepted := by
  obtain ⟨before, after, rfl⟩ := List.append_of_mem hmem
  cases hout : r.outcome with
  | accepted => rfl
  | full => exact absurd hout (hroom r hmem hkey)
  | duplicate =>
    exfalso
    subst hkey
    -- No request before it was discarded, so the observer knows the key. The duplicate
    -- repeats what the observer saw last, and an alternating key never does.
    have hbefore : ∀ r' ∈ before, r'.event.key = r.event.key → r'.outcome ≠ .full := by
      intro r' hr'
      exact hroom r' (List.mem_append_left _ hr')
    rw [← List.singleton_append, ← List.append_assoc, requestedEvents_append,
      requestedEvents_append] at halt
    have hsame := (held_eq_iff hdedup.prefix halt.prefix.prefix).mpr
      (by rw [discarded_eq_zero hbefore]; decide)
    rw [held_of_getLast (hdedup before r after rfl hout)] at hsame
    exact halt.prefix.ne hsame.symm

/-- When all requests for a key are accepted, the queue has the events of the requests. The
outcomes of the other keys do not matter. -/
theorem directions_acceptedEvents {key : UInt16} {requests : List Request}
    (h : ∀ r ∈ requests, r.event.key = key → r.outcome = .accepted) :
    directions key (acceptedEvents requests) = directions key (requestedEvents requests) := by
  induction requests with
  | nil => rfl
  | cons r requests ih =>
    have ih := ih fun r' hr' => h r' (List.mem_cons_of_mem r hr')
    rw [← List.singleton_append, acceptedEvents_append, requestedEvents_append,
      directions_append, directions_append, ih]
    congr 1
    -- A request for the key is accepted, and any other one has no direction of the key.
    by_cases hkey : r.event.key = key
    · rw [acceptedEvents_singleton (h r List.mem_cons_self hkey)]
      rfl
    · by_cases hout : r.outcome = .accepted
      · rw [acceptedEvents_singleton hout]
        rfl
      · rw [acceptedEvents_singleton_of_ne hout]
        exact (directions_cons_of_ne hkey []).symm

/-- Without a full queue, an event is requested exactly when it is accepted at some point. A
removed duplicate was accepted before, so nothing is missing from the queue as a set. -/
theorem mem_acceptedEvents_iff {requests : List Request} (hdedup : Deduplicated requests)
    (hroom : ∀ r ∈ requests, r.outcome ≠ .full) (event : KeyEvent) :
    event ∈ acceptedEvents requests ↔ event ∈ requestedEvents requests := by
  induction requests using List.reverseRecOn with
  | nil => rfl
  | append_singleton requests r ih =>
    have ih := ih hdedup.prefix fun r' hr' => hroom r' (List.mem_append_left _ hr')
    have hevents : requestedEvents [r] = [r.event] := rfl
    rw [acceptedEvents_append, requestedEvents_append, hevents, List.mem_append, List.mem_append,
      ih]
    cases hout : r.outcome with
    | accepted => rw [acceptedEvents_singleton hout]
    | full => exact absurd hout (hroom r (List.mem_append_right _ (List.mem_singleton_self r)))
    | duplicate =>
      -- The removed event is the one accepted last, so it is there already.
      have hlast := List.mem_of_getLast? (hdedup requests r [] rfl hout)
      rw [acceptedEvents_singleton_of_ne (by rw [hout]; decide), List.mem_singleton]
      constructor
      · rintro (h | h)
        · exact Or.inl h
        · cases h
      · rintro (h | rfl)
        · exact Or.inl h
        · exact Or.inl (ih.mp hlast)

end DoomSat.Uplink
