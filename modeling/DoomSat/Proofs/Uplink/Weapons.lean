import DoomSat.Model.Engine
import DoomSat.Proofs.Uplink.Runs

/-!
# `DoomSat.Proofs.Uplink.Weapons`: the weapon keys that the engine holds

The uplink sends a press for each new weapon number, and never a release. The engine keeps a
key down until its release. So every weapon selected once stays down
(`isKeyDown_weaponKey`), and `G_BuildTiccmd` asks for the lowest of them.

`releases_iff` says when only the weapon of the last packet is down: no other weapon was
selected before. `pistol_after_shotgun` is a run in which the player selects weapon 2 and
then weapon 3, and the engine goes on asking for weapon 2.
-/

set_option autoImplicit false

namespace DoomSat.Uplink

open Support Engine

/-! ### The key state of the engine -/

/-- The engine holds the key down. -/
def isKeyDown (keys : GameKeyDown) (key : UInt16) : Bool :=
  if h : key.toNat < NUMKEYS then keys ⟨key.toNat, h⟩ else false

/-- One more event is one more step of `G_Responder`. -/
theorem gameKeyDown_concat (events : List KeyEvent) (event : KeyEvent) :
    gameKeyDown (events ++ [event]) = gResponder (gameKeyDown events) (iGetEvent event) := by
  unfold gameKeyDown
  rw [List.map_append, List.foldl_append]
  rfl

/-- A key is down after an update of its own entry or of another one. -/
theorem update_isKeyDown (keys : GameKeyDown) (pressed : Bool) {key key' : UInt16}
    (hlt : key.toNat < NUMKEYS) (hlt' : key'.toNat < NUMKEYS) :
    Function.update keys ⟨key'.toNat, hlt'⟩ pressed ⟨key.toNat, hlt⟩
      = if key' = key then pressed else keys ⟨key.toNat, hlt⟩ := by
  split
  · next h =>
    subst h
    exact Function.update_self ..
  · next h =>
    apply Function.update_of_ne
    intro heq
    exact h (UInt16.toNat_inj.mp (Fin.mk.inj heq).symm)

/-- An event changes its own key only. -/
theorem isKeyDown_gResponder (keys : GameKeyDown) (event : KeyEvent) {key : UInt16}
    (hlt : key.toNat < NUMKEYS) (hpause : key.toNat ≠ KEY_PAUSE) :
    isKeyDown (gResponder keys (iGetEvent event)) key
      = if event.key = key then event.pressed else isKeyDown keys key := by
  unfold isKeyDown
  rw [dif_pos hlt, dif_pos hlt]
  obtain ⟨key', pressed⟩ := event
  -- A key code above the key table is ignored, and so is a press of the pause key.
  cases pressed with
  | true =>
    show (if key'.toNat = KEY_PAUSE then keys
      else if h : key'.toNat < NUMKEYS then Function.update keys ⟨key'.toNat, h⟩ true
      else keys) _ = if key' = key then true else _
    split
    · next heq =>
      rw [if_neg]
      rintro rfl
      exact hpause heq
    · split
      · next hlt' => exact update_isKeyDown keys true hlt hlt'
      · next hge =>
        rw [if_neg]
        rintro rfl
        exact hge hlt
  | false =>
    show (if h : key'.toNat < NUMKEYS then Function.update keys ⟨key'.toNat, h⟩ false
      else keys) _ = if key' = key then false else _
    split
    · next hlt' => exact update_isKeyDown keys false hlt hlt'
    · next hge =>
      rw [if_neg]
      rintro rfl
      exact hge hlt

/-- The engine holds the keys whose last event was a press. The induction is on the last event,
since the engine keeps only a state and `held` looks at the end of the list. -/
theorem isKeyDown_gameKeyDown (events : List KeyEvent) {key : UInt16}
    (hlt : key.toNat < NUMKEYS) (hpause : key.toNat ≠ KEY_PAUSE) :
    isKeyDown (gameKeyDown events) key = held key events := by
  induction events using List.reverseRecOn with
  | nil =>
    unfold isKeyDown
    rw [dif_pos hlt]
    rfl
  | append_singleton events event ih =>
    rw [gameKeyDown_concat, isKeyDown_gResponder _ _ hlt hpause]
    split
    · next hkey =>
      subst hkey
      exact (held_concat_self event events).symm
    · next hkey => rw [held_concat_of_ne hkey, ih]

/-! ### The weapon keys -/

/-- Only the weapon `w` is down among the weapon keys, and the engine asks for it. Without a
weapon, none is down and the engine asks for none. -/
def HoldsWeapon (keys : GameKeyDown) (w : Nat) : Prop :=
  (∀ v, 0 < v → v < 8 → (isKeyDown keys (weaponKey v) = true ↔ v = w)) ∧
    requestedWeapon keys = if w = 0 then none else some (w - 1)

/-- A key that is never released is down once it was pressed. All its directions are presses, so
the last one is. -/
theorem held_eq_true_iff {key : UInt16} {events : List KeyEvent}
    (h : ∀ event ∈ events, event.key = key → event.pressed = true) :
    held key events = true ↔ ⟨key, true⟩ ∈ events := by
  have hall : ∀ pressed ∈ directions key events, pressed = true := by
    intro pressed hmem
    exact h _ (mem_directions.mp hmem) rfl
  rw [← mem_directions, held]
  rcases List.eq_nil_or_concat (directions key events) with hnil | ⟨before, last, hlast⟩
  · rw [hnil]
    simp
  · rw [hlast, List.concat_eq_append] at hall ⊢
    have hmem : last ∈ before ++ [last] := List.mem_append_right _ (List.mem_singleton_self last)
    rw [List.getLastD_concat, hall last hmem, ← hall last hmem]
    exact iff_of_true rfl hmem

section
variable {st : State} {out : List Event}

/-- The requests have no release of a weapon key, and no key code above `7`. -/
theorem RunInv.weapon_requests (h : RunInv st out) {v : Nat} (hv : v < 9) {event : KeyEvent}
    (hmem : event ∈ requestedEvents (requests out)) (hkey : event.key = weaponKey v) :
    v < 8 ∧ event.pressed = true := by
  have hstream : event ∈ eventStream 0 (processed out ++ st.poll.inFlight) := by
    rw [← h.stream]
    exact List.mem_append_left _ hmem
  rcases mem_eventStream_cases hstream with ⟨k, hk, hbit⟩ | ⟨w, _, hw, rfl⟩
  · exact absurd (hkey.symm.trans hbit) (weaponKey_ne k hk v hv)
  · have heq : w = v := weaponKey_inj w (Nat.lt_succ_of_lt hw) v hv hkey
    exact ⟨heq ▸ hw, rfl⟩

/-- The weapons that were selected are down, also after another one was selected. The requests
press each weapon whose number is an edge of the packets, and no request releases one. -/
theorem RunInv.held_weaponKey (h : RunInv st out) (hdrained : Drained st)
    (hroom : ∀ r ∈ requests out, r.outcome ≠ .full) {v : Nat} (hpos : 0 < v) (hv : v < 9) :
    held (weaponKey v) (poppedEvents out) = true ↔ v ∈ (processed out).map weaponField := by
  have haccepted := mem_acceptedEvents_iff h.deduplicated hroom
  have hpresses : ∀ event ∈ acceptedEvents (requests out), event.key = weaponKey v →
      event.pressed = true := by
    intro event hmem hkey
    exact (h.weapon_requests hv ((haccepted event).mp hmem) hkey).2
  -- The field has three bits, so no packet selects weapon 8.
  have hfield : v ∈ (processed out).map weaponField → v < 8 := by
    intro hmem
    obtain ⟨bitfield, _, rfl⟩ := List.mem_map.mp hmem
    exact weaponField_lt bitfield
  -- The weapon number starts at 0, so an edge is a number that was sent.
  have hedges : v ∈ edges (weaponField 0) ((processed out).map weaponField) ↔
      v ∈ (processed out).map weaponField := by
    have hcons := @mem_cons_edges _ _ (weaponField 0) v ((processed out).map weaponField)
    rw [List.mem_cons, List.mem_cons] at hcons
    have hne : v ≠ weaponField 0 := hpos.ne'
    simpa [hne] using hcons
  rw [h.poppedEvents_eq hdrained, held_eq_true_iff hpresses, haccepted,
    h.requestedEvents_eq hdrained.between]
  -- Both directions go over the event stream of the packets: a press in it is an edge, and an
  -- edge is a number that was sent.
  constructor
  · intro hmem
    have hlt : v < 8 := by
      rw [← h.requestedEvents_eq hdrained.between] at hmem
      exact (h.weapon_requests hv hmem rfl).1
    exact hedges.mp ((weaponPress_mem_eventStream 0 _ hpos hlt).mp hmem)
  · intro hmem
    exact (weaponPress_mem_eventStream 0 _ hpos (hfield hmem)).mpr (hedges.mpr hmem)

end

/-- The engine holds the weapons that were selected in the run. -/
theorem isKeyDown_weaponKey (actions : List Action)
    (hroom : ∀ r ∈ requests (uplinkRun actions).2, r.outcome ≠ .full)
    (hdrained : Drained (uplinkRun actions).1) {v : Nat} (hpos : 0 < v) (hv : v < 9) :
    isKeyDown (gameKeyDown (poppedEvents (uplinkRun actions).2)) (weaponKey v) = true ↔
      v ∈ (processed (uplinkRun actions).2).map weaponField := by
  have hrange : ∀ v, v < 9 → (weaponKey v).toNat < NUMKEYS ∧ (weaponKey v).toNat ≠ KEY_PAUSE := by
    decide
  rw [isKeyDown_gameKeyDown _ (hrange v hv).1 (hrange v hv).2]
  exact (runInv_run actions).held_weaponKey hdrained hroom hpos hv

/-- The weapon keys are the characters of the weapons 1 to 8. -/
theorem requestedWeapon_eq (keys : GameKeyDown) :
    requestedWeapon keys
      = (List.range 8).findIdx? fun i => isKeyDown keys (weaponKey (i + 1)) := rfl

/-- The engine asks for the weapon that is the only one down. It looks at the eight keys from
the lowest to the highest. -/
theorem requestedWeapon_of_only {keys : GameKeyDown} {w : Nat} (hw : w < 8)
    (h : ∀ v, 0 < v → v < 9 → (isKeyDown keys (weaponKey v) = true ↔ v = w)) :
    requestedWeapon keys = if w = 0 then none else some (w - 1) := by
  have hdown : ∀ i, i < 8 → isKeyDown keys (weaponKey (i + 1)) = decide (i + 1 = w) := by
    intro i hi
    rw [Bool.eq_iff_iff, h (i + 1) (Nat.succ_pos i) (Nat.succ_lt_succ hi), decide_eq_true_iff]
  rw [requestedWeapon_eq]
  split
  · next hzero =>
    rw [List.findIdx?_eq_none_iff]
    intro i hi
    rw [hdown i (List.mem_range.mp hi), hzero]
    rfl
  · next hne =>
    rw [List.findIdx?_eq_some_iff_getElem]
    refine ⟨by rw [List.length_range]; omega, ?_, ?_⟩
    · rw [List.getElem_range, hdown (w - 1) (by omega)]
      exact decide_eq_true (by omega)
    · intro j hj
      rw [List.getElem_range, hdown j (by omega)]
      simp only [decide_eq_true_eq]
      omega

/-- Suppose that no event found the queue full, and that the queue is drained after a packet.
Then the engine holds exactly the weapon of this packet if and only if no packet selected
another weapon. A comment in `uplink.h` promises a release for each key that was released, but
the weapon keys get none, so one more weapon is enough to break it. -/
theorem releases_iff (actions : List Action) (bitfield : UInt16)
    (hroom : ∀ r ∈ requests (uplinkRun actions).2, r.outcome ≠ .full)
    (hdrained : Drained (uplinkRun actions).1)
    (hlast : (processed (uplinkRun actions).2).getLast? = some bitfield) :
    HoldsWeapon (gameKeyDown (poppedEvents (uplinkRun actions).2)) (weaponField bitfield) ↔
      ∀ b ∈ processed (uplinkRun actions).2,
        weaponField b = 0 ∨ weaponField b = weaponField bitfield := by
  have hdown := @isKeyDown_weaponKey actions hroom hdrained
  have hmem : bitfield ∈ processed (uplinkRun actions).2 := List.mem_of_getLast? hlast
  constructor
  · -- The weapon of each packet is down, so it is the only one.
    intro h b hb
    rcases Nat.eq_zero_or_pos (weaponField b) with hzero | hpos
    · exact Or.inl hzero
    · have hlt := weaponField_lt b
      have hb' := (hdown hpos (Nat.lt_succ_of_lt hlt)).mpr (List.mem_map_of_mem hb)
      exact Or.inr ((h.1 _ hpos hlt).mp hb')
  · -- No other weapon was selected, so no other one is down.
    intro h
    have honly : ∀ v, 0 < v → v < 9 →
        (isKeyDown (gameKeyDown (poppedEvents (uplinkRun actions).2)) (weaponKey v) = true ↔
          v = weaponField bitfield) := by
      intro v hpos hv
      rw [hdown hpos hv, List.mem_map]
      constructor
      · rintro ⟨b, hb, rfl⟩
        exact (h b hb).resolve_left hpos.ne'
      · rintro rfl
        exact ⟨bitfield, hmem, rfl⟩
    exact ⟨fun v hpos hv => honly v hpos (Nat.lt_succ_of_lt hv),
      requestedWeapon_of_only (weaponField_lt bitfield) honly⟩

/-- The player selects weapon 2 and, a second later, weapon 3. -/
def twoWeapons : List Action :=
  pollPackets (some ⟨1, 0⟩) [0x0800] ++ [.popKey] ++ pollPackets (some ⟨2, 0⟩) [0x0C00]
    ++ [.popKey]

/-- Weapon 2 stays down after the player selects weapon 3, and the engine asks for it. -/
theorem pistol_after_shotgun :
    (∀ r ∈ requests (uplinkRun twoWeapons).2, r.outcome ≠ .full) ∧
    Drained (uplinkRun twoWeapons).1 ∧
    (processed (uplinkRun twoWeapons).2).getLast? = some 0x0C00 ∧
    weaponField 0x0C00 = 3 ∧
    requestedWeapon (gameKeyDown (poppedEvents (uplinkRun twoWeapons).2)) = some 1 ∧
    ¬ HoldsWeapon (gameKeyDown (poppedEvents (uplinkRun twoWeapons).2)) 3 := by
  have hasked : requestedWeapon (gameKeyDown (poppedEvents (uplinkRun twoWeapons).2)) = some 1 := by
    decide +kernel
  refine ⟨by decide +kernel, ⟨by decide +kernel, by decide +kernel⟩, by decide +kernel,
    by decide, hasked, ?_⟩
  rintro ⟨_, h⟩
  rw [hasked] at h
  exact absurd h (by decide)

/-- One weapon is selected and held. -/
theorem releases_iff_oneWeapon :
    HoldsWeapon (gameKeyDown (poppedEvents (uplinkRun
        (pollPackets (some ⟨1, 0⟩) [0, 0x0800] ++ [.popKey])).2)) (weaponField 0x0800) ↔
      ∀ b ∈ processed (uplinkRun (pollPackets (some ⟨1, 0⟩) [0, 0x0800] ++ [.popKey])).2,
        weaponField b = 0 ∨ weaponField b = weaponField 0x0800 :=
  releases_iff _ 0x0800 (by decide +kernel) ⟨by decide +kernel, by decide +kernel⟩
    (by decide +kernel)

end DoomSat.Uplink
