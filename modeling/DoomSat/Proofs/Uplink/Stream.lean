import DoomSat.Model.Uplink
import DoomSat.Support.Edges
import Mathlib.Data.Nat.Bitwise

/-!
# `DoomSat.Proofs.Uplink.Stream`: the key events of a sequence of bitfields

A bitfield has 13 bits that each stand for a key (`bitKeys`), and a weapon number
(`weaponField`). `eventStream` is the list of key events that a sequence of bitfields stands
for: for each bitfield, an event per key whose bit changed, then a press of the weapon key
when the number changed to one that is not 0.

`filterMap_pollCalls` shows that the calls of `uplink_poll` queue exactly the events of one
bitfield. Then the events of one key are the edges of its level: `directions_eventStream` for
the bit keys, and `weaponPress_mem_eventStream` for the weapons.
-/

set_option autoImplicit false

namespace DoomSat.Uplink

open Support

/-! ### The stream -/

/-- A bit of the bitfield and the key that it stands for. -/
structure BitKey where
  bit : Nat
  key : UInt16
  deriving DecidableEq

/-- The 13 keys, in the order of `uplink_poll`. -/
def bitKeys : List BitKey :=
  [⟨0, DK_UPARROW⟩, ⟨1, DK_DOWNARROW⟩, ⟨2, DK_LEFTARROW⟩, ⟨3, DK_RIGHTARROW⟩, ⟨4, DK_RCTRL⟩,
    ⟨5, DK_SPACE⟩, ⟨6, DK_COMMA⟩, ⟨7, DK_PERIOD⟩, ⟨8, DK_RSHIFT⟩, ⟨9, DK_RALT⟩,
    ⟨13, DK_ENTER⟩, ⟨14, DK_ESCAPE⟩, ⟨15, DK_Y⟩]

/-- The bitfield says that the key is down. -/
def BitKey.isSet (k : BitKey) (bitfield : UInt16) : Bool := bitfield.toNat.testBit k.bit

/-- The event of a key between two bitfields: a press when the bit was set, a release when it
was cleared. -/
def BitKey.edge (prev cur : UInt16) (k : BitKey) : Option KeyEvent :=
  if k.isSet cur = k.isSet prev then none else some ⟨k.key, k.isSet cur⟩

/-- The weapon number, in the bits 10 to 12. -/
def weaponField (bitfield : UInt16) : Nat := bitfield.toNat / 2 ^ 10 % 2 ^ 3

/-- The character of a weapon number. -/
def weaponKey (w : Nat) : UInt16 := UInt16.ofNat (0x30 + w)

/-- The weapon event between two bitfields. -/
def weaponPress (prev cur : UInt16) : Option KeyEvent :=
  if weaponField cur = 0 ∨ weaponField cur = weaponField prev then none
  else some ⟨weaponKey (weaponField cur), true⟩

/-- The events of the bitfield `cur` after `prev`. -/
def packetEvents (prev cur : UInt16) : List KeyEvent :=
  bitKeys.filterMap (BitKey.edge prev cur) ++ (weaponPress prev cur).toList

/-- The events of a sequence of bitfields after `prev`. -/
def eventStream (prev : UInt16) : List UInt16 → List KeyEvent
  | [] => []
  | cur :: bitfields => packetEvents prev cur ++ eventStream cur bitfields

/-! ### The calls of `uplink_poll` -/

/-- A mask of one bit tests this bit. The code writes `cur & mask` and compares with 0; the
model of a key speaks of `Nat.testBit`. -/
theorem and_mask_ne_zero (x mask : UInt16) {i : Nat} (hmask : mask.toNat = 2 ^ i) :
    decide (x &&& mask ≠ 0) = x.toNat.testBit i := by
  have hpos : 0 < 2 ^ i := Nat.two_pow_pos i
  -- The conjunction is the bit in its own place, so it is 0 exactly when the bit is.
  have hand : (x &&& mask).toNat = (x.toNat.testBit i).toNat * 2 ^ i := by
    rw [UInt16.toNat_and, hmask, Nat.and_two_pow]
  have hzero : x &&& mask = 0 ↔ (x &&& mask).toNat = 0 := by
    rw [← UInt16.toNat_inj, UInt16.toNat_zero]
  -- Both values of the bit.
  simp only [ne_eq, hzero, hand]
  cases x.toNat.testBit i <;> simp

/-- `process_bit` queues the edge of the key between the two bitfields. The four values of the
two bits are the four branches of the function. -/
theorem processBit_eq (prev cur mask : UInt16) (k : BitKey) (hmask : mask.toNat = 2 ^ k.bit) :
    processBit cur prev mask k.key = k.edge prev cur := by
  unfold processBit BitKey.edge BitKey.isSet
  rw [and_mask_ne_zero cur mask hmask, and_mask_ne_zero prev mask hmask]
  cases cur.toNat.testBit k.bit <;> cases prev.toNat.testBit k.bit <;> rfl

/-- The shift and the mask of `process_weapon` take out the weapon number, bits 10 to 12. -/
theorem toNat_weapon (x : UInt16) :
    ((x >>> INPUT_WEAPON_SHIFT) &&& 0x7).toNat = weaponField x := by
  rw [UInt16.toNat_and, UInt16.toNat_shiftRight]
  show x.toNat >>> 10 &&& 2 ^ 3 - 1 = _
  rw [Nat.and_two_pow_sub_one_eq_mod, Nat.shiftRight_eq_div_pow]
  rfl

/-- A weapon number has three bits. -/
theorem weaponField_lt (x : UInt16) : weaponField x < 8 := Nat.mod_lt _ (by decide)

/-- `process_weapon` queues the press of the new weapon. Its second test repeats that the number
changed, so only a change to 0 is left out. -/
theorem processWeapon_eq (prev cur : UInt16) :
    processWeapon cur prev = weaponPress prev cur := by
  unfold processWeapon weaponPress
  have hkey : 0x30 + ((cur >>> INPUT_WEAPON_SHIFT) &&& 0x7) = weaponKey (weaponField cur) := by
    rw [← toNat_weapon, weaponKey, UInt16.ofNat_add, UInt16.ofNat_toNat]
    rfl
  have hsame : (cur >>> INPUT_WEAPON_SHIFT) &&& 0x7 = (prev >>> INPUT_WEAPON_SHIFT) &&& 0x7 ↔
      weaponField cur = weaponField prev := by
    rw [← toNat_weapon, ← toNat_weapon, UInt16.toNat_inj]
  have hpos : (cur >>> INPUT_WEAPON_SHIFT) &&& 0x7 > 0 ↔ weaponField cur ≠ 0 := by
    rw [gt_iff_lt, UInt16.lt_iff_toNat_lt, toNat_weapon]
    exact Nat.pos_iff_ne_zero
  simp only [hkey, ne_eq, hsame, hpos]
  -- The branches of the function: the same number, a change to 0, and a change to a weapon.
  by_cases h : weaponField cur = weaponField prev
  · rw [if_pos h, if_pos (Or.inr h)]
  · by_cases h' : weaponField cur = 0
    · simp [h']
    · simp [h, h']

/-- The mask of a key in `uplink_poll`. -/
def BitKey.mask (k : BitKey) : UInt16 := (1 : UInt16) <<< UInt16.ofNat k.bit

/-- The calls that `uplink_poll` makes are one `process_bit` per key of `bitKeys`, with the mask
of its bit, and then `process_weapon`. -/
theorem pollCalls_eq :
    pollCalls = bitKeys.map (fun k => Call.bit k.mask k.key) ++ [Call.weapon] := rfl

/-- Each mask is the power of two of its bit. -/
theorem toNat_mask : ∀ k ∈ bitKeys, k.mask.toNat = 2 ^ k.bit := by decide

/-- The calls of `uplink_poll` for a packet queue the events of its bitfield, in the order of
`packetEvents`. This connects the code to the stream, and nothing below mentions the calls. -/
theorem filterMap_pollCalls (prev cur : UInt16) :
    pollCalls.filterMap (Call.keyEvent cur prev) = packetEvents prev cur := by
  have hbits : ∀ k ∈ bitKeys, (Call.bit k.mask k.key).keyEvent cur prev = k.edge prev cur := by
    intro k hk
    exact processBit_eq prev cur k.mask k (toNat_mask k hk)
  have hweapon : (Call.weapon).keyEvent cur prev = weaponPress prev cur :=
    processWeapon_eq prev cur
  -- The bit keys come first and the weapon last, on both sides.
  rw [pollCalls_eq, List.filterMap_append, List.filterMap_map, packetEvents]
  congr 1
  · exact List.filterMap_congr hbits
  · rw [List.filterMap_cons, hweapon]
    cases weaponPress prev cur <;> rfl

/-! ### The events of one key -/

/-- The directions of the events of one key. -/
def directions (key : UInt16) (events : List KeyEvent) : List Bool :=
  events.filterMap fun event => if event.key = key then some event.pressed else none

/-- No event, no direction. -/
@[simp] theorem directions_nil (key : UInt16) : directions key [] = [] := rfl

/-- The directions of two lists one after the other. -/
@[simp] theorem directions_append (key : UInt16) (events events' : List KeyEvent) :
    directions key (events ++ events') = directions key events ++ directions key events' :=
  List.filterMap_append

/-- An event of the key adds its direction. -/
theorem directions_cons_self (event : KeyEvent) (events : List KeyEvent) :
    directions event.key (event :: events) = event.pressed :: directions event.key events := by
  simp [directions]

/-- An event of another key adds nothing. -/
theorem directions_cons_of_ne {key : UInt16} {event : KeyEvent} (h : event.key ≠ key)
    (events : List KeyEvent) : directions key (event :: events) = directions key events := by
  simp [directions, h]

/-- A key without an event has no direction. -/
theorem directions_eq_nil {key : UInt16} {events : List KeyEvent}
    (h : ∀ event ∈ events, event.key ≠ key) : directions key events = [] := by
  rw [directions, List.filterMap_eq_nil_iff]
  intro event hmem
  rw [if_neg (h event hmem)]

/-- A press or a release in the events of a key. -/
theorem mem_directions {key : UInt16} {pressed : Bool} {events : List KeyEvent} :
    pressed ∈ directions key events ↔ (⟨key, pressed⟩ : KeyEvent) ∈ events := by
  rw [directions, List.mem_filterMap]
  constructor
  · rintro ⟨event, hmem, h⟩
    split at h
    · next hkey =>
      cases h
      rw [← hkey]
      exact hmem
    · cases h
  · intro hmem
    exact ⟨_, hmem, if_pos rfl⟩

/-- The 13 keys are different, so the events of one key come from one bit. -/
theorem nodup_keys : (bitKeys.map BitKey.key).Nodup := by decide

/-- No key of `bitKeys` is the digit of a weapon. The bound 9 leaves room for `weaponKey 8`,
which no bitfield has. -/
theorem weaponKey_ne : ∀ k ∈ bitKeys, ∀ w, w < 9 → weaponKey w ≠ k.key := by decide

/-- The event of a bit has the key of this bit. -/
theorem key_of_edge {prev cur : UInt16} {k : BitKey} {event : KeyEvent}
    (h : k.edge prev cur = some event) : event.key = k.key := by
  unfold BitKey.edge at h
  split at h
  · cases h
  · cases h
    rfl

/-- What a weapon event says: the number changed, it is not 0, and the event is the press of its
digit. There is no release. -/
theorem eq_of_weaponPress {prev cur : UInt16} {event : KeyEvent}
    (h : weaponPress prev cur = some event) :
    weaponField cur ≠ 0 ∧ weaponField cur ≠ weaponField prev ∧
      event = ⟨weaponKey (weaponField cur), true⟩ := by
  unfold weaponPress at h
  split at h
  · cases h
  · next hchange =>
    cases h
    exact ⟨fun h => hchange (Or.inl h), fun h => hchange (Or.inr h), rfl⟩

/-- The event of a key is the edge of its level: one event when the bit changed, none otherwise. -/
theorem directions_edge (prev cur : UInt16) (k : BitKey) :
    directions k.key (k.edge prev cur).toList = edges (k.isSet prev) [k.isSet cur] := by
  unfold BitKey.edge
  rw [edges_cons]
  split
  · rfl
  · exact directions_cons_self _ []

/-- In a list of keys without repetitions, each key has the events of its own bit. -/
theorem directions_filterMap_edge (prev cur : UInt16) {k : BitKey} {ks : List BitKey}
    (hnodup : (ks.map BitKey.key).Nodup) (hk : k ∈ ks) :
    directions k.key (ks.filterMap (BitKey.edge prev cur))
      = edges (k.isSet prev) [k.isSet cur] := by
  induction ks with
  | nil => cases hk
  | cons k' ks ih =>
    rw [List.map_cons, List.nodup_cons] at hnodup
    have hcons : (k' :: ks).filterMap (BitKey.edge prev cur)
        = (k'.edge prev cur).toList ++ ks.filterMap (BitKey.edge prev cur) := by
      rw [List.filterMap_cons]
      cases k'.edge prev cur <;> rfl
    rw [hcons, directions_append]
    rcases List.mem_cons.mp hk with rfl | hmem
    -- The key of the head has no event in the rest, and the other keys none at the head.
    · have hrest : directions k.key (ks.filterMap (BitKey.edge prev cur)) = [] := by
        apply directions_eq_nil
        intro event hevent hkey
        obtain ⟨k', hk', hedge⟩ := List.mem_filterMap.mp hevent
        apply hnodup.1
        rw [← hkey, key_of_edge hedge]
        exact List.mem_map_of_mem hk'
      rw [hrest, List.append_nil, directions_edge]
    · have hhead : directions k.key (k'.edge prev cur).toList = [] := by
        apply directions_eq_nil
        intro event hevent hkey
        apply hnodup.1
        rw [← key_of_edge (Option.mem_toList.mp hevent), hkey]
        exact List.mem_map_of_mem hmem
      rw [hhead, List.nil_append, ih hnodup.2 hmem]

/-- In the events of one bitfield, a bit key has the edge of its own bit and nothing else. -/
theorem directions_packetEvents (prev cur : UInt16) {k : BitKey} (hk : k ∈ bitKeys) :
    directions k.key (packetEvents prev cur) = edges (k.isSet prev) [k.isSet cur] := by
  -- No bit key has the key code of a weapon.
  have hweapon : directions k.key (weaponPress prev cur).toList = [] := by
    apply directions_eq_nil
    intro event hevent
    obtain ⟨_, _, rfl⟩ := eq_of_weaponPress (Option.mem_toList.mp hevent)
    exact weaponKey_ne k hk _ (Nat.lt_succ_of_lt (weaponField_lt cur))
  rw [packetEvents, directions_append, hweapon, List.append_nil,
    directions_filterMap_edge prev cur nodup_keys hk]

/-- The events of a bit key are the edges of its bit over the whole sequence. So they alternate
between press and release, which `RunInv.alternates` uses. -/
theorem directions_eventStream (prev : UInt16) (bitfields : List UInt16) {k : BitKey}
    (hk : k ∈ bitKeys) :
    directions k.key (eventStream prev bitfields)
      = edges (k.isSet prev) (bitfields.map k.isSet) := by
  -- The induction is over the bitfields, for any bitfield before them.
  induction bitfields generalizing prev with
  | nil => rfl
  | cons cur bitfields ih =>
    have hcons : (cur :: bitfields).map k.isSet = [k.isSet cur] ++ bitfields.map k.isSet := rfl
    rw [eventStream, directions_append, directions_packetEvents prev cur hk, ih, hcons,
      edges_append]
    rfl

/-- An event of the stream is one of a bit key, or the press of a weapon key. -/
theorem mem_eventStream_cases {prev : UInt16} {bitfields : List UInt16} {event : KeyEvent}
    (h : event ∈ eventStream prev bitfields) :
    (∃ k ∈ bitKeys, event.key = k.key) ∨
      ∃ w, 0 < w ∧ w < 8 ∧ event = ⟨weaponKey w, true⟩ := by
  -- The event comes from the first bitfield or from a later one.
  induction bitfields generalizing prev with
  | nil => cases h
  | cons cur bitfields ih =>
    rw [eventStream, List.mem_append] at h
    rcases h with h | h
    · rw [packetEvents, List.mem_append, List.mem_filterMap, Option.mem_toList] at h
      rcases h with ⟨k, hk, hedge⟩ | hweapon
      · exact Or.inl ⟨k, hk, key_of_edge hedge⟩
      · obtain ⟨hne, _, rfl⟩ := eq_of_weaponPress hweapon
        exact Or.inr ⟨_, Nat.pos_of_ne_zero hne, weaponField_lt cur, rfl⟩
    · exact ih h

/-! ### The presses of the weapon keys -/

/-- Different weapon numbers have different digits. -/
theorem weaponKey_inj :
    ∀ w, w < 9 → ∀ w', w' < 9 → weaponKey w = weaponKey w' → w = w' := by decide

/-- A bitfield queues the press of a weapon key when the number changed to this weapon. A change
back to 0 queues nothing. -/
theorem weaponPress_mem_packetEvents (prev cur : UInt16) {w : Nat} (hpos : 0 < w)
    (hlt : w < 8) :
    ⟨weaponKey w, true⟩ ∈ packetEvents prev cur ↔
      weaponField cur = w ∧ weaponField cur ≠ weaponField prev := by
  rw [packetEvents, List.mem_append, List.mem_filterMap, Option.mem_toList]
  constructor
  · -- The press is the event of a bit key, which has another key code, or the weapon event.
    rintro (⟨k, hk, hedge⟩ | hweapon)
    · exact absurd (key_of_edge hedge) (weaponKey_ne k hk w (Nat.lt_succ_of_lt hlt))
    · obtain ⟨_, hchange, heq⟩ := eq_of_weaponPress hweapon
      have hkey : weaponKey w = weaponKey (weaponField cur) := congrArg KeyEvent.key heq
      have hsame := weaponKey_inj w (Nat.lt_succ_of_lt hlt) _
        (Nat.lt_succ_of_lt (weaponField_lt cur)) hkey
      exact ⟨hsame.symm, hchange⟩
  · rintro ⟨rfl, hchange⟩
    right
    rw [weaponPress, if_neg]
    rintro (h | h)
    · exact hpos.ne' h
    · exact hchange h

/-- The presses of the weapon keys are the edges of the weapon number over the whole sequence. -/
theorem weaponPress_mem_eventStream (prev : UInt16) (bitfields : List UInt16) {w : Nat}
    (hpos : 0 < w) (hlt : w < 8) :
    ⟨weaponKey w, true⟩ ∈ eventStream prev bitfields ↔
      w ∈ edges (weaponField prev) (bitfields.map weaponField) := by
  induction bitfields generalizing prev with
  | nil => simp [eventStream]
  | cons cur bitfields ih =>
    rw [eventStream, List.mem_append, weaponPress_mem_packetEvents prev cur hpos hlt, ih,
      List.map_cons, edges_cons]
    -- The first bitfield repeats the number before it, or it changes it.
    split
    · next h =>
      rw [h]
      simp
    · next h =>
      rw [List.mem_cons, eq_comm]
      simp [h]

/-! ### The stream of a concatenation -/

/-- The stream of a concatenation: the second part starts after the last bitfield of the first.
`RunInv.receive` uses it with one bitfield more. -/
theorem eventStream_append (prev : UInt16) (bitfields bitfields' : List UInt16) :
    eventStream prev (bitfields ++ bitfields')
      = eventStream prev bitfields ++ eventStream (bitfields.getLastD prev) bitfields' := by
  induction bitfields generalizing prev with
  | nil => rfl
  | cons cur bitfields ih =>
    rw [List.cons_append, eventStream, eventStream, ih, List.getLastD_cons, List.append_assoc]

/-- A bitfield that repeats the one before has no events: no bit and no weapon number changed. -/
theorem packetEvents_self (bitfield : UInt16) : packetEvents bitfield bitfield = [] := by
  have hbits : bitKeys.filterMap (BitKey.edge bitfield bitfield) = [] := by
    rw [List.filterMap_eq_nil_iff]
    intro k _
    exact if_pos rfl
  have hweapon : weaponPress bitfield bitfield = none := if_pos (Or.inr rfl)
  rw [packetEvents, hbits, hweapon]
  rfl

end DoomSat.Uplink
