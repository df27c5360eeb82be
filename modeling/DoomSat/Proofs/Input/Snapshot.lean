import DoomSat.Model.Input
import DoomSat.Proofs.Uplink.Stream

/-!
# `DoomSat.Proofs.Input.Snapshot`: the keys in a bitfield of the ground station

`input_poll` puts the keyboard into a bitfield, and `uplink_poll` takes the keys out of it.
`map_isSet_snapshot` says that the two agree: each of the 13 bits is the state of its keys,
whatever weapon is in the bits between them.
-/

set_option autoImplicit false

namespace DoomSat.Input

open Uplink (BitKey bitKeys)

/-- A bit after one more key. -/
theorem isSet_orIf (k : BitKey) (down : Bool) (bit newBf : UInt16) :
    k.isSet (orIf down bit newBf) = (k.isSet newBf || (down && k.isSet bit)) := by
  unfold BitKey.isSet orIf
  cases down with
  | true =>
    rw [if_pos rfl, UInt16.toNat_or, Nat.testBit_or, Bool.true_and]
  | false => rw [if_neg Bool.false_ne_true, Bool.false_and, Bool.or_false]

/-- The bits of a weapon number. -/
theorem isSet_weapon (k : BitKey) (w : UInt16) (hk : k.bit < 10 ∨ 13 ≤ k.bit) :
    k.isSet ((w &&& 0x7) <<< INPUT_WEAPON_SHIFT) = false := by
  have hw : w.toNat &&& 7 ≤ 7 := Nat.and_le_right
  have hvalue : ((w &&& 0x7) <<< INPUT_WEAPON_SHIFT).toNat = (w.toNat &&& 7) * 2 ^ 10 := by
    rw [UInt16.toNat_shiftLeft, UInt16.toNat_and]
    show (w.toNat &&& 7) <<< 10 % 2 ^ 16 = _
    rw [Nat.shiftLeft_eq]
    omega
  unfold BitKey.isSet
  rw [hvalue]
  rcases hk with hlow | hhigh
  · rw [Nat.testBit_mul_two_pow]
    simp [hlow]
  · have hlt : (w.toNat &&& 7) * 2 ^ 10 < 2 ^ 13 := by omega
    exact Nat.testBit_lt_two_pow
      (Nat.lt_of_lt_of_le hlt (Nat.pow_le_pow_right Nat.two_pos hhigh))

/-- The weapon does not touch the bits of the keys. -/
theorem isSet_orWeapon (ks : Keyboard) (k : BitKey) (hk : k.bit < 10 ∨ 13 ≤ k.bit)
    (scs : List Scancode) (w : Nat) (newBf : UInt16) :
    k.isSet (orWeapon ks scs w newBf) = k.isSet newBf := by
  induction scs generalizing w with
  | nil => rfl
  | cons sc scs ih =>
    unfold orWeapon
    split
    · have hweapon := isSet_weapon k (UInt16.ofNat (w + 1)) hk
      unfold BitKey.isSet at hweapon ⊢
      rw [UInt16.toNat_or, Nat.testBit_or, hweapon, Bool.or_false]
    · exact ih (w + 1)

/-- The bits of the keys, in the order of `uplink_poll`. -/
theorem map_isSet_snapshot (ks : Keyboard) :
    bitKeys.map (fun k => k.isSet (snapshot ks))
      = [ks .up, ks .down, ks .left, ks .right, ks .lctrl || ks .rctrl, ks .space, ks .comma,
        ks .period, ks .lshift || ks .rshift, ks .lalt || ks .ralt,
        ks .returnKey || ks .kpEnter, ks .escape, ks .y] := by
  have hbits : ∀ k ∈ bitKeys, k.bit < 10 ∨ 13 ≤ k.bit := by decide
  have hkeys : bitKeys.map (fun k => k.isSet (snapshot ks)) = bitKeys.map fun k => _ :=
    List.map_congr_left fun k hk => isSet_orWeapon ks k (hbits k hk) weaponSc 0 _
  rw [hkeys]
  simp only [isSet_orIf]
  simp [bitKeys, BitKey.isSet, Nat.testBit_eq_decide_div_mod_eq, INPUT_BIT_FORWARD,
    INPUT_BIT_BACKWARD, INPUT_BIT_LEFT, INPUT_BIT_RIGHT, INPUT_BIT_FIRE, INPUT_BIT_USE,
    INPUT_BIT_SLEFT, INPUT_BIT_SRIGHT, INPUT_BIT_RUN, INPUT_BIT_STRAFE, INPUT_BIT_ENTER,
    INPUT_BIT_ESCAPE, INPUT_BIT_Y]

end DoomSat.Input
