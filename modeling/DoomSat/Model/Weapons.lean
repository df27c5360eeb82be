/-!
# `DoomSat.Model.Weapons`: the weapon that follows

`G_NextWeapon` of `g_game.c` finds the weapon for the "next weapon" and "previous weapon"
controls: it goes through `weapon_order_table` in a circle until it meets a weapon that the
player may select, or the weapon from which it started.
-/

set_option autoImplicit false

namespace DoomSat.Engine

/-- `weapontype_t`, without `wp_nochange`. -/
inductive Weapon where
  | fist
  | pistol
  | shotgun
  | chaingun
  | missile
  | plasma
  | bfg
  | chainsaw
  | supershotgun
  deriving DecidableEq, Repr

/-- The number of the weapon in `weapontype_t`. -/
def Weapon.number : Weapon → Nat
  | .fist => 0
  | .pistol => 1
  | .shotgun => 2
  | .chaingun => 3
  | .missile => 4
  | .plasma => 5
  | .bfg => 6
  | .chainsaw => 7
  | .supershotgun => 8

/-- What `G_NextWeapon` looks at: the weapons of the player, and the game. -/
structure Arsenal where
  readyweapon : Weapon
  /-- `pendingweapon`, with `none` for `wp_nochange`. -/
  pendingweapon : Option Weapon
  weaponowned : Weapon → Bool
  /-- `powers[pw_strength]` is not 0. -/
  strength : Bool
  /-- `logical_gamemission == doom`. -/
  logicalDoom : Bool
  /-- `gamemission == doom && gamemode == shareware`. -/
  shareware : Bool

/-- `weapon_order_table`: the weapons in order, with the number that selects them. -/
def weaponOrderTable : List (Weapon × Weapon) :=
  [(.fist, .fist), (.chainsaw, .fist), (.pistol, .pistol), (.shotgun, .shotgun),
    (.supershotgun, .shotgun), (.chaingun, .chaingun), (.missile, .missile),
    (.plasma, .plasma), (.bfg, .bfg)]

/-- `WeaponSelectable`. -/
def weaponSelectable (arsenal : Arsenal) (weapon : Weapon) : Bool :=
  if weapon = .supershotgun ∧ arsenal.logicalDoom then false
  else if (weapon = .plasma ∨ weapon = .bfg) ∧ arsenal.shareware then false
  else if ¬ arsenal.weaponowned weapon then false
  else if weapon = .fist ∧ arsenal.weaponowned .chainsaw ∧ ¬ arsenal.strength then false
  else true

/-- The entry of the table at an index. The indices of `G_NextWeapon` lie in the table. -/
def tableEntry (i : Nat) : Weapon × Weapon := weaponOrderTable.getD i (.fist, .fist)

/-- The index behind `i` in the given direction. -/
def stepIndex (direction : Int) (i : Nat) : Nat :=
  ((i + direction + weaponOrderTable.length) % weaponOrderTable.length).toNat

/-- The loop of `G_NextWeapon` from index `i` on. It meets `startI` after at most as many
rounds as the table has entries. -/
def cycleWeapon (arsenal : Arsenal) (direction : Int) (startI : Nat) : Nat → Nat → Nat
  | 0, i => i
  | rounds + 1, i =>
    let i := stepIndex direction i
    if i ≠ startI ∧ ¬ weaponSelectable arsenal (tableEntry i).1 then
      cycleWeapon arsenal direction startI rounds i
    else i

/-- `G_NextWeapon`: the number that selects the weapon. Every weapon is in the table, so the
call of `I_Error` is not reached. -/
def gNextWeapon (arsenal : Arsenal) (direction : Int) : Nat :=
  let weapon := arsenal.pendingweapon.getD arsenal.readyweapon
  let startI := weaponOrderTable.findIdx fun entry => entry.1 = weapon
  (tableEntry (cycleWeapon arsenal direction startI weaponOrderTable.length startI)).2.number

end DoomSat.Engine
