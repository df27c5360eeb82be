import DoomSat.Model.Controls
import DoomSat.Support.ErrorFeedback
import DoomSat.Support.Machine

/-!
# `DoomSat.Proofs.Controls.Resolution`: turning at a low resolution

For a demo without long tics, `G_BuildTiccmd` rounds each turn to a multiple of 256 and
carries the error into the next turn. `P_MovePlayer` adds the turns to the view angle of the
player.

`controlRun_lowres` compares two runs with the same controls, one with the rounding and one
without it. Their commands differ in the turns only, and these are the turns of
`Support.feed`. `lowres_keeps_angle` is the result for the player. A level load or a respawn
sets the view angle anew, and from there `P_MovePlayer` applies consecutive commands. After any
number of them the view angle differs from the exact one by less than one step of the low
resolution. The rounding error that `G_BuildTiccmd` carries goes on from one level to the next,
so the bound is half a step only for the commands from the start of the program on.
-/

set_option autoImplicit false

namespace DoomSat.Engine

open Support

/-! ### Runs of the controls -/

/-- What happens to the controls. -/
inductive ControlAction where
  /-- `D_ProcessEvents` passes an event to `G_Responder`. -/
  | event (screen : Screen) (ev : InputEvent)
  /-- `BuildNewTic` calls `G_BuildTiccmd`. -/
  | build (inputs : BuildInputs)
  /-- `G_DoLoadLevel` clears the controls. -/
  | loadLevel

/-- The controls after an action, and the command that it builds. -/
def controlStep (cfg : Config) (st : Controls) : ControlAction → Controls × List Ticcmd
  | .event screen ev => ((st.gResponder cfg screen ev).2, [])
  | .build inputs => ((gBuildTiccmd cfg inputs st).2, [(gBuildTiccmd cfg inputs st).1])
  | .loadLevel => (clearControls st, [])

/-- The configuration with the rounding of the turns on or off. -/
def Config.withLowres (cfg : Config) (lowres : Bool) : Config := { cfg with lowresTurn := lowres }

/-- The command with another turn. -/
def Ticcmd.withTurn (cmd : Ticcmd) (angleturn : Int16) : Ticcmd :=
  { cmd with angleturn := angleturn }

/-- The controls with another error of the rounding. -/
def Controls.withCarry (st : Controls) (carry : Int16) : Controls := { st with carry := carry }

/-! ### The turns as a group -/

/-- The turns modulo a full circle. -/
local instance turnGroup : AddCommGroup Int16 where
  add_assoc := Int16.add_assoc
  zero_add := Int16.zero_add
  add_zero := Int16.add_zero
  nsmul := nsmulRec
  zsmul := zsmulRec
  neg_add_cancel := Int16.add_left_neg
  add_comm := Int16.add_comm
  sub_eq_add_neg := Int16.sub_eq_add_neg

/-! ### The two runs -/

/-- The last part of `G_Responder`, which records keys and axes, does not look at the error of
the rounding. -/
theorem respond_withCarry (cfg : Config) (lowres : Bool) (st : Controls) (carry : Int16)
    (ev : InputEvent) :
    ((st.withCarry carry).respond (cfg.withLowres lowres) ev).2
      = (st.respond (cfg.withLowres false) ev).2.withCarry carry := by
  cases ev with
  | key ev =>
    obtain ⟨type, data1, data2, data3⟩ := ev
    cases type <;> rfl
  | mouse | joystick | quit => rfl

/-- `G_Responder` does not look at the error of the rounding, and the resolution of the turns is
none of its options. -/
theorem gResponder_withCarry (cfg : Config) (lowres : Bool) (screen : Screen) (st : Controls)
    (carry : Int16) (ev : InputEvent) :
    ((st.withCarry carry).gResponder (cfg.withLowres lowres) screen ev).2
      = (st.gResponder (cfg.withLowres false) screen ev).2.withCarry carry := by
  unfold Controls.gResponder
  -- The three early returns, and the part that records the event.
  split
  · rfl
  · split
    · rfl
    · split
      · rfl
      · exact respond_withCarry cfg lowres (st.requestWeapon cfg ev) carry ev

/-- The command with the rounding is the exact one with a rounded turn. The rounding is the last
thing that happens to the turn, so the definitions agree as they are. -/
theorem gBuildTiccmd_withCarry (cfg : Config) (inputs : BuildInputs) (st : Controls)
    (carry : Int16) :
    let exact := gBuildTiccmd (cfg.withLowres false) inputs st
    let desired := exact.1.angleturn + carry
    gBuildTiccmd (cfg.withLowres true) inputs (st.withCarry carry)
      = (exact.1.withTurn (quantizeTurn desired),
        exact.2.withCarry (desired - quantizeTurn desired)) := rfl

/-- The commands of two runs with the same controls differ in their turns only, which are
rounded with error feedback. The induction is over the actions, for any state and any error so
far; only a command changes the error. -/
theorem controlRun_lowres (cfg : Config) (st : Controls) (carry : Int16)
    (actions : List ControlAction) :
    let exact := run (controlStep (cfg.withLowres false)) st actions
    let turns := feed quantizeTurn carry (exact.2.map Ticcmd.angleturn)
    run (controlStep (cfg.withLowres true)) (st.withCarry carry) actions
      = (exact.1.withCarry turns.2, List.zipWith Ticcmd.withTurn exact.2 turns.1) := by
  induction actions generalizing st carry with
  | nil => rfl
  | cons action actions ih =>
    cases action with
    | event screen ev =>
      show run (controlStep (cfg.withLowres true))
        ((st.withCarry carry).gResponder (cfg.withLowres true) screen ev).2 actions = _
      rw [gResponder_withCarry, ih]
      rfl
    | loadLevel =>
      show run (controlStep (cfg.withLowres true)) ((clearControls st).withCarry carry) actions
        = _
      rw [ih]
      rfl
    | build inputs =>
      have hbuild := gBuildTiccmd_withCarry cfg inputs st carry
      dsimp only at hbuild
      simp only [run, controlStep]
      rw [hbuild, ih]
      rfl

/-! ### The view angle -/

/-- The view angle turns by the sum of two turns as by one after the other. The turns wrap at
2^16 and the angles at 2^32, which is 2^16 times as far. -/
theorem angleOfTurn_add (a b : Int16) :
    angleOfTurn (a + b) = angleOfTurn a + angleOfTurn b := by
  unfold angleOfTurn
  rw [← UInt32.ofInt_add, Int16.toInt_add, Int.shiftLeft_eq, Int.shiftLeft_eq, Int.shiftLeft_eq]
  unfold UInt32.ofInt
  congr 2
  -- The turns are equal modulo 2 ^ 16, so the angles are equal modulo 2 ^ 32.
  have hmod : (a.toInt + b.toInt).bmod (2 ^ 16) % 65536 = (a.toInt + b.toInt) % 65536 :=
    Int.bmod_emod
  omega

/-- The view angle after some commands depends on the sum of their turns. So the order of the
turns does not matter, and neither does where the rounding moved a part of them. -/
theorem foldl_turnPlayer (angle : UInt32) (cmds : List Ticcmd) :
    cmds.foldl turnPlayer angle = angle + angleOfTurn (cmds.map Ticcmd.angleturn).sum := by
  induction cmds generalizing angle with
  | nil =>
    show angle = angle + 0
    exact (UInt32.add_zero angle).symm
  | cons cmd cmds ih =>
    rw [List.foldl_cons, ih, List.map_cons, List.sum_cons, angleOfTurn_add, turnPlayer,
      UInt32.add_assoc]

/-- The turns of commands with other turns are those turns. -/
theorem map_angleturn_zipWith (cmds : List Ticcmd) (turns : List Int16)
    (h : turns.length = cmds.length) :
    (List.zipWith Ticcmd.withTurn cmds turns).map Ticcmd.angleturn = turns := by
  induction cmds generalizing turns with
  | nil => exact (List.length_eq_zero_iff.mp h).symm
  | cons cmd cmds ih =>
    cases turns with
    | nil => cases h
    | cons turn turns => exact congrArg (turn :: ·) (ih turns (Nat.succ.inj h))

/-- Only the turns are other ones: without them the commands are the same. -/
theorem map_withTurn_zipWith (cmds : List Ticcmd) (turns : List Int16)
    (h : turns.length = cmds.length) :
    (List.zipWith Ticcmd.withTurn cmds turns).map (Ticcmd.withTurn · 0)
      = cmds.map (Ticcmd.withTurn · 0) := by
  induction cmds generalizing turns with
  | nil => rfl
  | cons cmd cmds ih =>
    cases turns with
    | nil => cases h
    | cons turn turns => exact congrArg (cmd.withTurn 0 :: ·) (ih turns (Nat.succ.inj h))

/-- The mask `0xff00` clears the low byte of a number of 16 bits. -/
theorem and_highByte {n : Nat} (h : n < 65536) : n &&& 65280 = n / 256 * 256 := by
  have hdiv : n / 256 * 256 = (n >>> 8) <<< 8 := by
    rw [Nat.shiftRight_eq_div_pow, Nat.shiftLeft_eq]
  have hmask : 65280 = (2 ^ 8 - 1) <<< 8 := rfl
  rw [hdiv, hmask]
  apply Nat.eq_of_testBit_eq
  intro i
  rw [Nat.testBit_and, Nat.testBit_shiftLeft, Nat.testBit_shiftLeft, Nat.testBit_shiftRight,
    Nat.testBit_two_pow_sub_one]
  -- The low byte, the high byte, and the bits above.
  by_cases hi : 8 ≤ i
  · rcases Nat.lt_or_ge i 16 with hlt | hge
    · have hlow : i - 8 < 8 := by omega
      have hindex : 8 + (i - 8) = i := by omega
      simp [hi, hlow, hindex]
    · have hzero : n.testBit i = false :=
        Nat.testBit_lt_two_pow (h.trans_le (Nat.pow_le_pow_right Nat.two_pos hge))
      have hindex : 8 + (i - 8) = i := by omega
      simp [hzero, hindex]
  · simp [hi]

/-- A turn of 16 bits as a number from 0 on. -/
def turnNat (angleturn : Int16) : Nat := angleturn.toBitVec.toNat

/-- A turn has 16 bits. -/
theorem turnNat_lt (angleturn : Int16) : turnNat angleturn < 65536 := angleturn.toBitVec.isLt

/-- The signed turn, from its bits. -/
theorem toInt_eq_turnNat (angleturn : Int16) :
    angleturn.toInt = if 2 * turnNat angleturn < 65536 then (turnNat angleturn : Int)
      else turnNat angleturn - 65536 :=
  BitVec.toInt_eq_toNat_cond _

/-- The code rounds a turn with `(desired_angleturn + 128) & 0xff00`. In numbers this is the
nearest multiple of 256, modulo 2^16. -/
theorem turnNat_quantizeTurn (desired : Int16) :
    turnNat (quantizeTurn desired) = (turnNat desired + 128) % 65536 / 256 * 256 := by
  show (desired.toBitVec + 128#16 &&& 65280#16).toNat = _
  rw [BitVec.toNat_and, BitVec.toNat_add]
  exact and_highByte (Nat.mod_lt _ (by decide))

/-- The difference of two turns, from their bits. -/
theorem turnNat_sub (a b : Int16) :
    turnNat (a - b) = (65536 - turnNat b + turnNat a) % 65536 :=
  BitVec.toNat_sub ..

/-- A rounded turn is a multiple of 256. -/
theorem quantizeTurn_dvd (desired : Int16) : 256 ∣ (quantizeTurn desired).toInt := by
  rw [toInt_eq_turnNat, turnNat_quantizeTurn]
  split <;> omega

/-- The error of a rounding is at most half a step of the low resolution. It is the difference
of two turns of 16 bits, so it is small also where the turn itself wraps around. -/
theorem quantizeTurn_error (desired : Int16) :
    -128 ≤ (desired - quantizeTurn desired).toInt ∧
      (desired - quantizeTurn desired).toInt < 128 := by
  have hlt := turnNat_lt desired
  rw [toInt_eq_turnNat, turnNat_sub, turnNat_quantizeTurn]
  split <;> omega

/-- Two errors of the rounding differ by less than one step of the low resolution, also as
turns of 16 bits, since the difference does not wrap around. -/
theorem errors_sub {a b : Int16} (ha : -128 ≤ a.toInt ∧ a.toInt < 128)
    (hb : -128 ≤ b.toInt ∧ b.toInt < 128) :
    (a - b).toInt = a.toInt - b.toInt ∧ -256 < (a - b).toInt ∧ (a - b).toInt < 256 := by
  have hsub : (a - b).toInt = a.toInt - b.toInt := by
    rw [Int16.toInt_sub, Int.bmod_eq_of_le]
    · omega
    · omega
  exact ⟨hsub, by omega, by omega⟩

/-- Two runs with the same controls, from the start of the program: one rounds the turns to
multiples of 256, and one does not. The commands of the two runs differ in the turns only.

Let `P_MovePlayer` apply some consecutive commands of each run, from the angle at which a level
or a respawn puts the player. The angle after the rounded commands is the exact one but for an
error of less than one step of the low resolution, however many commands there are. For the
commands from the start on it is half a step at most: a later stretch starts with a rounding
error of its own, which `G_DoLoadLevel` does not clear. -/
theorem lowres_keeps_angle (cfg : Config) (actions : List ControlAction) :
    let exact := (run (controlStep (cfg.withLowres false)) Controls.start actions).2
    let rounded := (run (controlStep (cfg.withLowres true)) Controls.start actions).2
    rounded.map (Ticcmd.withTurn · 0) = exact.map (Ticcmd.withTurn · 0) ∧
      (∀ cmd ∈ rounded, 256 ∣ cmd.angleturn.toInt) ∧
      ∀ (angle : UInt32) (first count : Nat), ∃ error : Int16,
        -256 < error.toInt ∧ error.toInt < 256 ∧
        (first = 0 → -128 ≤ error.toInt ∧ error.toInt < 128) ∧
        ((rounded.drop first).take count).foldl turnPlayer angle + angleOfTurn error
          = ((exact.drop first).take count).foldl turnPlayer angle := by
  intro exact rounded
  let turns := exact.map Ticcmd.angleturn
  let roundedTurns := (feed quantizeTurn 0 turns).1
  have hrounded : rounded = List.zipWith Ticcmd.withTurn exact roundedTurns :=
    congrArg Prod.snd (controlRun_lowres cfg Controls.start 0 actions)
  have hlength : roundedTurns.length = exact.length := by
    rw [length_feed, List.length_map]
  have hturns : rounded.map Ticcmd.angleturn = roundedTurns := by
    rw [hrounded, map_angleturn_zipWith exact roundedTurns hlength]
  refine ⟨?_, ?_, fun angle first count => ?_⟩
  · rw [hrounded, map_withTurn_zipWith exact roundedTurns hlength]
  · intro cmd hcmd
    have hmem : cmd.angleturn ∈ roundedTurns := hturns ▸ List.mem_map_of_mem hcmd
    obtain ⟨desired, hround⟩ := exists_of_mem_feed quantizeTurn hmem
    rw [hround]
    exact quantizeTurn_dvd desired
  · -- The error that is carried out of the first `n` commands.
    let carry := fun n => (feed quantizeTurn 0 (turns.take n)).2
    have hcarry : ∀ n, -128 ≤ (carry n).toInt ∧ (carry n).toInt < 128 := fun n =>
      feed_error quantizeTurn (P := fun error => -128 ≤ error.toInt ∧ error.toInt < 128)
        quantizeTurn_error (by decide) (turns.take n)
    -- The error of a stretch is what is carried out of it, less what was carried into it.
    obtain ⟨hsub, hlow, hhigh⟩ := errors_sub (hcarry (first + count)) (hcarry first)
    refine ⟨carry (first + count) - carry first, hlow, hhigh, ?_, ?_⟩
    · -- From the start on nothing is carried in.
      rintro rfl
      have hzero : (carry 0).toInt = 0 := rfl
      rw [hsub, hzero, Int.sub_zero]
      exact hcarry _
    · have hexact : ((exact.drop first).take count).map Ticcmd.angleturn
          = (turns.drop first).take count := by
        rw [List.map_take, List.map_drop]
      have hstretch : ((rounded.drop first).take count).map Ticcmd.angleturn
          = (roundedTurns.drop first).take count := by
        rw [List.map_take, List.map_drop, hturns]
      rw [foldl_turnPlayer, foldl_turnPlayer, hexact, hstretch, UInt32.add_assoc,
        ← angleOfTurn_add, sum_feed_stretch]

end DoomSat.Engine
