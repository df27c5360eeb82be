import DoomSat.Proofs.Controls.Resolution
import DoomSat.Proofs.Demo.Recording

/-!
# `DoomSat.Proofs.Controls.Movement`: how far a command moves the player

`G_BuildTiccmd` keeps the movement between two limits and stores it in a byte with a sign.
The option `-turbo` scales the limits, up to 200, and the byte ends at 127.

`gBuildTiccmd_moves` is the case of limits that fit. `turbo_moves_iff` is the result for
`-turbo`: up to 255 percent every command moves as far as the controls ask, and from 256
percent on one command moves the wrong way, and a demo takes it for its end.
-/

set_option autoImplicit false

namespace DoomSat.Engine

open Support

/-! ### The limits -/

/-- A clamped movement is within the limits. -/
theorem clampTo_bounds {limit : Int} (h : 0 ≤ limit) (n : Int) :
    -limit ≤ clampTo limit n ∧ clampTo limit n ≤ limit := by
  unfold clampTo
  split
  · omega
  · split <;> omega

/-- A movement within limits that fit in the byte stays as it is. The byte has a sign, so its
largest value is 127. -/
theorem toInt_ofInt_clampTo {limit : Int} (h : 0 ≤ limit) (hlimit : limit ≤ 127) (n : Int) :
    (Int8.ofInt (clampTo limit n)).toInt = clampTo limit n := by
  have hbounds := clampTo_bounds h n
  refine Int8.toInt_ofInt_of_le ?_ ?_
  · show (-128 : Int) ≤ _
    omega
  · show _ < (128 : Int)
    omega

/-- The one movement that looks like the end of a demo is 128 backwards. -/
theorem isMarker_iff (cmd : Ticcmd) : IsMarker cmd ↔ cmd.forwardmove = -128 := by
  constructor
  · intro h
    have hbyte : cmd.forwardmove.toUInt8.toInt8 = DEMOMARKER.toInt8 := congrArg UInt8.toInt8 h
    rw [Int8.toInt8_toUInt8] at hbyte
    exact hbyte
  · intro h
    show cmd.forwardmove.toUInt8 = DEMOMARKER
    rw [h]
    rfl

/-- The command moves as far as the controls ask, within the limits. -/
def MovesAsAsked (cfg : Config) (st : Controls) (cmd : Ticcmd) : Prop :=
  cmd.forwardmove.toInt = clampTo (cfg.forwardmove true) (st.forwardSum cfg) ∧
    cmd.sidemove.toInt = clampTo (cfg.forwardmove true) (st.sideSum cfg)

/-- With limits that fit in the byte, every command moves as asked. -/
theorem gBuildTiccmd_moves {cfg : Config} (hpos : 0 ≤ cfg.forwardmove true)
    (hlimit : cfg.forwardmove true ≤ 127) (inputs : BuildInputs) (st : Controls) :
    MovesAsAsked cfg st (gBuildTiccmd cfg inputs st).1 :=
  ⟨toInt_ofInt_clampTo hpos hlimit _, toInt_ofInt_clampTo hpos hlimit _⟩

/-- With limits that fit in the byte, no command looks like the end of a demo. The least
movement is then -127, and the marker reads as -128. -/
theorem gBuildTiccmd_not_marker {cfg : Config} (hpos : 0 ≤ cfg.forwardmove true)
    (hlimit : cfg.forwardmove true ≤ 127) (inputs : BuildInputs) (st : Controls) :
    ¬ IsMarker (gBuildTiccmd cfg inputs st).1 := by
  rw [isMarker_iff]
  intro heq
  have hmoves := (gBuildTiccmd_moves hpos hlimit inputs st).1
  rw [heq] at hmoves
  have hbounds := clampTo_bounds hpos (st.forwardSum cfg)
  rw [← hmoves] at hbounds
  have hleast : (-128 : Int8).toInt = -128 := rfl
  omega

/-- What holds of every command that `G_BuildTiccmd` builds holds of the commands of a run. -/
theorem forall_controlRun {cfg : Config} {P : Ticcmd → Prop}
    (hbuild : ∀ inputs st, P (gBuildTiccmd cfg inputs st).1) (st : Controls)
    (actions : List ControlAction) : ∀ cmd ∈ (run (controlStep cfg) st actions).2, P cmd := by
  refine run_invariant (controlStep cfg) (fun _ out => ∀ cmd ∈ out, P cmd) nofun ?_ actions
  intro st out action hout cmd hcmd
  rcases List.mem_append.mp hcmd with hold | hnew
  · exact hout cmd hold
  · cases action with
    | event | loadLevel => cases hnew
    | build inputs =>
      rw [List.mem_singleton.mp hnew]
      exact hbuild inputs st

/-! ### The option `-turbo` -/

/-- The configuration of a game with `-turbo`. -/
def Config.withTurbo (cfg : Config) (scale : Int) : Config :=
  { cfg with
    forwardmove := turbo scale forwardmoveTable
    sidemove := turbo scale sidemoveTable }

/-- The limit of the movement with `-turbo`. The scale is limited to 400 percent first, and the
running speed is 50, so 255 percent give 127 and 256 percent give 128. -/
theorem turbo_limit (scale : Int) :
    0 ≤ turbo scale forwardmoveTable true ∧
      (turbo scale forwardmoveTable true ≤ 127 ↔ scale < 256) := by
  have hscale : 10 ≤ turboScale scale ∧ (turboScale scale < 256 ↔ scale < 256) := by
    unfold turboScale
    dsimp only
    split <;> split <;> omega
  have hlimit : turbo scale forwardmoveTable true = 50 * turboScale scale / 100 :=
    Int.tdiv_eq_ediv_of_nonneg (by show 0 ≤ 50 * turboScale scale; omega)
  omega

/-- The controls that a program with this configuration can have. -/
def ReachableControls (cfg : Config) (st : Controls) : Prop :=
  ∃ actions, st = (run (controlStep cfg) Controls.start actions).1

/-- No button goes down for a mask of 0. -/
theorem setButtons_zero {n : Nat} (prevweapon nextweapon : Option (Fin n)) (nextWeapon : Int) :
    (setButtons prevweapon nextweapon 0 (fun _ => false) nextWeapon).1 = fun _ => false := by
  unfold setButtons
  simp only [UInt32.toNat_zero, Nat.zero_testBit, Bool.false_eq_true, and_false, if_false]
  induction List.finRange n with
  | nil => rfl
  | cons i buttons ih =>
    have hup : Function.update (fun _ : Fin n => false) i false = fun _ => false :=
      Function.update_eq_self ..
    rw [List.foldl_cons, hup]
    exact ih

/-- A screen on which `G_Responder` takes the events. -/
def levelScreen : Screen where
  gamestate := .level
  noAction := false
  singledemo := false
  demoplayback := false
  deathmatch := true
  keySpy := 0
  eaten _ := false

/-- A player with a pistol, outside the level. -/
def pistolInputs : BuildInputs where
  consistancy := 0
  chatchar := 0
  inLevel := false
  arsenal := {
    readyweapon := .pistol
    pendingweapon := none
    weaponowned := fun weapon => weapon = .pistol
    strength := false
    logicalDoom := false
    shareware := true }

/-- A move of the mouse is a movement of the player. At the default sensitivity it is a movement
of the same size, for any size. -/
theorem exists_forwardSum_eq {cfg : Config} (hmouse : cfg.mouseSensitivity = 5) (y : Int) :
    ∃ st, ReachableControls cfg st ∧ st.forwardSum cfg = y := by
  let st := (Controls.start.gResponder cfg levelScreen (.mouse 0 0 y)).2
  -- The event of the mouse is not a press, so it asks for no weapon.
  have hst : st
      = ((Controls.start.requestWeapon cfg (.mouse 0 0 y)).respond cfg (.mouse 0 0 y)).2 := by
    simp [st, Controls.gResponder, levelScreen, InputEvent.isPress]
  have hmousey : st.mousey = y := by
    rw [hst]
    show (y * (cfg.mouseSensitivity + 5)).tdiv 10 = y
    rw [hmouse]
    exact Int.mul_tdiv_cancel y (by decide)
  have hbuttons : st.mousebuttons = fun _ => false := by
    rw [hst]
    exact setButtons_zero ..
  have hkeys : st.gamekeydown = noKeyDown := by
    rw [hst]
    rfl
  have hjoy : st.joyymove = 0 := by
    rw [hst]
    rfl
  have hkeyUp : ∀ control, st.keyDown cfg control = false := by
    intro control
    unfold Controls.keyDown
    rw [hkeys]
    rfl
  have hmouseUp : ∀ control, st.mouseDown cfg control = false := by
    intro control
    unfold Controls.mouseDown
    rw [hbuttons]
    cases cfg.mouseb control <;> rfl
  refine ⟨st, ⟨[.event levelScreen (.mouse 0 0 y)], rfl⟩, ?_⟩
  simp [Controls.forwardSum, hkeyUp, hmouseUp, hjoy, hmousey, moveIf, joyAxis]

/-- From 256 percent on, a move of the mouse by 128 moves the player the wrong way: the limit
lets 128 through, and the byte holds it as -128. -/
theorem exists_wrapped (cfg : Config) {scale : Int} (hmouse : cfg.mouseSensitivity = 5)
    (hscale : 256 ≤ scale) :
    ∃ st, ReachableControls (cfg.withTurbo scale) st ∧
      clampTo ((cfg.withTurbo scale).forwardmove true) (st.forwardSum (cfg.withTurbo scale))
        = 128 ∧
      ∀ inputs, (gBuildTiccmd (cfg.withTurbo scale) inputs st).1.forwardmove = -128 := by
  obtain ⟨-, hlimit⟩ := turbo_limit scale
  have hover : 128 ≤ (cfg.withTurbo scale).forwardmove true := by
    show 128 ≤ turbo scale forwardmoveTable true
    omega
  obtain ⟨st, hst, hsum⟩ := @exists_forwardSum_eq (cfg.withTurbo scale) hmouse 128
  have hclamp : clampTo ((cfg.withTurbo scale).forwardmove true)
      (st.forwardSum (cfg.withTurbo scale)) = 128 := by
    rw [hsum, clampTo, if_neg (by omega), if_neg (by omega)]
  refine ⟨st, hst, hclamp, fun inputs => ?_⟩
  show Int8.ofInt (clampTo _ _) = -128
  rw [hclamp]
  rfl

/-- A game with `-turbo` moves the player as the controls ask, whatever they do, up to 255
percent and not beyond. Up to there, and not beyond, no command ends a demo. Both failures have
the same cause, the movement of 128 that a byte with a sign holds as -128. -/
theorem turbo_moves_iff (cfg : Config) (scale : Int) (hmouse : cfg.mouseSensitivity = 5) :
    ((∀ st, ReachableControls (cfg.withTurbo scale) st → ∀ inputs,
        MovesAsAsked (cfg.withTurbo scale) st
          (gBuildTiccmd (cfg.withTurbo scale) inputs st).1) ↔
      scale < 256) ∧
    ((∀ st, ReachableControls (cfg.withTurbo scale) st → ∀ inputs,
        ¬ IsMarker (gBuildTiccmd (cfg.withTurbo scale) inputs st).1) ↔
      scale < 256) := by
  obtain ⟨hpos, hlimit⟩ := turbo_limit scale
  refine ⟨⟨fun h => ?_, fun h st _ inputs => ?_⟩, ⟨fun h => ?_, fun h st _ inputs => ?_⟩⟩
  · -- The command that wraps moves by -128, and the controls ask for 128.
    by_contra hscale
    obtain ⟨st, hst, hclamp, hwrapped⟩ := exists_wrapped cfg hmouse (not_lt.mp hscale)
    have hmoves := (h st hst pistolInputs).1
    rw [hclamp, hwrapped] at hmoves
    exact absurd hmoves (by decide)
  · exact gBuildTiccmd_moves hpos (hlimit.mpr h) inputs st
  · -- The same command, as the demo sees it.
    by_contra hscale
    obtain ⟨st, hst, -, hwrapped⟩ := exists_wrapped cfg hmouse (not_lt.mp hscale)
    exact h st hst pistolInputs ((isMarker_iff _).mpr (hwrapped pistolInputs))
  · exact gBuildTiccmd_not_marker hpos (hlimit.mpr h) inputs st

/-- At 255 percent a default configuration ends no demo. -/
theorem turbo_moves_iff_default :
    defaultConfig.mouseSensitivity = 5 ∧
      ∀ st, ReachableControls (defaultConfig.withTurbo 255) st → ∀ inputs,
        ¬ IsMarker (gBuildTiccmd (defaultConfig.withTurbo 255) inputs st).1 :=
  ⟨rfl, (turbo_moves_iff defaultConfig 255 rfl).2.mpr (by decide)⟩

end DoomSat.Engine
