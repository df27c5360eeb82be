import DoomSat.Model.Engine
import DoomSat.Model.Ticcmd
import DoomSat.Model.Weapons
import Mathlib.Data.List.FinRange

/-!
# `DoomSat.Model.Controls`: from the controls to the command of a tic

`G_Responder` of `g_game.c` keeps the state of the keyboard, the mouse and the joystick.
`G_BuildTiccmd` turns this state into the command of the next tic. `G_DoLoadLevel` clears it.

The bindings of the controls come from the configuration. A mouse or joystick button of -1
is never down. The engine also answers events in other places: the menu, the chat, the
automap and the demo screen. Whether one of them takes an event is a parameter here.

The values of the mouse and of the joystick are small enough for `int`, so this part of the
model has no overflow of `int`. What goes into the fields of a command is cut to their size.
-/

set_option autoImplicit false

namespace DoomSat.Engine

def MAX_MOUSE_BUTTONS : Nat := 8
def MAX_JOY_BUTTONS : Nat := 20
def SLOWTURNTICS : Nat := 6
def FRACUNIT : Int := 65536

/-! ### The configuration -/

/-- The controls with a key of their own. -/
inductive KeyControl where
  | right | left | up | down | strafeleft | straferight | fire | use | strafe
  deriving DecidableEq, Repr

/-- The controls with a mouse button. -/
inductive MouseControl where
  | fire | strafe | forward | speed | strafeleft | straferight | turnleft | turnright
  | backward | use | prevweapon | nextweapon
  deriving DecidableEq, Repr

/-- The controls with a joystick button, without `joybspeed`. -/
inductive JoyControl where
  | fire | strafe | use | strafeleft | straferight | prevweapon | nextweapon
  deriving DecidableEq, Repr

/-- The bindings of `m_controls.c`, and the settings that `G_BuildTiccmd` reads. -/
structure Config where
  key : KeyControl → Fin NUMKEYS
  /-- `key_speed`. From `NUMKEYS` on the player always runs. -/
  keySpeed : Nat
  keyPrevweapon : Nat
  keyNextweapon : Nat
  weaponKeys : List (Fin NUMKEYS)
  mouseb : MouseControl → Option (Fin MAX_MOUSE_BUTTONS)
  joyb : JoyControl → Option (Fin MAX_JOY_BUTTONS)
  /-- `joybspeed`. From `MAX_JOY_BUTTONS` on the player always runs. -/
  joybspeed : Option Nat
  dclickUse : Bool
  useAnalog : Bool
  joystickMoveSensitivity : Int
  joystickTurnSensitivity : Int
  mouseSensitivity : Int
  lowresTurn : Bool
  ticdup : Nat
  /-- `forwardmove` and `sidemove`, for walking and for running. -/
  forwardmove : Bool → Int
  sidemove : Bool → Int

/-- The initial `forwardmove`. -/
def forwardmoveTable (speed : Bool) : Int := if speed then 0x32 else 0x19

/-- The initial `sidemove`. -/
def sidemoveTable (speed : Bool) : Int := if speed then 0x28 else 0x18

/-- The option `-turbo` of `D_DoomMain`: the scale after the two checks. -/
def turboScale (scale : Int) : Int :=
  let scale := if scale < 10 then 10 else scale
  if scale > 400 then 400 else scale

/-- What `-turbo` makes of an entry of a table. -/
def turbo (scale : Int) (table : Bool → Int) (speed : Bool) : Int :=
  (table speed * turboScale scale).tdiv 100

/-- `angleturn`, for walking, for running and for the first tics of a turn. -/
def angleturnTable : Fin 3 → Int
  | 0 => 640
  | 1 => 1280
  | 2 => 320

/-- The configuration without a configuration file. -/
def defaultConfig : Config where
  key
    | .right => 0xae
    | .left => 0xac
    | .up => 0xad
    | .down => 0xaf
    | .strafeleft => 0x2c
    | .straferight => 0x2e
    | .fire => 0x9d
    | .use => 0x20
    | .strafe => 0xb8
  keySpeed := 0xb6
  keyPrevweapon := 0
  keyNextweapon := 0
  weaponKeys := weaponKeys
  mouseb
    | .fire => some ⟨0, by decide⟩
    | .strafe => some ⟨1, by decide⟩
    | .forward => some ⟨2, by decide⟩
    | .speed => some ⟨3, by decide⟩
    | _ => none
  joyb
    | .fire => some ⟨0, by decide⟩
    | .strafe => some ⟨1, by decide⟩
    | .use => some ⟨3, by decide⟩
    | _ => none
  joybspeed := some 2
  dclickUse := true
  useAnalog := false
  joystickMoveSensitivity := 10
  joystickTurnSensitivity := 10
  mouseSensitivity := 5
  lowresTurn := false
  ticdup := 1
  forwardmove := forwardmoveTable
  sidemove := sidemoveTable

/-! ### The state of the controls -/

/-- The double clicks on one control: `dclicktime`, `dclickstate` and `dclicks`. -/
structure DoubleClick where
  time : Nat
  state : Bool
  clicks : Nat
  deriving DecidableEq, Repr

/-- The static variables of `g_game.c` that hold the controls. -/
structure Controls where
  gamekeydown : GameKeyDown
  mousebuttons : Fin MAX_MOUSE_BUTTONS → Bool
  joybuttons : Fin MAX_JOY_BUTTONS → Bool
  mousex : Int
  mousey : Int
  joyxmove : Int
  joyymove : Int
  joystrafemove : Int
  turnheld : Nat
  dclick : DoubleClick
  dclick2 : DoubleClick
  /-- `next_weapon`: -1, 0 or 1. -/
  nextWeapon : Int
  sendpause : Bool
  sendsave : Bool
  savegameslot : UInt8
  /-- The variable `carry` of `G_BuildTiccmd`. -/
  carry : Int16

/-- The controls when the program starts. -/
def Controls.start : Controls where
  gamekeydown := noKeyDown
  mousebuttons _ := false
  joybuttons _ := false
  mousex := 0
  mousey := 0
  joyxmove := 0
  joyymove := 0
  joystrafemove := 0
  turnheld := 0
  dclick := ⟨0, false, 0⟩
  dclick2 := ⟨0, false, 0⟩
  nextWeapon := 0
  sendpause := false
  sendsave := false
  savegameslot := 0
  carry := 0

/-- The part of `G_DoLoadLevel` that clears the controls. -/
def clearControls (st : Controls) : Controls :=
  { st with
    gamekeydown := noKeyDown
    joyxmove := 0
    joyymove := 0
    joystrafemove := 0
    mousex := 0
    mousey := 0
    sendpause := false
    sendsave := false
    mousebuttons := fun _ => false
    joybuttons := fun _ => false }

section
variable (cfg : Config)

/-- `gamekeydown[key]`. -/
def Controls.keyDown (st : Controls) (control : KeyControl) : Bool :=
  st.gamekeydown (cfg.key control)

/-- `mousebuttons[button]`. -/
def Controls.mouseDown (st : Controls) (control : MouseControl) : Bool :=
  (cfg.mouseb control).any st.mousebuttons

/-- `joybuttons[button]`. -/
def Controls.joyDown (st : Controls) (control : JoyControl) : Bool :=
  (cfg.joyb control).any st.joybuttons

/-! ### Events -/

/-- `event_t` of every type. -/
inductive InputEvent where
  | key (ev : EngineEvent)
  | mouse (buttons : UInt32) (x y : Int)
  | joystick (buttons : UInt32) (x y strafe : Int)
  | quit

/-- `gamestate_t`. -/
inductive GameState where
  | level
  | intermission
  | finale
  | demoscreen
  deriving DecidableEq, Repr

/-- What `G_Responder` asks of the rest of the engine. -/
structure Screen where
  gamestate : GameState
  /-- `gameaction == ga_nothing`. -/
  noAction : Bool
  singledemo : Bool
  demoplayback : Bool
  deathmatch : Bool
  keySpy : Nat
  /-- A responder of the level or of the finale takes the event. -/
  eaten : InputEvent → Bool

/-- `ev->data1` is not 0, or the event is a press of a key. -/
def InputEvent.popsUpMenu : InputEvent → Bool
  | .key ev => ev.type = .keydown
  | .mouse buttons _ _ => buttons ≠ 0
  | .joystick buttons _ _ _ => buttons ≠ 0
  | .quit => false

/-- The event is a press of this key. -/
def InputEvent.isPress (key : Nat) : InputEvent → Bool
  | .key ev => ev.type = .keydown && ev.data1 = key
  | _ => false

/-- `SetMouseButtons` and `SetJoyButtons`: the new buttons and `next_weapon`, after the loop
over the buttons. A button that goes down can ask for a weapon. -/
def setButtons {n : Nat} (prevweapon nextweapon : Option (Fin n)) (mask : UInt32)
    (buttons : Fin n → Bool) (nextWeapon : Int) : (Fin n → Bool) × Int :=
  (List.finRange n).foldl (fun (state : (Fin n → Bool) × Int) (i : Fin n) =>
    let buttonOn := mask.toNat.testBit i.val
    let nextWeapon :=
      if ¬ state.1 i ∧ buttonOn then
        if prevweapon = some i then -1
        else if nextweapon = some i then 1
        else state.2
      else state.2
    (Function.update state.1 i buttonOn, nextWeapon)) (buttons, nextWeapon)

/-- The keys of `G_Responder` that ask for the previous or the next weapon. -/
def Controls.requestWeapon (st : Controls) (ev : InputEvent) : Controls :=
  { st with
    nextWeapon :=
      if ev.isPress cfg.keyPrevweapon then -1
      else if ev.isPress cfg.keyNextweapon then 1
      else st.nextWeapon }

/-- The switch over the type of the event in `G_Responder`. -/
def Controls.respond (st : Controls) : InputEvent → Bool × Controls
  | .key ev =>
    match ev.type with
    | .keydown =>
      (true,
        { st with
          sendpause := st.sendpause || ev.data1 = KEY_PAUSE
          gamekeydown := gResponder st.gamekeydown ev })
    | .keyup => (false, { st with gamekeydown := gResponder st.gamekeydown ev })
  | .mouse buttons x y =>
    let (mousebuttons, nextWeapon) :=
      setButtons (cfg.mouseb .prevweapon) (cfg.mouseb .nextweapon) buttons st.mousebuttons
        st.nextWeapon
    (true,
      { st with
        mousebuttons := mousebuttons
        nextWeapon := nextWeapon
        mousex := (x * (cfg.mouseSensitivity + 5)).tdiv 10
        mousey := (y * (cfg.mouseSensitivity + 5)).tdiv 10 })
  | .joystick buttons x y strafe =>
    let (joybuttons, nextWeapon) :=
      setButtons (cfg.joyb .prevweapon) (cfg.joyb .nextweapon) buttons st.joybuttons
        st.nextWeapon
    (true,
      { st with
        joybuttons := joybuttons
        nextWeapon := nextWeapon
        joyxmove := x
        joyymove := y
        joystrafemove := strafe })
  | .quit => (false, st)

/-- `G_Responder`: whether it takes the event, and the controls after it. -/
def Controls.gResponder (screen : Screen) (st : Controls) (ev : InputEvent) :
    Bool × Controls :=
  -- The spy key changes the view, and a key in a demo opens the menu.
  if screen.gamestate = .level ∧ ev.isPress screen.keySpy ∧
      (screen.singledemo ∨ ¬ screen.deathmatch) then (true, st)
  else if screen.noAction ∧ ¬ screen.singledemo ∧
      (screen.demoplayback ∨ screen.gamestate = .demoscreen) then (ev.popsUpMenu, st)
  else if (screen.gamestate = .level ∨ screen.gamestate = .finale) ∧ screen.eaten ev then
    (true, st)
  else (st.requestWeapon cfg ev).respond cfg ev

/-! ### The command of a tic -/

/-- What `G_BuildTiccmd` reads of the rest of the engine. -/
structure BuildInputs where
  /-- `consistancy[consoleplayer][maketic%BACKUPTICS]`. -/
  consistancy : UInt8
  /-- What `HU_dequeueChatChar` returns. -/
  chatchar : UInt8
  /-- `gamestate == GS_LEVEL`. -/
  inLevel : Bool
  arsenal : Arsenal

/-- `FixedMul`. -/
def fixedMul (a b : Int) : Int := (a * b) >>> (16 : Nat)

/-- The limits of a value, as two comparisons. -/
def clampTo (limit n : Int) : Int :=
  if n > limit then limit else if n < -limit then -limit else n

/-- The movement when the control is down. -/
def moveIf (down : Bool) (n : Int) : Int := if down then n else 0

/-- `strafe`. -/
def Controls.strafing (st : Controls) : Bool :=
  st.keyDown cfg .strafe || st.mouseDown cfg .strafe || st.joyDown cfg .strafe

/-- `gamekeydown[key_speed]`, for a key of the keyboard. -/
def Controls.speedKeyDown (st : Controls) : Bool :=
  if h : cfg.keySpeed < NUMKEYS then st.gamekeydown ⟨cfg.keySpeed, h⟩ else true

/-- `joybuttons[joybspeed]`, for a button of the joystick. -/
def Controls.speedButtonDown (st : Controls) : Bool :=
  match cfg.joybspeed with
  | none => false
  | some button =>
    if h : button < MAX_JOY_BUTTONS then st.joybuttons ⟨button, h⟩ else true

/-- `speed`. -/
def Controls.speeding (st : Controls) : Bool :=
  st.speedKeyDown cfg || st.speedButtonDown cfg || st.mouseDown cfg .speed

/-- A control that turns the player to the right, apart from the joystick. -/
def Controls.right (st : Controls) : Bool := st.keyDown cfg .right || st.mouseDown cfg .turnright

/-- A control that turns the player to the left, apart from the joystick. -/
def Controls.left (st : Controls) : Bool := st.keyDown cfg .left || st.mouseDown cfg .turnleft

/-- `turnheld` for the new command. -/
def Controls.nextTurnheld (st : Controls) : Nat :=
  if st.joyxmove ≠ 0 ∨ st.right cfg ∨ st.left cfg then st.turnheld + cfg.ticdup else 0

/-- `tspeed`: a turn is slow at first. -/
def Controls.tspeed (st : Controls) : Fin 3 :=
  if st.nextTurnheld cfg < SLOWTURNTICS then 2 else if st.speeding cfg then 1 else 0

/-- A joystick axis: the movement for an entry `table`, and the value that the axis keeps. -/
def joyAxis (table joy : Int) : Int × Int :=
  if cfg.useAnalog ∧ joy ≠ 0 then
    let joy := clampTo FRACUNIT ((joy * cfg.joystickMoveSensitivity).tdiv 10)
    (fixedMul table joy, joy)
  else if cfg.joystickMoveSensitivity ≠ 0 then
    (if joy > 0 then table else if joy < 0 then -table else 0, joy)
  else (0, joy)

/-- The turn by the x axis of the joystick, and the value that the axis keeps. -/
def joyTurn (tspeed : Fin 3) (joy : Int) : Int × Int :=
  if cfg.useAnalog ∧ joy ≠ 0 then
    let joy := fixedMul (fixedMul joy joy) joy
    let joy := (joy * cfg.joystickTurnSensitivity).tdiv 10
    (fixedMul (angleturnTable 1) joy, joy)
  else if cfg.joystickTurnSensitivity ≠ 0 then
    (if joy > 0 then angleturnTable tspeed else if joy < 0 then -angleturnTable tspeed else 0,
      joy)
  else (0, joy)

/-- `forward` before the limits. -/
def Controls.forwardSum (st : Controls) : Int :=
  let table := cfg.forwardmove (st.speeding cfg)
  moveIf (st.keyDown cfg .up) table - moveIf (st.keyDown cfg .down) table
    - (joyAxis cfg table st.joyymove).1
    + moveIf (st.mouseDown cfg .forward) table - moveIf (st.mouseDown cfg .backward) table
    + st.mousey

/-- `side` before the limits. -/
def Controls.sideSum (st : Controls) : Int :=
  let table := cfg.sidemove (st.speeding cfg)
  let turn :=
    if st.strafing cfg then
      moveIf (st.right cfg) table - moveIf (st.left cfg) table
        + (joyAxis cfg table st.joyxmove).1
    else 0
  turn
    - moveIf (st.keyDown cfg .strafeleft || st.joyDown cfg .strafeleft
        || st.mouseDown cfg .strafeleft) table
    + moveIf (st.keyDown cfg .straferight || st.joyDown cfg .straferight
        || st.mouseDown cfg .straferight) table
    + (joyAxis cfg table st.joystrafemove).1
    + if st.strafing cfg then st.mousex * 2 else 0

/-- `cmd->angleturn` before the reduction of the resolution. Each step is cut to 16 bits. -/
def Controls.turnSum (st : Controls) : Int16 :=
  if st.strafing cfg then 0
  else
    let table := angleturnTable (st.tspeed cfg)
    0 - Int16.ofInt (moveIf (st.right cfg) table) + Int16.ofInt (moveIf (st.left cfg) table)
      - Int16.ofInt (joyTurn cfg (st.tspeed cfg) st.joyxmove).1
      - Int16.ofInt (st.mousex * 0x8)

/-- A double click on a control: whether it uses, and the state after it. -/
def DoubleClick.click (ticdup : Nat) (down : Bool) (click : DoubleClick) : Bool × DoubleClick :=
  if down ≠ click.state ∧ click.time > 1 then
    let clicks := if down then click.clicks + 1 else click.clicks
    if clicks = 2 then (true, { click with state := down, clicks := 0 })
    else (false, { time := 0, state := down, clicks := clicks })
  else
    let time := click.time + ticdup
    if time > 20 then (false, { time := time, state := false, clicks := 0 })
    else (false, { click with time := time })

/-- The bits of the weapon in the buttons. -/
def weaponButtons (inputs : BuildInputs) (st : Controls) : UInt8 :=
  if inputs.inLevel ∧ st.nextWeapon ≠ 0 then
    BT_CHANGE ||| (UInt8.ofNat (gNextWeapon inputs.arsenal st.nextWeapon) <<< BT_WEAPONSHIFT)
  else
    match cfg.weaponKeys.findIdx? fun key => st.gamekeydown key with
    | some i => BT_CHANGE ||| (UInt8.ofNat i <<< BT_WEAPONSHIFT)
    | none => 0

/-- The bits of the buttons before the special ones, and the double clicks after them. -/
def Controls.buttons (inputs : BuildInputs) (st : Controls) :
    UInt8 × DoubleClick × DoubleClick :=
  let fire := st.keyDown cfg .fire || st.mouseDown cfg .fire || st.joyDown cfg .fire
  let use := st.keyDown cfg .use || st.joyDown cfg .use || st.mouseDown cfg .use
  -- The use button clears the clicks.
  let dclick := if use then { st.dclick with clicks := 0 } else st.dclick
  let (use1, dclick) :=
    if cfg.dclickUse then dclick.click cfg.ticdup (st.mouseDown cfg .forward)
    else (false, dclick)
  let (use2, dclick2) :=
    if cfg.dclickUse then
      st.dclick2.click cfg.ticdup (st.mouseDown cfg .strafe || st.joyDown cfg .strafe)
    else (false, st.dclick2)
  ((if fire then BT_ATTACK else 0) ||| (if use || use1 || use2 then BT_USE else 0)
      ||| weaponButtons cfg inputs st,
    dclick, dclick2)

/-- The special buttons take the place of the others. -/
def Controls.specialButtons (st : Controls) (buttons : UInt8) : UInt8 :=
  if st.sendsave then BT_SPECIAL ||| BTS_SAVEGAME ||| (st.savegameslot <<< BTS_SAVESHIFT)
  else if st.sendpause then BT_SPECIAL ||| BTS_PAUSE
  else buttons

/-- The nearest turn with a low byte of 0: `(desired_angleturn + 128) & 0xff00`. -/
def quantizeTurn (desired : Int16) : Int16 := (desired + 128) &&& (-256)

/-- The turn of the command, and `carry` after it. -/
def Controls.turn (st : Controls) : Int16 × Int16 :=
  if cfg.lowresTurn then
    let desired := st.turnSum cfg + st.carry
    (quantizeTurn desired, desired - quantizeTurn desired)
  else (st.turnSum cfg, st.carry)

/-- `G_BuildTiccmd`. -/
def gBuildTiccmd (inputs : BuildInputs) (st : Controls) : Ticcmd × Controls :=
  let (buttons, dclick, dclick2) := st.buttons cfg inputs
  let (angleturn, carry) := st.turn cfg
  let limit := cfg.forwardmove true
  let table := cfg.sidemove (st.speeding cfg)
  ({ Ticcmd.zero with
      forwardmove := Int8.ofInt (clampTo limit (st.forwardSum cfg))
      sidemove := Int8.ofInt (clampTo limit (st.sideSum cfg))
      angleturn := angleturn
      chatchar := inputs.chatchar
      buttons := st.specialButtons buttons
      consistancy := inputs.consistancy },
    { st with
      turnheld := st.nextTurnheld cfg
      joyxmove :=
        if st.strafing cfg then (joyAxis cfg table st.joyxmove).2
        else (joyTurn cfg (st.tspeed cfg) st.joyxmove).2
      joyymove := (joyAxis cfg (cfg.forwardmove (st.speeding cfg)) st.joyymove).2
      joystrafemove := (joyAxis cfg table st.joystrafemove).2
      mousex := 0
      mousey := 0
      dclick := dclick
      dclick2 := dclick2
      nextWeapon := 0
      sendpause := false
      sendsave := false
      carry := carry })

end

end DoomSat.Engine
