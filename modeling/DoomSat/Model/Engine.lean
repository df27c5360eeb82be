import DoomSat.Model.Uplink

/-!
# `DoomSat.Model.Engine`: the key state of DOOM

`I_GetEvent` turns each key event of the uplink into an engine event, `G_Responder` keeps
the keys that are down, and `G_BuildTiccmd` asks for the weapon of the first weapon key that
is down.

Only the key events are modelled, and only what these functions do with the keys.
-/

set_option autoImplicit false

namespace DoomSat.Engine

open Uplink

def NUMKEYS : Nat := 256

instance : NeZero NUMKEYS := ⟨by decide⟩

/-- The default of `key_pause`. -/
def KEY_PAUSE : Nat := 0xff

/-- The two key events of `evtype_t`. -/
inductive EvType where
  | keydown
  | keyup
  deriving DecidableEq, Repr

/-- `event_t`, with the data that a key event carries. -/
structure EngineEvent where
  type : EvType
  data1 : Nat
  data2 : Nat
  data3 : Nat
  deriving DecidableEq, Repr

/-- `I_GetEvent`: the engine event that it posts for a popped key event. -/
def iGetEvent (event : KeyEvent) : EngineEvent :=
  if event.pressed then
    { type := .keydown, data1 := event.key.toNat, data2 := event.key.toNat, data3 := 0 }
  else
    { type := .keyup, data1 := event.key.toNat, data2 := 0, data3 := 0 }

/-- `gamekeydown`. -/
abbrev GameKeyDown := Fin NUMKEYS → Bool

/-- The keys when the engine starts. -/
def noKeyDown : GameKeyDown := fun _ => false

/-- `G_Responder`: what a key event does to `gamekeydown`. -/
def gResponder (keys : GameKeyDown) (ev : EngineEvent) : GameKeyDown :=
  match ev.type with
  | .keydown =>
    -- The pause key sets `sendpause` instead.
    if ev.data1 = KEY_PAUSE then keys
    else if h : ev.data1 < NUMKEYS then Function.update keys ⟨ev.data1, h⟩ true
    else keys
  | .keyup => if h : ev.data1 < NUMKEYS then Function.update keys ⟨ev.data1, h⟩ false else keys

/-- `gamekeydown` after the engine took these events from the uplink. -/
def gameKeyDown (events : List KeyEvent) : GameKeyDown :=
  (events.map iGetEvent).foldl gResponder noKeyDown

/-- The defaults of `weapon_keys`: the characters `1` to `8`. -/
def weaponKeys : List (Fin NUMKEYS) := [0x31, 0x32, 0x33, 0x34, 0x35, 0x36, 0x37, 0x38]

/-- `G_BuildTiccmd`: the index of the first weapon key that is down, which is the weapon of
the ticcmd. -/
def requestedWeapon (keys : GameKeyDown) : Option Nat :=
  weaponKeys.findIdx? fun key => keys key

end DoomSat.Engine
