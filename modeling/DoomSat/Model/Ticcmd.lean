/-!
# `DoomSat.Model.Ticcmd`: the command of one tic

`ticcmd_t` of `d_ticcmd.h` is what a player does in one tic. The engine builds it from the
controls, keeps it until its tic runs, and writes it to demos.
-/

set_option autoImplicit false

namespace DoomSat.Engine

/-- `ticcmd_t`. -/
structure Ticcmd where
  forwardmove : Int8
  sidemove : Int8
  angleturn : Int16
  chatchar : UInt8
  buttons : UInt8
  consistancy : UInt8
  buttons2 : UInt8
  inventory : Int32
  lookfly : UInt8
  arti : UInt8
  deriving DecidableEq, Repr

/-- The command after `memset(cmd, 0, sizeof(ticcmd_t))`. -/
def Ticcmd.zero : Ticcmd where
  forwardmove := 0
  sidemove := 0
  angleturn := 0
  chatchar := 0
  buttons := 0
  consistancy := 0
  buttons2 := 0
  inventory := 0
  lookfly := 0
  arti := 0

/-! ### The buttons, of `buttoncode_t` in `d_event.h` -/

def BT_ATTACK : UInt8 := 1
def BT_USE : UInt8 := 2
def BT_SPECIAL : UInt8 := 128
def BT_CHANGE : UInt8 := 4
def BT_WEAPONSHIFT : UInt8 := 3
def BTS_PAUSE : UInt8 := 1
def BTS_SAVEGAME : UInt8 := 2
def BTS_SAVESHIFT : UInt8 := 2

/-! ### The view angle -/

/-- `angleturn<<FRACBITS` as an `angle_t`. -/
def angleOfTurn (angleturn : Int16) : UInt32 := UInt32.ofInt (angleturn.toInt <<< (16 : Nat))

/-- `P_MovePlayer`: the view angle of the player after a command. -/
def turnPlayer (angle : UInt32) (cmd : Ticcmd) : UInt32 := angle + angleOfTurn cmd.angleturn

end DoomSat.Engine
