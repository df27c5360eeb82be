import DoomSat.Model.Protocol

/-!
# `DoomSat.Model.Input`: the key sender of `ground/input.c`

`input_poll` looks for a quit event, takes a snapshot of the keyboard as a bitfield, and sends
the bitfield when 50 ms have passed since it sent last.

SDL and the operating system are outside the program. What they answer to one call is a `Poll`:
the pending SDL events, the keyboard state, the clock and the result of `sendto`. What a call
shows to the outside is a list of `Event`s. The debug output of the source is left out.
-/

set_option autoImplicit false

namespace DoomSat.Input

/-! ### The keyboard -/

/-- The `SDL_Scancode`s that `input_poll` looks at. -/
inductive Scancode where
  | up | down | left | right
  | lctrl | rctrl | lshift | rshift | lalt | ralt
  | period | comma | space | returnKey | kpEnter | escape | y
  | digit1 | digit2 | digit3 | digit4 | digit5 | digit6 | digit7
  deriving DecidableEq, Repr

/-- The array of `SDL_GetKeyboardState`, with `true` for a key that is down. -/
abbrev Keyboard := Scancode → Bool

/-- `weapon_sc`. -/
def weaponSc : List Scancode :=
  [.digit1, .digit2, .digit3, .digit4, .digit5, .digit6, .digit7]

/-- Sets the bit when the key is down. -/
def orIf (down : Bool) (bit newBf : UInt16) : UInt16 := if down then newBf ||| bit else newBf

/-- The loop over `weapon_sc` from index `w` on: the first key that is down gives the weapon
number. -/
def orWeapon (ks : Keyboard) : List Scancode → Nat → UInt16 → UInt16
  | [], _, newBf => newBf
  | sc :: scs, w, newBf =>
    if ks sc then newBf ||| ((UInt16.ofNat (w + 1) &&& 0x7) <<< INPUT_WEAPON_SHIFT)
    else orWeapon ks scs (w + 1) newBf

/-- The snapshot of the keyboard: `new_bf` in `input_poll`. -/
def snapshot (ks : Keyboard) : UInt16 :=
  let newBf : UInt16 := 0
  let newBf := orIf (ks .up) INPUT_BIT_FORWARD newBf
  let newBf := orIf (ks .down) INPUT_BIT_BACKWARD newBf
  let newBf := orIf (ks .left) INPUT_BIT_LEFT newBf
  let newBf := orIf (ks .right) INPUT_BIT_RIGHT newBf
  let newBf := orIf (ks .lctrl || ks .rctrl) INPUT_BIT_FIRE newBf
  let newBf := orIf (ks .lshift || ks .rshift) INPUT_BIT_RUN newBf
  let newBf := orIf (ks .lalt || ks .ralt) INPUT_BIT_STRAFE newBf
  let newBf := orIf (ks .period) INPUT_BIT_SRIGHT newBf
  let newBf := orIf (ks .comma) INPUT_BIT_SLEFT newBf
  let newBf := orIf (ks .space) INPUT_BIT_USE newBf
  let newBf := orIf (ks .returnKey || ks .kpEnter) INPUT_BIT_ENTER newBf
  let newBf := orIf (ks .escape) INPUT_BIT_ESCAPE newBf
  let newBf := orIf (ks .y) INPUT_BIT_Y newBf
  orWeapon ks weaponSc 0 newBf

/-! ### The state and the calls -/

/-- 20 Hz. -/
def INPUT_SEND_INTERVAL_MS : UInt32 := 50

/-- `get_timestamp_ms`, for a reading of the monotonic clock. -/
def getTimestampMs (tvSec tvNsec : Int64) : UInt32 :=
  (tvSec.toUInt64 * 1000 + tvNsec.toUInt64 / 1000000).toUInt32

/-- The static state of `input.c`. -/
structure State where
  gBitfield : UInt16
  gBitfieldPrev : UInt16
  gSeq : UInt16
  gLastSendMs : UInt32
  gBytesSent : UInt64

/-- The static state when the program starts. -/
def staticState : State where
  gBitfield := 0
  gBitfieldPrev := 0
  gSeq := 0
  gLastSendMs := 0
  gBytesSent := 0

/-- `input_init` with a socket that opens. -/
def inputInit (st : State) : State := { st with gBitfield := 0, gSeq := 0 }

/-- An SDL event. Only the type `SDL_QUIT` matters. -/
inductive SdlEvent where
  | quit
  | other
  deriving DecidableEq, Repr

/-- What one call of `input_poll` meets. -/
structure Poll where
  /-- The events that `SDL_PollEvent` can return. -/
  events : List SdlEvent
  keyboard : Keyboard
  /-- The result of `get_timestamp_ms`. -/
  now : UInt32
  /-- The result of `sendto`, negative for a failure. -/
  sent : Int

/-- What one call of `input_poll` shows. -/
inductive Event where
  /-- The keyboard was sampled into `g_bitfield`. -/
  | sampled (bitfield : UInt16)
  /-- `sendto` was called with this buffer and returned this result. -/
  | sendto (buf : Vector UInt8 8) (sent : Int)
  /-- `input_poll` returned. -/
  | returned (result : Int)
  deriving DecidableEq

/-- The loop over the SDL events: whether it meets `SDL_QUIT`. -/
def pollEvents : List SdlEvent → Bool
  | [] => false
  | .quit :: _ => true
  | .other :: events => pollEvents events

/-- Whether the timer of the throttled send has run out. -/
def timerExpired (lastSendMs now : UInt32) : Bool := now - lastSendMs ≥ INPUT_SEND_INTERVAL_MS

/-- The packet that a sending call packs. -/
def nextPacket (st : State) (now : UInt32) : InputPacket where
  bitfield := st.gBitfield
  timestamp := now
  seqNumber := st.gSeq

/-- The throttled send at the end of `input_poll`. -/
def throttledSend (st : State) (now : UInt32) (sent : Int) : State × List Event :=
  if timerExpired st.gLastSendMs now then
    let buf := packInput (nextPacket st now)
    let st :=
      if sent > 0 then { st with gBytesSent := st.gBytesSent + UInt64.ofInt sent } else st
    -- The counter and the timer go on also when `sendto` failed.
    ({ st with gSeq := st.gSeq + 1, gLastSendMs := now }, [.sendto buf sent])
  else (st, [])

/-- `input_poll`. -/
def inputPoll (st : State) (p : Poll) : State × List Event :=
  if pollEvents p.events then (st, [.returned 1])
  else
    let st := { st with gBitfield := snapshot p.keyboard }
    let st :=
      if st.gBitfield ≠ st.gBitfieldPrev then { st with gBitfieldPrev := st.gBitfield } else st
    -- A change of the bitfield is printed, but only the timer decides about the send.
    let (st', out) := throttledSend st p.now p.sent
    (st', .sampled st.gBitfield :: out ++ [.returned 0])

end DoomSat.Input
