import DoomSat.Model.Ticcmd
import DoomSat.Support.Cursor

/-!
# `DoomSat.Model.Demo`: demos of `g_game.c`

A demo is a header and four bytes for the command of each tic, or five with long tics.
`G_BeginRecording` and `G_WriteDemoTiccmd` write it to a buffer, which grows unless the limit
of the original program is on. `G_CheckDemoStatus` closes the demo with a marker and writes
the file. `G_DoPlayDemo` and `G_ReadDemoTiccmd` read it.

When `G_CheckDemoStatus` closes a demo, it ends the program with `I_Error`. It also runs at
the exit of the program, so a demo is closed however the program ends. `DemoStop.recorded`
stands for all of this.

The buffer comes from `Z_Malloc`, which is a parameter here. Its size is far below
`INT_MAX`. `playback` tells whether `D_NonVanillaPlayback` allows the long tics of a file.
-/

set_option autoImplicit false

namespace DoomSat.Engine

open Support

def DEMOMARKER : UInt8 := 0x80
def DOOM_191_VERSION : UInt8 := 111
def MAXPLAYERS : Nat := 4

/-- A demo buffer: `demobuffer`, `demoend - demobuffer` and `demo_p - demobuffer`. -/
abbrev Demo := Cursor

/-- How the code of a demo leaves the game. -/
inductive DemoStop where
  /-- An access outside the demo buffer. -/
  | outside
  /-- `G_CheckDemoStatus` has written this file. -/
  | recorded (file : List UInt8)
  /-- `I_Error`: the demo is from another version of the game. -/
  | wrongVersion (demoversion : UInt8)
  deriving DecidableEq

/-- An access to the demo buffer. -/
def inside {α : Type} : Option α → Except DemoStop α
  | some a => .ok a
  | none => .error .outside

/-! ### The settings -/

/-- `GameVersion_t`, for the versions of Doom. -/
inductive GameVersion where
  | exeDoom12 | exeDoom15 | exeDoom1666 | exeDoom17 | exeDoom18 | exeDoom19 | exeHacx
  | exeUltimate | exeFinal | exeFinal2 | exeChex
  deriving DecidableEq, Repr

/-- `G_VanillaVersionCode`. -/
def gVanillaVersionCode : GameVersion → UInt8
  | .exeDoom1666 => 106
  | .exeDoom17 => 107
  | .exeDoom18 => 108
  | _ => 109

/-- What a recording depends on. -/
structure RecordSettings where
  gameversion : GameVersion
  longtics : Bool
  vanillaDemoLimit : Bool
  /-- `Z_Malloc`: the bytes of a new block, or `none` when it ends the program. -/
  zMalloc : Nat → Option (Nat → UInt8)

/-- The game of a demo. The flags are the positions of the options in the arguments. -/
structure DemoHeader where
  gameskill : Int
  gameepisode : Int
  gamemap : Int
  deathmatch : Int
  respawnparm : Int
  fastparm : Int
  nomonsters : Int
  consoleplayer : Int
  playeringame : Fin MAXPLAYERS → Int

/-! ### Commands -/

/-- The bytes of a command that `G_WriteDemoTiccmd` stores. -/
def ticcmdBytes (longtics : Bool) (cmd : Ticcmd) : List UInt8 :=
  [cmd.forwardmove.toUInt8, cmd.sidemove.toUInt8]
    ++ (if longtics then
        [UInt8.ofInt (cmd.angleturn.toInt % 256), UInt8.ofInt (cmd.angleturn.toInt / 256)]
      else [UInt8.ofInt (cmd.angleturn.toInt / 256)])
    ++ [cmd.buttons]

/-- `cmd->angleturn` from its two bytes. -/
def angleOfBytes (low high : UInt8) : Int16 := Int16.ofInt (low.toNat + 256 * high.toNat)

/-- `G_ReadDemoTiccmd`: the command and the demo after it, or `none` at the end of the demo.
The fields that a demo does not hold stay as they are. -/
def gReadDemoTiccmd (longtics : Bool) (demo : Demo) (cmd : Ticcmd) :
    Except DemoStop (Option (Ticcmd × Demo)) := do
  if (← inside demo.peek) = DEMOMARKER then return none
  let (forwardmove, demo) ← inside demo.get
  let (sidemove, demo) ← inside demo.get
  if longtics then
    let (low, demo) ← inside demo.get
    let (high, demo) ← inside demo.get
    let (buttons, demo) ← inside demo.get
    return some ({ cmd with
      forwardmove := forwardmove.toInt8
      sidemove := sidemove.toInt8
      angleturn := angleOfBytes low high
      buttons := buttons }, demo)
  else
    let (high, demo) ← inside demo.get
    let (buttons, demo) ← inside demo.get
    return some ({ cmd with
      forwardmove := forwardmove.toInt8
      sidemove := sidemove.toInt8
      angleturn := angleOfBytes 0 high
      buttons := buttons }, demo)

/-! ### Recording -/

/-- `G_CheckDemoStatus` while a demo is recorded. -/
def gCheckDemoStatus (demo : Demo) : DemoStop :=
  match demo.put DEMOMARKER with
  | some demo => .recorded (demo.contents demo.pos)
  | none => .outside

/-- `IncreaseDemoBuffer`. When `Z_Malloc` ends the program, the demo is closed. -/
def increaseDemoBuffer (settings : RecordSettings) (demo : Demo) : Except DemoStop Demo :=
  match settings.zMalloc (demo.size * 2) with
  | none => .error (gCheckDemoStatus demo)
  | some fresh =>
    .ok { demo with
      bytes := fun i => if i < demo.size then demo.bytes i else fresh i
      size := demo.size * 2 }

/-- The part of `G_WriteDemoTiccmd` that looks for more room in the buffer. -/
def makeRoom (settings : RecordSettings) (demo : Demo) : Except DemoStop Demo :=
  if demo.pos + 16 > demo.size then
    if settings.vanillaDemoLimit then .error (gCheckDemoStatus demo)
    else increaseDemoBuffer settings demo
  else .ok demo

/-- `G_WriteDemoTiccmd`: the command as a demo gives it back, and the demo after it. The
argument `quit` is `gamekeydown[key_demo_quit]`. -/
def gWriteDemoTiccmd (settings : RecordSettings) (quit : Bool) (cmd : Ticcmd) (demo : Demo) :
    Except DemoStop (Ticcmd × Demo) := do
  if quit then .error (gCheckDemoStatus demo)
  else
    let stored ← inside (Cursor.putAll (ticcmdBytes settings.longtics cmd) demo)
    let demo ← makeRoom settings { stored with pos := demo.pos }
    match ← gReadDemoTiccmd settings.longtics demo cmd with
    | some next => return next
    -- The command looks like the end of the demo.
    | none => .error (gCheckDemoStatus demo)

/-- The bytes of the header that `G_BeginRecording` stores. -/
def headerBytes (settings : RecordSettings) (header : DemoHeader) : List UInt8 :=
  (if settings.longtics then [DOOM_191_VERSION]
    else if settings.gameversion ≠ .exeDoom12 then [gVanillaVersionCode settings.gameversion]
    else [])
    ++ [UInt8.ofInt header.gameskill, UInt8.ofInt header.gameepisode,
      UInt8.ofInt header.gamemap]
    ++ (if settings.longtics ∨ settings.gameversion ≠ .exeDoom12 then
        [UInt8.ofInt header.deathmatch, UInt8.ofInt header.respawnparm,
          UInt8.ofInt header.fastparm, UInt8.ofInt header.nomonsters,
          UInt8.ofInt header.consoleplayer]
      else [])
    ++ List.ofFn fun i => UInt8.ofInt (header.playeringame i)

/-- `G_RecordDemo` and `G_BeginRecording`: the demo after the header. -/
def gBeginRecording (settings : RecordSettings) (header : DemoHeader) (maxsize : Nat)
    (memory : Nat → UInt8) : Except DemoStop Demo :=
  inside (Cursor.putAll (headerBytes settings header) ⟨memory, maxsize, 0⟩)

/-- The part of `G_Ticker` that records the commands, tic by tic, with the state of the quit
key: the commands that the game uses, and how the recording ends. After the last command the
program ends in another way. -/
def recordTics (settings : RecordSettings) : Demo → List (Bool × Ticcmd) → List Ticcmd × DemoStop
  | demo, [] => ([], gCheckDemoStatus demo)
  | demo, (quit, cmd) :: tics =>
    match gWriteDemoTiccmd settings quit cmd demo with
    | .error stop => ([], stop)
    | .ok (cmd, demo) =>
      let rest := recordTics settings demo tics
      (cmd :: rest.1, rest.2)

/-- A recorded game: the commands that it uses, and how it ends. -/
def recordGame (settings : RecordSettings) (header : DemoHeader) (maxsize : Nat)
    (memory : Nat → UInt8) (tics : List (Bool × Ticcmd)) : List Ticcmd × DemoStop :=
  match gBeginRecording settings header maxsize memory with
  | .error stop => ([], stop)
  | .ok demo => recordTics settings demo tics

/-! ### Playback -/

/-- The next byte of the header as an `int`. -/
def headerInt (demo : Demo) : Except DemoStop (Int × Demo) := do
  let (byte, demo) ← inside demo.get
  return (byte.toNat, demo)

/-- The next bytes of the header. -/
def headerInts : Nat → Demo → Except DemoStop (List Int × Demo)
  | 0, demo => .ok ([], demo)
  | n + 1, demo => do
    let (value, demo) ← headerInt demo
    let (values, demo) ← headerInts n demo
    return (value :: values, demo)

/-- The part of `G_DoPlayDemo` that reads the header behind the version. -/
def readHeader (olddemo : Bool) (demo : Demo) : Except DemoStop (DemoHeader × Demo) := do
  let (skill, demo) ← headerInt demo
  let (episode, demo) ← headerInt demo
  let (map, demo) ← headerInt demo
  let (flags, demo) ← if olddemo then .ok ([0, 0, 0, 0, 0], demo) else headerInts 5 demo
  let (players, demo) ← headerInts MAXPLAYERS demo
  return ({
    gameskill := skill
    gameepisode := episode
    gamemap := map
    deathmatch := flags.getD 0 0
    respawnparm := flags.getD 1 0
    fastparm := flags.getD 2 0
    nomonsters := flags.getD 3 0
    consoleplayer := flags.getD 4 0
    playeringame := fun i => players.getD i 0 }, demo)

/-- `G_DoPlayDemo`: the game of the demo, its long tics, and the demo after the header. -/
def gDoPlayDemo (gameversion : GameVersion) (playback : Bool) (file : List UInt8) :
    Except DemoStop (DemoHeader × Bool × Demo) := do
  let start := Cursor.ofList file
  let (demoversion, demo) ← inside start.get
  -- A demo of version 1.2 starts with its skill.
  let olddemo : Bool := demoversion ≤ 4
  let demo := if olddemo then start else demo
  let longtics := demoversion = DOOM_191_VERSION && playback
  if ¬ longtics ∧ demoversion ≠ gVanillaVersionCode gameversion
      ∧ ¬ (gameversion = .exeDoom12 ∧ olddemo) then
    .error (.wrongVersion demoversion)
  else
    let (header, demo) ← readHeader olddemo demo
    return (header, longtics, demo)

/-- The part of `G_Ticker` that plays a demo, tic by tic, over the commands of the player: the
commands that the game uses until the demo ends. -/
def playTics (longtics : Bool) : Demo → List Ticcmd → Except DemoStop (List Ticcmd)
  | _, [] => .ok []
  | demo, cmd :: live => do
    match ← gReadDemoTiccmd longtics demo cmd with
    | none => return []
    | some (cmd, demo) =>
      let rest ← playTics longtics demo live
      return cmd :: rest

end DoomSat.Engine
