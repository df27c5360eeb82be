import DoomSat.Model.Ticcmd
import Mathlib.Algebra.Ring.Nat
import Mathlib.Logic.Function.Basic

/-!
# `DoomSat.Model.GameLoop`: the tic loop of `d_loop.c`

`NetUpdate` looks at the clock and builds one ticcmd for each tic that has passed. The
commands wait in the ring `ticdata`. `TryRunTics` waits for a command and runs the tics that
wait, each command `ticdup` times.

The model is that of a single player: no server is connected, `drone` is off, and `offsetms`
is 0. Then `NET_CL_Run` and `NET_SV_Run` return at once, and `local_playeringame` is not
read. The callbacks of `loop_interface` act on the rest of the engine, a state of the type
`γ`.

`clock k` is what the `k`-th call of `SDL_GetTicks` returns. Two fields of the state belong
to the environment: `built` lists the commands that `BuildTiccmd` returned, and `ran` lists
the calls of `RunTic`, both with the oldest first.

A result that does not fit in an `int` and a call of `I_Error` stop the program. The loop that
waits for a command takes a number of iterations. When it has used them up, the call has not
returned, and the model stops too.
-/

set_option autoImplicit false

namespace DoomSat.Engine

def NET_MAXPLAYERS : Nat := 8
def BACKUPTICS : Nat := 128
def TICRATE : Nat := 35
def MAX_NETGAME_STALL_TICS : Int := 5

instance : NeZero BACKUPTICS := ⟨by decide⟩

-- The bounds are irreducible, so that no proof counts down from them.
@[irreducible] def INT_MAX : Int := 2147483647
@[irreducible] def INT_MIN : Int := -2147483648

/-- Why a call does not return to its caller. -/
inductive Stop where
  /-- Undefined behaviour: a result that does not fit in an `int`. -/
  | overflow
  /-- `I_Error` with this message. -/
  | error (message : String)
  /-- The call still waits for a tic. -/
  | waiting
  deriving DecidableEq, Repr

/-- An expression of type `int`. -/
def int (n : Int) : Except Stop Int :=
  if INT_MIN ≤ n ∧ n ≤ INT_MAX then .ok n else .error .overflow

/-- `n++` for a counter of type `int` that starts at 0. -/
def increment (n : Nat) : Except Stop Nat :=
  if (n + 1 : Int) ≤ INT_MAX then .ok (n + 1) else .error .overflow

/-- `ticcmd_set_t`. -/
@[ext]
structure TiccmdSet where
  cmds : Fin NET_MAXPLAYERS → Ticcmd
  ingame : Fin NET_MAXPLAYERS → Bool

/-- The content of `ticdata` when the program starts. -/
def TiccmdSet.zero : TiccmdSet where
  cmds _ := .zero
  ingame _ := false

/-- The settings of the loop. They stay as they are during a game. -/
structure Settings where
  ticdup : Nat
  ticdup_pos : 0 < ticdup
  newSync : Bool
  singletics : Bool
  localplayer : Fin NET_MAXPLAYERS

/-- `localplayer` of a single player. -/
def singlePlayer : Fin NET_MAXPLAYERS := ⟨0, by decide⟩

/-- `loop_interface_t`, with `I_StartTic`. -/
structure LoopInterface (γ : Type) where
  iStartTic : γ → γ
  processEvents : γ → γ
  runMenu : γ → γ
  /-- `BuildTiccmd(&cmd, maketic)` with a command that is zero. -/
  buildTiccmd : γ → Nat → Ticcmd × γ
  /-- `RunTic`, which also reads `gametic`. -/
  runTic : γ → Nat → TiccmdSet → γ

/-- The static state of `d_loop.c` and `i_timer.c`, and the rest of the engine. -/
structure Loop (γ : Type) where
  ticdata : Fin BACKUPTICS → TiccmdSet
  maketic : Nat
  gametic : Nat
  lasttime : Int
  skiptics : Int
  oldentertics : Int
  basetime : UInt32
  /-- The number of `SDL_GetTicks` calls so far. -/
  reads : Nat
  game : γ
  built : List Ticcmd
  ran : List TiccmdSet

/-- The state when the program starts. -/
def Loop.start {γ : Type} (game : γ) : Loop γ where
  ticdata _ := .zero
  maketic := 0
  gametic := 0
  lasttime := 0
  skiptics := 0
  oldentertics := 0
  basetime := 0
  reads := 0
  game := game
  built := []
  ran := []

section
variable {γ : Type} (clock : Nat → UInt32)

/-! ### The clock of `i_timer.c` -/

/-- `ticks - basetime`: the milliseconds since the first reading that is not 0. -/
def elapsedTicks (st : Loop γ) : UInt32 :=
  let ticks := clock st.reads
  ticks - if st.basetime = 0 then ticks else st.basetime

/-- The state after a reading. -/
def readTicks (st : Loop γ) : Loop γ :=
  { st with
    reads := st.reads + 1
    basetime := if st.basetime = 0 then clock st.reads else st.basetime }

/-- `I_GetTime`. The product is unsigned and wraps around. -/
def iGetTime (st : Loop γ) : Int × Loop γ :=
  (((elapsedTicks clock st * UInt32.ofNat TICRATE) / 1000).toNat, readTicks clock st)

/-- `I_GetTimeMS`. -/
def iGetTimeMS (st : Loop γ) : Int × Loop γ :=
  ((elapsedTicks clock st).toInt32.toInt, readTicks clock st)

/-- `GetAdjustedTime`. The product is signed. -/
def getAdjustedTime (st : Loop γ) : Except Stop (Int × Loop γ) := do
  let (timeMs, st) := iGetTimeMS clock st
  let scaled ← int (timeMs * TICRATE)
  return (scaled.tdiv 1000, st)

/-! ### Building commands -/

variable (settings : Settings) (interface : LoopInterface γ)

/-- Whether `BuildNewTic` has enough commands that wait. -/
def bufferFull (ahead : Int) : Bool :=
  if settings.newSync then
    -- The limit of a single player comes first, so the second one is never met.
    ahead > 2 || ahead > 8
  else ahead ≥ 5

/-- The two writes of `BuildNewTic` to `ticdata`. -/
def storeTiccmd (cmd : Ticcmd) (set : TiccmdSet) : TiccmdSet where
  cmds := Function.update set.cmds settings.localplayer cmd
  ingame := Function.update set.ingame settings.localplayer true

/-- `BuildNewTic`. -/
def buildNewTic (st : Loop γ) : Except Stop (Bool × Loop γ) := do
  let gameticdiv := st.gametic / settings.ticdup
  let game := interface.runMenu (interface.processEvents (interface.iStartTic st.game))
  if bufferFull settings (st.maketic - gameticdiv) then
    return (false, { st with game := game })
  else
    let (cmd, game) := interface.buildTiccmd game st.maketic
    let slot := Fin.ofNat BACKUPTICS st.maketic
    let maketic ← increment st.maketic
    return (true, { st with
      game := game
      ticdata := Function.update st.ticdata slot (storeTiccmd settings cmd (st.ticdata slot))
      maketic := maketic
      built := st.built ++ [cmd] })

/-- The loop of `NetUpdate` with `newtics` tics to go. -/
def buildTics : Nat → Loop γ → Except Stop (Loop γ)
  | 0, st => .ok st
  | newtics + 1, st => do
    let (built, st) ← buildNewTic settings interface st
    if built then buildTics newtics st else return st

/-- `NetUpdate`. -/
def netUpdate (st : Loop γ) : Except Stop (Loop γ) :=
  if settings.singletics then .ok st
  else do
    let (time, st) ← getAdjustedTime clock st
    let nowtime := time.tdiv settings.ticdup
    let newtics ← int (nowtime - st.lasttime)
    let st := { st with lasttime := nowtime }
    if st.skiptics ≤ newtics then
      let newtics ← int (newtics - st.skiptics)
      buildTics settings interface newtics.toNat { st with skiptics := 0 }
    else
      let skiptics ← int (st.skiptics - newtics)
      buildTics settings interface 0 { st with skiptics := skiptics }

/-- `D_StartGameLoop`. -/
def dStartGameLoop (st : Loop γ) : Except Stop (Loop γ) := do
  let (time, st) ← getAdjustedTime clock st
  return { st with lasttime := time.tdiv settings.ticdup }

/-! ### Running tics -/

/-- `TicdupSquash`. -/
def ticdupSquash (set : TiccmdSet) : TiccmdSet where
  cmds i :=
    let cmd := set.cmds i
    { cmd with
      chatchar := 0
      buttons := if cmd.buttons &&& BT_SPECIAL ≠ 0 then 0 else cmd.buttons }
  ingame := set.ingame

/-- `SinglePlayerClear`. -/
def singlePlayerClear (set : TiccmdSet) : TiccmdSet where
  cmds := set.cmds
  ingame i := if i ≠ settings.localplayer then false else set.ingame i

/-- How many commands `TryRunTics` runs. -/
def countTics (realtics availabletics : Int) : Int :=
  let counts :=
    if settings.newSync then availabletics
    else if realtics < availabletics - 1 then realtics + 1
    else if realtics < availabletics then realtics
    else availabletics
  if counts < 1 then 1 else counts

/-- The loop of `TryRunTics` that waits. It gives `lowtic` when enough commands wait, and
`none` when `TryRunTics` returns without a tic. -/
def waitTics (entertic counts : Int) : Nat → Int → Loop γ → Except Stop (Option Int × Loop γ)
  | fuel, lowtic, st => do
    let target ← int ((st.gametic / settings.ticdup : Nat) + counts)
    if ¬ lowtic < target then return (some lowtic, st)
    else
      match fuel with
      | 0 => throw .waiting
      | fuel + 1 =>
        let st ← netUpdate clock settings interface st
        -- `GetLowTic`.
        let lowtic : Int := st.maketic
        if lowtic < (st.gametic / settings.ticdup : Nat) then
          throw (.error "TryRunTics: lowtic < gametic")
        else if lowtic < target then
          let (time, st) := iGetTime clock st
          if time.tdiv settings.ticdup - entertic ≥ MAX_NETGAME_STALL_TICS then
            return (none, st)
          -- `I_Sleep(1)`.
          else waitTics entertic counts fuel lowtic st
        else waitTics entertic counts fuel lowtic st

/-- The loop over `ticdup` with `n` tics to go: it runs the command in `slot`. -/
def runDuplicates (slot : Fin BACKUPTICS) (lowtic : Int) :
    Nat → Loop γ → Except Stop (Loop γ)
  | 0, st => .ok st
  | n + 1, st => do
    if (st.gametic / settings.ticdup : Nat) > lowtic then
      throw (.error "gametic>lowtic")
    let set := st.ticdata slot
    let game := interface.runTic st.game st.gametic set
    let gametic ← increment st.gametic
    runDuplicates slot lowtic n { st with
      game := game
      ran := st.ran ++ [set]
      gametic := gametic
      ticdata := Function.update st.ticdata slot (ticdupSquash set) }

/-- The loop of `TryRunTics` that runs `counts` commands. -/
def runCounts (lowtic : Int) : Nat → Loop γ → Except Stop (Loop γ)
  | 0, st => .ok st
  | counts + 1, st => do
    let slot := Fin.ofNat BACKUPTICS (st.gametic / settings.ticdup)
    let set := singlePlayerClear settings (st.ticdata slot)
    let st ← runDuplicates settings interface slot lowtic settings.ticdup
      { st with ticdata := Function.update st.ticdata slot set }
    let st ← netUpdate clock settings interface st
    runCounts lowtic counts st

/-- The first part of `TryRunTics`: it builds the commands of the tics that have passed. -/
def buildNewTics (st : Loop γ) : Except Stop (Loop γ) :=
  if settings.singletics then do
    let (_, st) ← buildNewTic settings interface st
    return st
  else netUpdate clock settings interface st

/-- The second part of `TryRunTics`: it waits for commands and runs them. -/
def runAvailable (entertic realtics : Int) (fuel : Nat) (st : Loop γ) :
    Except Stop (Loop γ) := do
  -- `GetLowTic`.
  let lowtic : Int := st.maketic
  let availabletics := lowtic - (st.gametic / settings.ticdup : Nat)
  let counts := countTics settings realtics availabletics
  match ← waitTics clock settings interface entertic counts fuel lowtic st with
  | (none, st) => return st
  | (some lowtic, st) => runCounts clock settings interface lowtic counts.toNat st

/-- `TryRunTics`, with the iterations that it may wait. -/
def tryRunTics (fuel : Nat) (st : Loop γ) : Except Stop (Loop γ) := do
  let (time, st) := iGetTime clock st
  let entertic := time.tdiv settings.ticdup
  let realtics ← int (entertic - st.oldentertics)
  let st ← buildNewTics clock settings interface { st with oldentertics := entertic }
  runAvailable clock settings interface entertic realtics fuel st

/-! ### Runs -/

/-- What the rest of the engine calls. -/
inductive LoopCall where
  /-- `D_Display` and the renderer call `NetUpdate`. -/
  | netUpdate
  /-- `D_RunFrame` and `D_DoomLoop` call `TryRunTics`. -/
  | tryRunTics (fuel : Nat)
  | dStartGameLoop
  /-- Any code that reads the clock. -/
  | iGetTime

/-- One call. -/
def loopStep (st : Loop γ) : LoopCall → Except Stop (Loop γ)
  | .netUpdate => netUpdate clock settings interface st
  | .tryRunTics fuel => tryRunTics clock settings interface fuel st
  | .dStartGameLoop => dStartGameLoop clock settings st
  | .iGetTime => .ok (iGetTime clock st).2

/-- The calls of a game, from the start of the program on. -/
def runLoop (game : γ) (calls : List LoopCall) : Except Stop (Loop γ) :=
  calls.foldlM (loopStep clock settings interface) (Loop.start game)

end

end DoomSat.Engine
