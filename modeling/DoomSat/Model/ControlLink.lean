import DoomSat.Model.Controls
import DoomSat.Model.EventQueue
import DoomSat.Model.GameLoop

/-!
# `DoomSat.Model.ControlLink`: from the socket of the uplink to a command

The tic loop calls `I_StartTic`, which calls `I_GetEvent`, then `D_ProcessEvents`, and then
`G_BuildTiccmd`. `controlInterface` puts the models of the uplink, of the event queue and of
the controls into the callbacks of the loop.

SDL has no events here, since the satellite has no window, and `storedemo` is off. In a level,
`M_Ticker` and `G_Ticker` leave this part of the engine alone.

`M_Responder` belongs to the menu, and `HU_Responder` to the messages. Their state is not
modelled: which events they take is a parameter of each round, `menu` here and `eaten` in
`Screen`. The fields `rounds` and `builds` belong to the environment, which counts the rounds of
the callbacks and notes those that build a command.
-/

set_option autoImplicit false

namespace DoomSat.Engine

open Uplink

/-- What one round of the callbacks meets. -/
structure TicInput where
  /-- The datagrams that wait in the socket of the uplink. -/
  socket : List Pending
  /-- The last `recvfrom` reports another error than an empty socket. -/
  failed : Bool
  /-- `M_Responder` takes the event. -/
  menu : EngineEvent → Bool
  screen : Screen
  inputs : BuildInputs

/-- The part of the engine behind the controls. -/
structure ControlLink where
  uplink : State
  queue : EventQueue
  controls : Controls
  /-- The number of `I_StartTic` calls so far. -/
  rounds : Nat
  /-- The round of each `BuildTiccmd` call so far, oldest first. -/
  builds : List Nat

section
variable (cfg : Config) (env : Nat → TicInput)

/-- What the current round meets, after its `I_StartTic`. -/
def ControlLink.input (link : ControlLink) : TicInput := env (link.rounds - 1)

/-- `I_StartTic`. -/
def iStartTic (link : ControlLink) : ControlLink :=
  let t := env link.rounds
  let (uplink, queue) := iGetEventUplink link.uplink link.queue t.socket t.failed
  { link with uplink := uplink, queue := queue, rounds := link.rounds + 1 }

/-- The loop body of `D_ProcessEvents`. -/
def processEvent (t : TicInput) (st : Controls) (ev : EngineEvent) : Controls :=
  if t.menu ev then st else (st.gResponder cfg t.screen (.key ev)).2

/-- `D_ProcessEvents`. -/
def dProcessEvents (link : ControlLink) : ControlLink :=
  let (events, queue) := popEvents link.queue
  { link with
    queue := queue
    controls := events.foldl (processEvent cfg (link.input env)) link.controls }

/-- The callbacks of the tic loop. -/
def controlInterface : LoopInterface ControlLink where
  iStartTic := iStartTic env
  processEvents := dProcessEvents cfg env
  runMenu link := link
  buildTiccmd link _ :=
    let (cmd, controls) := gBuildTiccmd cfg (link.input env).inputs link.controls
    (cmd, { link with controls := controls, builds := link.builds ++ [link.rounds] })
  runTic link _ _ := link

end

end DoomSat.Engine
