import DoomSat.Proofs.GameLoop.Order

/-!
# `DoomSat.Proofs.GameLoop.Callbacks`: what the callbacks keep in a run of the loop

The tic loop calls the rest of the engine in rounds: `I_StartTic`, `ProcessEvents`, `RunMenu`,
and then `BuildTiccmd` unless enough commands wait. Between the rounds it calls `RunTic`.

`CallbackInv` lists what a property of the engine and of the commands needs from each
callback, and `runLoop_callbacks` is the rule: such a property holds after every run of the
loop.
-/

set_option autoImplicit false

namespace DoomSat.Engine

open Support

variable {γ : Type}

/-- The callbacks keep `inv`, and `fresh` is what a command can rely on. -/
structure CallbackInv (interface : LoopInterface γ) (inv fresh : γ → List Ticcmd → Prop) :
    Prop where
  round : ∀ game built, inv game built →
    fresh (interface.runMenu (interface.processEvents (interface.iStartTic game))) built
  weaken : ∀ game built, fresh game built → inv game built
  build : ∀ game built maketic, fresh game built →
    inv (interface.buildTiccmd game maketic).2
      (built ++ [(interface.buildTiccmd game maketic).1])
  run : ∀ game built gametic set, inv game built →
    inv (interface.runTic game gametic set) built

/-- A checked `int` gives the number itself, or it stops. In this module nothing is said about
the stops, so an overflow needs no bound. -/
theorem ensures_int (n : Int) : Ensures (int n) (fun m => m = n) fun _ => True :=
  (int_ensures n).mono (fun _ hm => hm) fun _ _ => trivial

/-- A reading of the clock calls nothing: it changes neither the engine nor the list of
commands. -/
theorem getAdjustedTime_callbacks (clock : Nat → UInt32) {inv : γ → List Ticcmd → Prop}
    {st : Loop γ} (hst : inv st.game st.built) :
    Ensures (getAdjustedTime clock st) (fun next => inv next.2.game next.2.built)
      fun _ => True :=
  (ensures_int _).bind fun _ _ => .ok hst

section
variable (clock : Nat → UInt32) (settings : Settings) {interface : LoopInterface γ}
  {inv fresh : γ → List Ticcmd → Prop} (h : CallbackInv interface inv fresh)
include h

/-- `BuildNewTic` is one round. After `I_StartTic`, `ProcessEvents` and `RunMenu` the engine is
`fresh`, and then it either builds a command or leaves without one. -/
theorem buildNewTic_callbacks {st : Loop γ} (hst : inv st.game st.built) :
    Ensures (buildNewTic settings interface st) (fun next => inv next.2.game next.2.built)
      fun _ => True := by
  have hfresh := h.round _ _ hst
  unfold buildNewTic
  dsimp only
  -- The buffer is full, or `BuildTiccmd` is called.
  split
  · exact .ok (h.weaken _ _ hfresh)
  · refine (increment_ensures (.inr trivial)).bind fun maketic _ => .ok ?_
    exact h.build _ _ st.maketic hfresh

/-- The loop of `NetUpdate` repeats the round. The induction is on the tics that are left, and
the invariant goes from one round to the next. -/
theorem buildTics_callbacks (newtics : Nat) {st : Loop γ} (hst : inv st.game st.built) :
    Ensures (buildTics settings interface newtics st) (fun st' => inv st'.game st'.built)
      fun _ => True := by
  induction newtics generalizing st with
  | zero => exact .ok hst
  | succ newtics ih =>
    refine (buildNewTic_callbacks settings h hst).bind fun next hnext => ?_
    dsimp only
    split
    · exact ih hnext
    · exact .ok hnext

/-- `NetUpdate` keeps the invariant in both branches of the skipped tics. In the second one its
loop is empty. -/
theorem netUpdate_callbacks {st : Loop γ} (hst : inv st.game st.built) :
    Ensures (netUpdate clock settings interface st) (fun st' => inv st'.game st'.built)
      fun _ => True := by
  unfold netUpdate
  -- With `-timedemo` there is nothing to do.
  split
  · exact .ok hst
  · refine (getAdjustedTime_callbacks clock hst).bind fun next hnext => ?_
    refine (ensures_int _).bind fun newtics _ => ?_
    dsimp only
    split
    · exact (ensures_int _).bind fun tics _ => buildTics_callbacks settings h _ hnext
    · exact (ensures_int _).bind fun skiptics _ => buildTics_callbacks settings h 0 hnext

/-- The start of `TryRunTics` builds commands through `BuildNewTic` (with `-timedemo`) or
through `NetUpdate`. -/
theorem buildNewTics_callbacks {st : Loop γ} (hst : inv st.game st.built) :
    Ensures (buildNewTics clock settings interface st) (fun st' => inv st'.game st'.built)
      fun _ => True := by
  unfold buildNewTics
  split
  · exact (buildNewTic_callbacks settings h hst).bind fun next hnext => .ok hnext
  · exact netUpdate_callbacks clock settings h hst

/-- The loop that waits calls nothing but `NetUpdate`. The induction is on its fuel, and the
state changes from round to round. -/
theorem waitTics_callbacks (entertic counts : Int) (fuel : Nat) (lowtic : Int) {st : Loop γ}
    (hst : inv st.game st.built) :
    Ensures (waitTics clock settings interface entertic counts fuel lowtic st)
      (fun next => inv next.2.game next.2.built) fun _ => True := by
  induction fuel generalizing lowtic st with
  | zero =>
    rw [waitTics]
    refine (ensures_int _).bind fun target _ => ?_
    split
    · exact .ok hst
    · exact .error trivial
  | succ fuel ih =>
    rw [waitTics]
    refine (ensures_int _).bind fun target _ => ?_
    split
    · exact .ok hst
    · refine (netUpdate_callbacks clock settings h hst).bind fun st' hst' => ?_
      dsimp only
      split
      · exact .error trivial
      · split
        · split
          · exact .ok hst'
          · exact ih _ hst'
        · exact ih _ hst'

/-- The loop over `ticdup` calls `RunTic` and builds nothing. The check against `lowtic` can
only stop the program. -/
theorem runDuplicates_callbacks (slot : Fin BACKUPTICS) (lowtic : Int) (n : Nat) {st : Loop γ}
    (hst : inv st.game st.built) :
    Ensures (runDuplicates settings interface slot lowtic n st)
      (fun st' => inv st'.game st'.built) fun _ => True := by
  induction n generalizing st with
  | zero => exact .ok hst
  | succ n ih =>
    rw [runDuplicates]
    split
    · exact .error trivial
    · refine (increment_ensures (.inr trivial)).bind fun gametic _ => ih ?_
      exact h.run _ _ st.gametic (st.ticdata slot) hst

/-- The loop over `counts` alternates between running a command and `NetUpdate`. Both keep the
invariant, so no bound on `counts` is needed. -/
theorem runCounts_callbacks (lowtic : Int) (counts : Nat) {st : Loop γ}
    (hst : inv st.game st.built) :
    Ensures (runCounts clock settings interface lowtic counts st)
      (fun st' => inv st'.game st'.built) fun _ => True := by
  induction counts generalizing st with
  | zero => exact .ok hst
  | succ counts ih =>
    rw [runCounts]
    refine (runDuplicates_callbacks settings h _ lowtic settings.ticdup ?_).bind
      fun st₁ hst₁ => ?_
    · exact hst
    · exact (netUpdate_callbacks clock settings h hst₁).bind fun st₂ hst₂ => ih hst₂

/-- Every call of the loop keeps the invariant. `D_StartGameLoop` and `I_GetTime` only read the
clock. -/
theorem loopStep_callbacks {st : Loop γ} (hst : inv st.game st.built) (call : LoopCall) :
    Ensures (loopStep clock settings interface st call) (fun st' => inv st'.game st'.built)
      fun _ => True := by
  cases call with
  | netUpdate => exact netUpdate_callbacks clock settings h hst
  | tryRunTics fuel =>
    refine (ensures_int _).bind fun realtics _ => ?_
    refine (buildNewTics_callbacks clock settings h ?_).bind fun st₁ hst₁ => ?_
    · exact hst
    · -- The commands are built. What is left is to wait for them and to run them.
      unfold runAvailable
      refine (waitTics_callbacks clock settings h _ _ fuel _ hst₁).bind fun next hnext => ?_
      obtain ⟨lowtic, st₂⟩ := next
      cases lowtic with
      | none => exact .ok hnext
      | some lowtic => exact runCounts_callbacks clock settings h lowtic _ hnext
  | dStartGameLoop =>
    exact (getAdjustedTime_callbacks clock hst).bind fun next hnext => .ok hnext
  | iGetTime => exact .ok hst

/-- What the callbacks keep holds after every run of the loop. To use it, state the property as
`inv`, and prove one field of `CallbackInv` for each callback. -/
theorem runLoop_callbacks {game : γ} (hgame : inv game []) (calls : List LoopCall) :
    Ensures (runLoop clock settings interface game calls) (fun st => inv st.game st.built)
      fun _ => True := by
  refine ensures_foldlM ?_ calls hgame
  intro st call hst
  exact loopStep_callbacks clock settings h hst call

end

end DoomSat.Engine
