import Mathlib.Data.List.Induction

/-!
# `DoomSat.Support.Machine`: runs of a machine with outputs

A machine takes an action in a state and gives the next state and some outputs. A run takes
a list of actions, and it collects the outputs in order. An interleaving of threads is a
list of actions in which each action names its thread.

`run_invariant` is the induction rule: what holds of the initial state without outputs, and
of every step, holds of every run. `run_trans` puts two runs in a row, and `run_replicate` is
the rule for a loop that repeats one action.

A step can also fail, and `runExcept` stops at the first failure. `runExcept_eq_ok` is the
simulation rule: a fallible machine that does what a machine without failures does, step by
step, fails in no run.

The states, actions and outputs have arbitrary types. Nothing here depends on the program
under verification.
-/

set_option autoImplicit false

namespace DoomSat.Support

variable {σ α ω : Type}

/-- The state and the outputs after the actions. -/
def run (step : σ → α → σ × List ω) (s : σ) : List α → σ × List ω
  | [] => (s, [])
  | a :: as =>
    let next := step s a
    let rest := run step next.1 as
    (rest.1, next.2 ++ rest.2)

variable (step : σ → α → σ × List ω)

/-- The empty run changes nothing and has no output. -/
@[simp] theorem run_nil (s : σ) : run step s [] = (s, []) := rfl

/-- A run of a concatenation is a run of the first part, then of the second. -/
theorem run_append (s : σ) (as bs : List α) :
    run step s (as ++ bs)
      = ((run step (run step s as).1 bs).1,
        (run step s as).2 ++ (run step (run step s as).1 bs).2) := by
  induction as generalizing s with
  | nil => rfl
  | cons a as ih => simp only [List.cons_append, run, ih, List.append_assoc]

/-- A run with one more action takes one more step. -/
theorem run_concat (s : σ) (as : List α) (a : α) :
    run step s (as ++ [a])
      = ((step (run step s as).1 a).1, (run step s as).2 ++ (step (run step s as).1 a).2) := by
  rw [run_append]
  simp [run]

/-- Two runs in a row, given by their results. -/
theorem run_trans {s s' s'' : σ} {as bs : List α} {out out' : List ω}
    (has : run step s as = (s', out)) (hbs : run step s' bs = (s'', out')) :
    run step s (as ++ bs) = (s'', out ++ out') := by
  rw [run_append, has]
  dsimp only
  rw [hbs]

/-- A loop that repeats one action `n` times without an output. `P i` describes the state
before round `i`, and the rule carries it to the round after the last one. -/
theorem run_replicate (P : Nat → σ → Prop) (a : α) {n i : Nat} {s : σ} (hs : P i s)
    (hround : ∀ j t, j < i + n → P j t → (step t a).2 = [] ∧ P (j + 1) (step t a).1) :
    ∃ s', run step s (List.replicate n a) = (s', []) ∧ P (i + n) s' := by
  induction n generalizing i s with
  | zero => exact ⟨s, rfl, hs⟩
  | succ n ih =>
    obtain ⟨hsilent, hnext⟩ := hround i s (Nat.lt_add_of_pos_right (Nat.succ_pos n)) hs
    have hshift : i + 1 + n = i + (n + 1) := by omega
    -- The first round is done, and `n` rounds from `i + 1` on are left.
    obtain ⟨s', hrun, hP⟩ := ih hnext fun j t hj => hround j t (hshift ▸ hj)
    refine ⟨s', ?_, hshift ▸ hP⟩
    rw [List.replicate_succ, run, hrun, hsilent]
    rfl

/-- What holds at the start and is kept by every step holds after every run. -/
theorem run_invariant (I : σ → List ω → Prop) {s : σ} (hinit : I s [])
    (hstep : ∀ st out a, I st out → I (step st a).1 (out ++ (step st a).2)) (as : List α) :
    I (run step s as).1 (run step s as).2 := by
  -- The induction adds the last action, since the outputs grow at the end.
  induction as using List.reverseRecOn with
  | nil => exact hinit
  | append_singleton as a ih =>
    rw [run_concat]
    exact hstep _ _ a ih

/-! ### Steps that can fail -/

/-- The state and the outputs after the actions, or the first failure. -/
def runExcept {ε : Type} (step : σ → α → Except ε (σ × List ω)) (s : σ) :
    List α → Except ε (σ × List ω)
  | [] => .ok (s, [])
  | a :: as => do
    let next ← step s a
    let rest ← runExcept step next.1 as
    .ok (rest.1, next.2 ++ rest.2)

/-- A fallible machine whose states `f t` follow the machine of the `t` runs as that one. -/
theorem runExcept_eq_ok {ε τ : Type} {stepExcept : σ → α → Except ε (σ × List ω)}
    {step : τ → α → τ × List ω} {f : τ → σ}
    (hstep : ∀ t a, stepExcept (f t) a = .ok (f (step t a).1, (step t a).2)) (t : τ)
    (as : List α) :
    runExcept stepExcept (f t) as = .ok (f (run step t as).1, (run step t as).2) := by
  induction as generalizing t with
  | nil => rfl
  | cons a as ih =>
    rw [runExcept, hstep]
    show (runExcept stepExcept (f (step t a).1) as >>= _) = _
    rw [ih]
    rfl

end DoomSat.Support
