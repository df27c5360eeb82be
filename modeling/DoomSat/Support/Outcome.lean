import DoomSat.Support.Machine

/-!
# `DoomSat.Support.Outcome`: rules for computations that can fail

A computation in `Except ε` ends in a result or in a failure. `Ensures x post fail` says that
a result of `x` satisfies `post` and that a failure of `x` satisfies `fail`. It is the
weakest precondition of `x` for these two postconditions.

There is one rule for each way to build a computation: `Ensures.ok`, `Ensures.error`,
`Ensures.bind` and, for the actions of a run, `ensures_foldlM` and `ensures_runExcept`.
`Ensures.mono` weakens the postconditions, and `Ensures.bind_congr` replaces the second part of
a computation.

`ensures_countdown` is the termination rule for one thread of an interleaving. When each
step of the thread counts its rank down, and no step of another thread counts it up, the
rank is 0 after enough steps of the thread.

The results and the failures have arbitrary types. Nothing here depends on the program under
verification.
-/

set_option autoImplicit false

namespace DoomSat.Support

variable {ε α β : Type}

/-- A result satisfies `post`, and a failure satisfies `fail`. -/
inductive Ensures : Except ε α → (α → Prop) → (ε → Prop) → Prop where
  | ok {a : α} {post : α → Prop} {fail : ε → Prop} (h : post a) : Ensures (.ok a) post fail
  | error {e : ε} {post : α → Prop} {fail : ε → Prop} (h : fail e) :
      Ensures (.error e) post fail

/-- What a result satisfies. -/
theorem Ensures.of_ok {x : Except ε α} {a : α} {post : α → Prop} {fail : ε → Prop}
    (h : Ensures x post fail) (hx : x = .ok a) : post a := by
  subst hx
  cases h with
  | ok h => exact h

/-- What a failure satisfies. -/
theorem Ensures.of_error {x : Except ε α} {e : ε} {post : α → Prop} {fail : ε → Prop}
    (h : Ensures x post fail) (hx : x = .error e) : fail e := by
  subst hx
  cases h with
  | error h => exact h

/-- Without possible failures there is a result. -/
theorem Ensures.exists_ok {x : Except ε α} {post : α → Prop}
    (h : Ensures x post fun _ => False) : ∃ a, x = .ok a ∧ post a := by
  cases h with
  | ok h => exact ⟨_, rfl, h⟩
  | error h => exact h.elim

/-- Postconditions can be weakened. -/
theorem Ensures.mono {x : Except ε α} {post post' : α → Prop} {fail fail' : ε → Prop}
    (h : Ensures x post fail) (hpost : ∀ a, post a → post' a)
    (hfail : ∀ e, fail e → fail' e) : Ensures x post' fail' := by
  cases h with
  | ok h => exact .ok (hpost _ h)
  | error h => exact .error (hfail _ h)

/-- Two postconditions for the results hold together. -/
theorem Ensures.and {x : Except ε α} {post post' : α → Prop} {fail fail' : ε → Prop}
    (h : Ensures x post fail) (h' : Ensures x post' fail') :
    Ensures x (fun a => post a ∧ post' a) fail := by
  cases h with
  | ok h => exact .ok ⟨h, h'.of_ok rfl⟩
  | error h => exact .error h

/-- The second part starts from what the first part ensures. -/
theorem Ensures.bind {x : Except ε α} {f : α → Except ε β} {mid : α → Prop} {post : β → Prop}
    {fail : ε → Prop} (hx : Ensures x mid fail) (hf : ∀ a, mid a → Ensures (f a) post fail) :
    Ensures (x >>= f) post fail := by
  cases hx with
  | ok h => exact hf _ h
  | error h => exact .error h

/-- Second parts that agree on what the first part ensures. -/
theorem Ensures.bind_congr {x : Except ε α} {f g : α → Except ε β} {mid : α → Prop}
    {fail : ε → Prop} (hx : Ensures x mid fail) (h : ∀ a, mid a → f a = g a) :
    x >>= f = x >>= g := by
  cases hx with
  | ok hmid => exact h _ hmid
  | error _ => rfl

/-- What every action keeps holds after all of them. It is the invariant rule for a loop that
can fail. -/
theorem ensures_foldlM {σ : Type} {step : σ → α → Except ε σ} {inv : σ → Prop}
    {fail : ε → Prop} (hstep : ∀ s a, inv s → Ensures (step s a) inv fail) (actions : List α)
    {s : σ} (hs : inv s) : Ensures (actions.foldlM step s) inv fail := by
  induction actions generalizing s with
  | nil => exact .ok hs
  | cons a actions ih =>
    rw [List.foldlM_cons]
    exact (hstep s a hs).bind fun s' hs' => ih hs'

/-- What every step of a machine keeps of the state and the outputs holds after a run. The
outputs before the run are part of the invariant, so the rule composes. -/
theorem ensures_runExcept {σ ω : Type} {step : σ → α → Except ε (σ × List ω)}
    {inv : σ → List ω → Prop} {fail : ε → Prop}
    (hstep : ∀ s out a, inv s out →
      Ensures (step s a) (fun next => inv next.1 (out ++ next.2)) fail)
    (actions : List α) {s : σ} {out : List ω} (hs : inv s out) :
    Ensures (runExcept step s actions) (fun next => inv next.1 (out ++ next.2)) fail := by
  induction actions generalizing s out with
  | nil =>
    refine .ok ?_
    show inv s (out ++ [])
    rw [List.append_nil]
    exact hs
  | cons a actions ih =>
    refine (hstep s out a hs).bind fun next hnext => (ih hnext).bind fun rest hrest => .ok ?_
    show inv rest.1 (out ++ (next.2 ++ rest.2))
    rw [← List.append_assoc]
    exact hrest

/-- A run in two parts: the second one starts from the state that the first one leaves, and the
outputs are joined. -/
theorem runExcept_append {σ ω : Type} {step : σ → α → Except ε (σ × List ω)} {s s' : σ}
    {out : List ω} {as : List α} (bs : List α) (h : runExcept step s as = .ok (s', out)) :
    runExcept step s (as ++ bs)
      = runExcept step s' bs >>= fun rest => .ok (rest.1, out ++ rest.2) := by
  induction as generalizing s s' out with
  | nil =>
    cases h
    show runExcept step s bs = _
    cases runExcept step s bs with
    | error e => rfl
    | ok rest => rfl
  | cons a as ih =>
    rw [runExcept] at h
    rw [List.cons_append, runExcept]
    cases hstep : step s a with
    | error e =>
      rw [hstep] at h
      cases h
    | ok next =>
      rw [hstep] at h
      change (runExcept step next.1 as >>= _) = _ at h
      cases hrun : runExcept step next.1 as with
      | error e =>
        rw [hrun] at h
        cases h
      -- Both parts succeed up to here, and only the outputs have to be put together.
      | ok mid =>
        rw [hrun] at h
        cases h
        show (runExcept step next.1 (as ++ bs) >>= _) = _
        rw [ih hrun]
        cases runExcept step mid.1 bs with
        | error e => rfl
        | ok rest => exact congrArg Except.ok (Prod.ext rfl (List.append_assoc ..).symm)

/-- Two runs in a row that both succeed. -/
theorem runExcept_trans {σ ω : Type} {step : σ → α → Except ε (σ × List ω)} {s s' s'' : σ}
    {as bs : List α} {out out' : List ω} (has : runExcept step s as = .ok (s', out))
    (hbs : runExcept step s' bs = .ok (s'', out')) :
    runExcept step s (as ++ bs) = .ok (s'', out ++ out') := by
  rw [runExcept_append bs has, hbs]
  rfl

/-- The rank of a thread counts its own steps down, whatever the other threads do. The rank is a
relation and not a number, so a step may also lower it by more than one. -/
theorem ensures_countdown {σ ω : Type} {step : σ → α → Except ε (σ × List ω)}
    {own : α → Bool} {rank : σ → Nat → Prop} {fail : ε → Prop}
    (hown : ∀ s n a, own a = true → rank s n →
      Ensures (step s a) (fun next => rank next.1 (n - 1)) fail)
    (hother : ∀ s n a, own a = false → rank s n →
      Ensures (step s a) (fun next => rank next.1 n) fail)
    (actions : List α) {s : σ} {n : Nat} (hs : rank s n) :
    Ensures (runExcept step s actions)
      (fun next => rank next.1 (n - actions.countP own)) fail := by
  induction actions generalizing s n with
  | nil => exact .ok hs
  | cons a actions ih =>
    cases ha : own a with
    | true =>
      refine (hown s n a ha hs).bind fun next hnext =>
        (ih hnext).bind fun rest hrest => .ok ?_
      rw [List.countP_cons_of_pos ha, Nat.add_comm, ← Nat.sub_sub]
      exact hrest
    | false =>
      refine (hother s n a ha hs).bind fun next hnext =>
        (ih hnext).bind fun rest hrest => .ok ?_
      rw [List.countP_cons_of_neg (by rw [ha]; exact Bool.false_ne_true)]
      exact hrest

end DoomSat.Support
