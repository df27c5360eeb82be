import DoomSat.Support.Edges

/-!
# `DoomSat.Support.Sampling`: a sampled level that is transmitted now and then

A level is sampled often and transmitted more seldom. The samples are cut into windows, and the
last sample of each window is transmitted. `lastLevels` is what is transmitted.

The receiver sees the same changes as the sampler when no window has more than one change
(`OneChangeEach`). `edges_flatten_eq_iff` says that this is also necessary, and
`destutter_flatten_eq_iff` says it without a level before the first sample. There the first
window must have no change at all.

Levels of an arbitrary type are allowed. Nothing here depends on the program under
verification.
-/

set_option autoImplicit false

namespace DoomSat.Support

variable {α : Type}

/-- The last level of each window. A window without samples repeats the level before it. -/
def lastLevels : α → List (List α) → List α
  | _, [] => []
  | prev, w :: ws => w.getLastD prev :: lastLevels (w.getLastD prev) ws

variable [DecidableEq α]

/-- Each window has at most one change, counted from the last level of the window before. -/
def OneChangeEach : α → List (List α) → Prop
  | _, [] => True
  | prev, w :: ws => (edges prev w).length ≤ 1 ∧ OneChangeEach (w.getLastD prev) ws

instance decidableOneChangeEach : ∀ (prev : α) (ws : List (List α)),
    Decidable (OneChangeEach prev ws)
  | _, [] => isTrue trivial
  | prev, w :: ws =>
    have := decidableOneChangeEach (w.getLastD prev) ws
    inferInstanceAs (Decidable (_ ∧ _))

/-! ### One window -/

/-- A single sample has at most one change. -/
theorem length_edges_singleton_le (prev level : α) : (edges prev [level]).length ≤ 1 := by
  rw [edges_cons]
  split <;> simp

/-- A window with at most one change has the changes of its last level. -/
theorem edges_eq_edges_getLastD {prev : α} {w : List α} (h : (edges prev w).length ≤ 1) :
    edges prev w = edges prev [w.getLastD prev] := by
  rw [edges_cons, edges_nil, ← getLastD_edges]
  have hchain := isChain_edges prev w
  match hedges : edges prev w, h with
  | [], _ => simp
  | [level], _ =>
    rw [hedges] at hchain
    have hne : prev ≠ level := (List.isChain_cons_cons.mp hchain).1
    exact (if_neg hne.symm).symm

/-- The last level alone has no more changes than the window. -/
theorem length_edges_getLastD_le (prev : α) (w : List α) :
    (edges prev [w.getLastD prev]).length ≤ (edges prev w).length := by
  by_cases h : (edges prev w).length ≤ 1
  · rw [edges_eq_edges_getLastD h]
  · have := length_edges_singleton_le prev (w.getLastD prev)
    omega

/-- A window has no change exactly when all its samples are the level before it. -/
theorem edges_eq_nil_iff {prev : α} {w : List α} :
    edges prev w = [] ↔ ∀ level ∈ w, level = prev := by
  constructor
  · intro h level hlevel
    have hmem : level ∈ prev :: edges prev w :=
      mem_cons_edges.mpr (List.mem_cons_of_mem _ hlevel)
    rw [h] at hmem
    exact List.mem_singleton.mp hmem
  · intro h
    induction w with
    | nil => rfl
    | cons level w ih =>
      rw [edges_cons, if_pos (h level List.mem_cons_self)]
      exact ih fun level' hlevel' => h level' (List.mem_cons_of_mem _ hlevel')

/-! ### All windows -/

/-- The changes of the transmitted levels, window by window. -/
theorem edges_lastLevels_cons (prev : α) (w : List α) (ws : List (List α)) :
    edges prev (lastLevels prev (w :: ws))
      = edges prev [w.getLastD prev]
        ++ edges (w.getLastD prev) (lastLevels (w.getLastD prev) ws) :=
  edges_append prev [w.getLastD prev] _

/-- What is transmitted has no more changes than the samples. -/
theorem length_edges_lastLevels_le (prev : α) (ws : List (List α)) :
    (edges prev (lastLevels prev ws)).length ≤ (edges prev ws.flatten).length := by
  induction ws generalizing prev with
  | nil => exact Nat.le_refl _
  | cons w ws ih =>
    rw [edges_lastLevels_cons, List.flatten_cons, edges_append, List.length_append,
      List.length_append]
    exact Nat.add_le_add (length_edges_getLastD_le prev w) (ih _)

/-- The transmitted levels have the changes of the samples exactly when no window has more than
one change. -/
theorem edges_flatten_eq_iff (prev : α) (ws : List (List α)) :
    edges prev (lastLevels prev ws) = edges prev ws.flatten ↔ OneChangeEach prev ws := by
  induction ws generalizing prev with
  | nil => simp [lastLevels, OneChangeEach]
  | cons w ws ih =>
    rw [edges_lastLevels_cons, List.flatten_cons, edges_append]
    constructor
    · intro h
      -- Neither the window nor the others can have lost a change, by the lengths.
      have hlen := congrArg List.length h
      rw [List.length_append, List.length_append] at hlen
      have hw := length_edges_getLastD_le prev w
      have hws := length_edges_lastLevels_le (w.getLastD prev) ws
      have hone := length_edges_singleton_le prev (w.getLastD prev)
      have hle : (edges prev w).length ≤ 1 := by omega
      rw [← edges_eq_edges_getLastD hle] at h
      exact ⟨hle, (ih _).mp (List.append_cancel_left h)⟩
    · rintro ⟨hle, hrest⟩
      rw [← edges_eq_edges_getLastD hle, (ih _).mpr hrest]

/-- The same without a level before the first sample: the first window has no change. -/
theorem destutter_flatten_eq_iff (prev level : α) (w : List α) (ws : List (List α)) :
    (lastLevels prev ((level :: w) :: ws)).destutter (· ≠ ·)
        = ((level :: w) :: ws).flatten.destutter (· ≠ ·)
      ↔ (∀ level' ∈ w, level' = level) ∧ OneChangeEach level ws := by
  rw [lastLevels, List.getLastD_cons, List.flatten_cons, List.cons_append,
    List.destutter_cons', List.destutter_cons', ← cons_edges, ← cons_edges, edges_append,
    ← edges_eq_nil_iff, List.cons.injEq]
  constructor
  · rintro ⟨hlast, h⟩
    rw [hlast] at h
    have hlen := congrArg List.length h
    have hle := length_edges_lastLevels_le level ws
    rw [List.length_append] at hlen
    have hnil : edges level w = [] := List.length_eq_zero_iff.mp (by omega)
    rw [hnil, List.nil_append] at h
    exact ⟨hnil, (edges_flatten_eq_iff level ws).mp h⟩
  · rintro ⟨hnil, hrest⟩
    have hlast : w.getLastD level = level := by
      rw [← getLastD_edges, hnil]
      rfl
    rw [hlast, hnil, List.nil_append]
    exact ⟨rfl, (edges_flatten_eq_iff level ws).mpr hrest⟩

end DoomSat.Support
