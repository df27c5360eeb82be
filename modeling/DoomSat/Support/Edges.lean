import Mathlib.Data.List.Destutter

/-!
# `DoomSat.Support.Edges`: the changes of a sampled level

A level is sampled again and again, and only its changes are signalled. `edges prev levels`
is the list of signals: each sample that differs from the one before it, where `prev` is the
level before the first sample.

An observer of the signals knows the level. `getLastD_edges` says that the last signal is
the last sample, `isChain_edges` that no signal repeats the one before it, and
`mem_cons_edges` that no sampled value is missing. `edges_append` splits the signals where
the samples are split.

Levels of an arbitrary type are allowed. Nothing here depends on the program under
verification.
-/

set_option autoImplicit false

namespace DoomSat.Support

variable {α : Type} [DecidableEq α]

/-- The samples that differ from the sample before them. -/
def edges (prev : α) (levels : List α) : List α := (levels.destutter' (· ≠ ·) prev).tail

/-- No levels, no edges. -/
@[simp] theorem edges_nil (prev : α) : edges prev [] = [] := rfl

/-- With the level before them, the edges are Mathlib's list without repetitions. -/
theorem cons_edges (prev : α) (levels : List α) :
    prev :: edges prev levels = levels.destutter' (· ≠ ·) prev := by
  induction levels generalizing prev with
  | nil => rfl
  | cons level levels ih =>
    rw [edges, List.destutter']
    split
    · rfl
    · exact ih prev

/-- A sample is an edge when it differs from the level before it. It is the unfolding rule of
`edges`, which the other proofs go by. -/
theorem edges_cons (prev level : α) (levels : List α) :
    edges prev (level :: levels)
      = if level = prev then edges prev levels else level :: edges level levels := by
  rw [edges, List.destutter']
  by_cases h : level = prev
  · rw [if_pos h, if_neg (not_not_intro h.symm)]
    rfl
  · rw [if_neg h, if_pos (Ne.symm h), List.tail_cons, cons_edges]

/-- No edge repeats the level before it. -/
theorem isChain_edges (prev : α) (levels : List α) :
    (prev :: edges prev levels).IsChain (· ≠ ·) := by
  rw [cons_edges]
  exact List.isChain_destutter' _ _ _

/-- The last edge is the last sample. -/
theorem getLastD_edges (prev : α) (levels : List α) :
    (edges prev levels).getLastD prev = levels.getLastD prev := by
  induction levels generalizing prev with
  | nil => rfl
  | cons level levels ih =>
    rw [edges_cons]
    split
    · next h => rw [ih, h, List.getLastD_cons]
    · rw [List.getLastD_cons, List.getLastD_cons, ih]

/-- Every sampled value is the level at the start or an edge. A sample that is no edge repeats
the level before it. -/
theorem mem_cons_edges {prev value : α} {levels : List α} :
    value ∈ prev :: edges prev levels ↔ value ∈ prev :: levels := by
  induction levels generalizing prev with
  | nil => rfl
  | cons level levels ih =>
    rw [edges_cons]
    split
    · next h =>
      rw [ih, h]
      simp
    · rw [List.mem_cons, ih]
      simp only [List.mem_cons]

/-- The edges of a concatenation are the edges of its two parts. The second part starts at the
last level of the first. -/
theorem edges_append (prev : α) (levels levels' : List α) :
    edges prev (levels ++ levels')
      = edges prev levels ++ edges (levels.getLastD prev) levels' := by
  induction levels generalizing prev with
  | nil => rfl
  | cons level levels ih =>
    rw [List.cons_append, edges_cons, edges_cons, List.getLastD_cons]
    split
    · next h => rw [ih, h]
    · rw [ih, List.cons_append]

end DoomSat.Support
