import Mathlib.Algebra.Ring.Nat
import Mathlib.Data.Fin.Basic
import Mathlib.Logic.Function.Basic

/-!
# `DoomSat.Support.SequenceWindow`: the last elements of a sequence in an array

A sequence grows at its end, and an array of `n` cells keeps its youngest elements: element
`j` lies in the cell `j % n`. `HoldsWindow cells xs lo` says that the elements of `xs` from
`lo` on lie in their cells.

`HoldsWindow.store` appends an element. It needs a free cell: fewer than `n` elements from
`lo` on. `HoldsWindow.drop` gives up the element `lo`, and its cell may get any content.

The elements have an arbitrary type. Nothing here depends on the program under
verification.
-/

set_option autoImplicit false

namespace DoomSat.Support

variable {α : Type} {n : Nat} [NeZero n]

/-- The elements from `lo` on lie in their cells. -/
def HoldsWindow (cells : Fin n → α) (xs : List α) (lo : Nat) : Prop :=
  ∀ j x, lo ≤ j → xs[j]? = some x → cells (Fin.ofNat n j) = x

/-- Two elements at a distance below `n` lie in different cells, since their difference is no
multiple of `n`. -/
theorem ofNat_ne_ofNat {i j : Nat} (hlt : i < j) (hdist : j < i + n) :
    Fin.ofNat n i ≠ Fin.ofNat n j := by
  intro heq
  have hmod : i % n = j % n := congrArg Fin.val heq
  have hdvd : n ∣ j - i := Nat.dvd_of_mod_eq_zero (Nat.sub_mod_eq_zero_of_mod_eq hmod.symm)
  have hle : n ≤ j - i := Nat.le_of_dvd (by omega) hdvd
  omega

variable {cells : Fin n → α} {xs : List α} {lo : Nat}

/-- An empty window holds. -/
theorem holdsWindow_length (cells : Fin n → α) (xs : List α) :
    HoldsWindow cells xs xs.length := by
  intro j x hj hx
  rw [List.getElem?_eq_none hj] at hx
  cases hx

/-- The new element goes into the cell behind the window. -/
theorem HoldsWindow.store (h : HoldsWindow cells xs lo) (hroom : xs.length < lo + n) (x : α) :
    HoldsWindow (Function.update cells (Fin.ofNat n xs.length) x) (xs ++ [x]) lo := by
  intro j y hj hy
  rcases Nat.lt_trichotomy j xs.length with hlt | rfl | hgt
  · -- The cell of an old element is another one.
    rw [Function.update_of_ne (ofNat_ne_ofNat hlt (by omega))]
    rw [List.getElem?_append_left hlt] at hy
    exact h j y hj hy
  · rw [Function.update_self]
    simpa using hy
  · rw [List.getElem?_eq_none (by simp; omega)] at hy
    cases hy

/-- The oldest element is given up, with its cell. -/
theorem HoldsWindow.drop (h : HoldsWindow cells xs lo) (hroom : xs.length ≤ lo + n) (x : α) :
    HoldsWindow (Function.update cells (Fin.ofNat n lo) x) xs (lo + 1) := by
  intro j y hj hy
  have hlt : j < xs.length := (List.getElem?_eq_some_iff.mp hy).1
  rw [Function.update_of_ne (ofNat_ne_ofNat hj (by omega)).symm]
  exact h j y (by omega) hy

end DoomSat.Support
