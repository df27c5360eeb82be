import Mathlib.Logic.Function.Basic

/-!
# `DoomSat.Support.Stored`: lists in an array

`Stored array i xs` says that the elements of `xs` are in the array from index `i` on. A proof
about a loop over the array follows the list: `stored_append` splits it where the loop is,
`Stored.move` is the rule for elements that were copied to other indices, and `Stored.update`
is the rule for a write before the list.

Nothing here depends on the program under verification.
-/

set_option autoImplicit false

namespace DoomSat.Support

variable {α : Type}

/-- The array has the elements of the list from index `i` on. -/
def Stored (array : Nat → α) (i : Nat) : List α → Prop
  | [] => True
  | x :: xs => array i = x ∧ Stored array (i + 1) xs

/-- Two lists are stored one after the other: the second begins where the first ends. -/
theorem stored_append {array : Nat → α} {i : Nat} {xs ys : List α} :
    Stored array i (xs ++ ys) ↔ Stored array i xs ∧ Stored array (i + xs.length) ys := by
  induction xs generalizing i with
  | nil => simp [Stored]
  | cons x xs ih =>
    simp only [List.cons_append, Stored, ih, List.length_cons, and_assoc]
    rw [Nat.add_right_comm i 1, Nat.add_assoc]

/-- The elements of the list are at index `j` of an array that has copies of them there. It is
the rule for a loop that moves elements up or down. -/
theorem Stored.move {array array' : Nat → α} {i j : Nat} {xs : List α}
    (h : Stored array i xs) (hcopy : ∀ k < xs.length, array' (j + k) = array (i + k)) :
    Stored array' j xs := by
  induction xs generalizing i j with
  | nil => trivial
  | cons x xs ih =>
    obtain ⟨hx, hxs⟩ := h
    refine ⟨(hcopy 0 (Nat.succ_pos _)).trans hx, ih hxs fun k hk => ?_⟩
    have := hcopy (k + 1) (Nat.succ_lt_succ hk)
    rwa [Nat.add_right_comm j, Nat.add_right_comm i]

/-- An array that agrees where the list is has the list. -/
theorem Stored.congr {array array' : Nat → α} {i : Nat} {xs : List α}
    (h : Stored array i xs) (hagree : ∀ k, i ≤ k → k < i + xs.length → array' k = array k) :
    Stored array' i xs :=
  h.move fun k hk => hagree (i + k) (Nat.le_add_right i k) (Nat.add_lt_add_left hk i)

/-- A write before the list does not change it. -/
theorem Stored.update {array : Nat → α} {i j : Nat} {xs : List α} (h : Stored array i xs)
    (hj : j < i) (x : α) : Stored (Function.update array j x) i xs :=
  h.congr fun k hk _ => Function.update_of_ne (by omega) x array

end DoomSat.Support
