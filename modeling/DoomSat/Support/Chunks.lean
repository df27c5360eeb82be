import Mathlib.Algebra.Order.Floor.Div
import Mathlib.Data.List.Basic

/-!
# `DoomSat.Support.Chunks`: a list in pieces of a fixed size

`chunks n xs` cuts a list into pieces of `n` elements, and the last piece can be shorter. The
pieces are not empty (`ne_nil_of_mem_chunks`), have at most `n` elements
(`length_le_of_mem_chunks`) and are the list again when they are put together
(`flatten_chunks`). Their number is the length divided by `n`, rounded up
(`length_chunks`).

The elements have an arbitrary type. Nothing here depends on the program under verification.
-/

set_option autoImplicit false

namespace DoomSat.Support

variable {α : Type}

/-- Cuts the list into pieces of `n` elements. Pieces of no elements cut nothing. -/
def chunks (n : Nat) (xs : List α) : List (List α) :=
  if _h : 0 < xs.length ∧ 0 < n then xs.take n :: chunks n (xs.drop n) else []
termination_by xs.length
decreasing_by
  simp only [List.length_drop]
  omega

/-- The empty list has no pieces. -/
@[simp] theorem chunks_nil (n : Nat) : chunks n ([] : List α) = [] := by
  rw [chunks, dif_neg (by simp)]

/-- The first piece of a list that is not empty, and the others. -/
theorem chunks_of_pos {n : Nat} {xs : List α} (hxs : 0 < xs.length) (hn : 0 < n) :
    chunks n xs = xs.take n :: chunks n (xs.drop n) := by
  rw [chunks, dif_pos ⟨hxs, hn⟩]

/-- A property of all cuts by induction on the pieces: it holds of the empty list, and of a list
when it holds of what its first piece leaves. -/
theorem chunks_induction {n : Nat} (hn : 0 < n) {P : List α → Prop} (hnil : P [])
    (hstep : ∀ xs, 0 < xs.length → P (xs.drop n) → P xs) (xs : List α) : P xs := by
  by_cases hxs : 0 < xs.length
  · exact hstep xs hxs (chunks_induction hn hnil hstep (xs.drop n))
  · have hempty : xs = [] := List.length_eq_zero_iff.mp (by omega)
    rw [hempty]
    exact hnil
termination_by xs.length
decreasing_by
  simp only [List.length_drop]
  omega

/-- The pieces put together are the list. -/
theorem flatten_chunks {n : Nat} (hn : 0 < n) (xs : List α) : (chunks n xs).flatten = xs := by
  induction xs using chunks_induction hn with
  | hnil => simp
  | hstep xs hxs ih => rw [chunks_of_pos hxs hn, List.flatten_cons, ih, List.take_append_drop]

/-- The number of pieces is the length over the size of a piece, rounded up. A last piece that
is shorter counts as one. -/
theorem length_chunks {n : Nat} (hn : 0 < n) (xs : List α) :
    (chunks n xs).length = xs.length ⌈/⌉ n := by
  induction xs using chunks_induction hn with
  | hnil => simp
  | hstep xs hxs ih =>
    rw [chunks_of_pos hxs hn, List.length_cons, ih, List.length_drop]
    simp only [Nat.ceilDiv_eq_add_pred_div]
    by_cases hle : n ≤ xs.length
    · -- One piece takes `n` elements off the length.
      rw [← Nat.add_div_right _ hn]
      congr 1
      omega
    · -- The one piece is shorter, and it counts.
      rw [Nat.div_eq_of_lt (by omega), Nat.div_eq_of_lt_le (k := 1) (by omega) (by omega)]

/-- A piece has elements. -/
theorem ne_nil_of_mem_chunks {n : Nat} (hn : 0 < n) {xs piece : List α}
    (h : piece ∈ chunks n xs) : piece ≠ [] := by
  induction xs using chunks_induction hn with
  | hnil => simp at h
  | hstep xs hxs ih =>
    rw [chunks_of_pos hxs hn, List.mem_cons] at h
    rcases h with rfl | h
    · simp only [ne_eq, List.take_eq_nil_iff, not_or]
      exact ⟨by omega, List.length_pos_iff.mp hxs⟩
    · exact ih h

/-- A piece has at most `n` elements. -/
theorem length_le_of_mem_chunks {n : Nat} (hn : 0 < n) {xs piece : List α}
    (h : piece ∈ chunks n xs) : piece.length ≤ n := by
  induction xs using chunks_induction hn with
  | hnil => simp at h
  | hstep xs hxs ih =>
    rw [chunks_of_pos hxs hn, List.mem_cons] at h
    rcases h with rfl | h
    · simp
    · exact ih h

end DoomSat.Support
