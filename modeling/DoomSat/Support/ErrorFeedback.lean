import Mathlib.Algebra.BigOperators.Group.List.Basic
import Mathlib.Tactic.Abel

/-!
# `DoomSat.Support.ErrorFeedback`: rounding that carries its error forward

A sequence of values is rounded one by one. The error of each rounding is added to the next
value, so that small values accumulate. `feed` gives the rounded values and the last error.

`sum_feed` is the law of error feedback: the rounded values and the last error add up to the
values and the first error. So the sum of the rounded values is wrong by one error at most,
however many values there are. `feed_error` bounds this error by the one of the rounding.
`sum_feed_stretch` is the same law for a stretch from the middle of the sequence, which starts
with an error of its own.

The values are those of an arbitrary commutative group. Nothing here depends on the program
under verification.
-/

set_option autoImplicit false

namespace DoomSat.Support

variable {α : Type} [AddCommGroup α] (round : α → α)

/-- The rounded values, and the last error, when `error` is carried into the first value. -/
def feed (error : α) : List α → List α × α
  | [] => ([], error)
  | x :: xs =>
    let desired := x + error
    let rest := feed (desired - round desired) xs
    (round desired :: rest.1, rest.2)

/-- There are as many rounded values as exact ones. -/
@[simp] theorem length_feed (error : α) (xs : List α) :
    (feed round error xs).1.length = xs.length := by
  induction xs generalizing error with
  | nil => rfl
  | cons x xs ih =>
    show (feed round _ xs).1.length + 1 = xs.length + 1
    rw [ih]

/-- Nothing is lost: what is not in the rounded values is in the last error. The induction moves
one error from a value to the next one. -/
theorem sum_feed (error : α) (xs : List α) :
    (feed round error xs).1.sum + (feed round error xs).2 = xs.sum + error := by
  induction xs generalizing error with
  | nil => rfl
  | cons x xs ih =>
    show (round (x + error) :: _).sum + _ = _
    rw [List.sum_cons, List.sum_cons, add_assoc]
    show _ + ((feed round _ xs).1.sum + (feed round _ xs).2) = _
    rw [ih]
    abel

/-- The last error is one of a rounding. -/
theorem feed_error {P : α → Prop} (hround : ∀ x, P (x - round x)) {error : α} (h : P error)
    (xs : List α) : P (feed round error xs).2 := by
  induction xs generalizing error with
  | nil => exact h
  | cons x xs ih => exact ih (hround _)

/-- What follows in the sequence starts with the error that the first part leaves. -/
theorem feed_append (error : α) (xs ys : List α) :
    feed round error (xs ++ ys)
      = ((feed round error xs).1 ++ (feed round (feed round error xs).2 ys).1,
        (feed round (feed round error xs).2 ys).2) := by
  induction xs generalizing error with
  | nil => rfl
  | cons x xs ih =>
    show (round (x + error) :: (feed round _ (xs ++ ys)).1, (feed round _ (xs ++ ys)).2) = _
    rw [ih]
    rfl

/-- The rounded values of a prefix are a prefix of the rounded values. -/
theorem take_feed (error : α) (xs : List α) (n : Nat) :
    (feed round error xs).1.take n = (feed round error (xs.take n)).1 := by
  induction xs generalizing error n with
  | nil =>
    rw [List.take_nil]
    exact List.take_nil
  | cons x xs ih =>
    cases n with
    | zero => rfl
    | succ n => exact congrArg (round (x + error) :: ·) (ih _ n)

/-- The rounded values behind a prefix are those of the rest, with the error of the prefix. A
prefix that is longer than the sequence leaves nothing. -/
theorem drop_feed (error : α) (xs : List α) (n : Nat) :
    (feed round error xs).1.drop n
      = (feed round (feed round error (xs.take n)).2 (xs.drop n)).1 := by
  have hsplit := feed_append round error (xs.take n) (xs.drop n)
  rw [List.take_append_drop] at hsplit
  by_cases hn : n ≤ xs.length
  · have hlength : (feed round error (xs.take n)).1.length = n := by
      rw [length_feed, List.length_take, Nat.min_eq_left hn]
    rw [hsplit]
    exact List.drop_left' hlength
  · -- The prefix is the whole sequence, and nothing is left behind it.
    have hle : xs.length ≤ n := Nat.le_of_not_le hn
    rw [List.drop_eq_nil_of_le hle]
    exact List.drop_eq_nil_of_le ((length_feed round error xs).le.trans hle)

/-- A stretch of the sequence, wherever it starts: the rounded values in it differ in their sum
from the values themselves by two errors, the one that is carried into the stretch and the one
that it leaves. -/
theorem sum_feed_stretch (error : α) (xs : List α) (first count : Nat) :
    (((feed round error xs).1.drop first).take count).sum
        + ((feed round error (xs.take (first + count))).2
          - (feed round error (xs.take first)).2)
      = ((xs.drop first).take count).sum := by
  let carried := (feed round error (xs.take first)).2
  have hleft : (feed round error (xs.take (first + count))).2
      = (feed round carried ((xs.drop first).take count)).2 := by
    rw [List.take_add, feed_append]
  have hstretch : ((feed round error xs).1.drop first).take count
      = (feed round carried ((xs.drop first).take count)).1 := by
    rw [drop_feed, take_feed]
  have hsum := sum_feed round carried ((xs.drop first).take count)
  rw [hleft, hstretch, add_sub, hsum, add_sub_cancel_right]

/-- The rounded values are values of the rounding. -/
theorem exists_of_mem_feed {error : α} {xs : List α} {y : α}
    (h : y ∈ (feed round error xs).1) : ∃ x, y = round x := by
  induction xs generalizing error with
  | nil => cases h
  | cons x xs ih =>
    rcases List.mem_cons.mp h with rfl | hmem
    · exact ⟨_, rfl⟩
    · exact ih hmem

end DoomSat.Support
