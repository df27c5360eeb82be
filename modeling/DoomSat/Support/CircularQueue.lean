import DoomSat.Support.Fifo
import Mathlib.Logic.Function.Basic

/-!
# `DoomSat.Support.CircularQueue`: a queue in an array of fixed size

`CircularQueue` keeps its elements in `n` cells, from the index `head` up to the index
`tail`, modulo `n`. Equal indices mean that the queue is empty, so one cell stays unused and
the queue holds at most `n - 1` elements. `contents` is the list of its elements.

`contents_of_push` and `contents_of_pop` say that the two operations are those of the
abstract queue of `Support.Fifo`, and `queueStep_of_push` and `queueStep_of_pop` state the
refinement. `push_eq_none_iff` says when a push is refused.

The elements have an arbitrary type. Nothing here depends on the program under
verification.
-/

set_option autoImplicit false

namespace DoomSat.Support

/-- A queue in `n` cells. -/
structure CircularQueue (α : Type) (n : Nat) where
  cells : Fin n → α
  head : Fin n
  tail : Fin n

namespace CircularQueue

variable {α : Type} {n : Nat}

/-- `(i + 1) % n`. -/
def next (i : Fin n) : Fin n := ⟨(i.val + 1) % n, Nat.mod_lt _ i.pos⟩

/-- Puts an element at the tail, or refuses when the queue is full. -/
def push (q : CircularQueue α n) (a : α) : Option (CircularQueue α n) :=
  if next q.tail = q.head then none
  else some { q with cells := Function.update q.cells q.tail a, tail := next q.tail }

/-- Takes the element at the head, or refuses when the queue is empty. -/
def pop (q : CircularQueue α n) : Option (α × CircularQueue α n) :=
  if q.head ≠ q.tail then some (q.cells q.head, { q with head := next q.head }) else none

/-- The index of the `i`-th element from `head`. -/
def index (head : Fin n) (i : Fin n) : Fin n :=
  if h : head.val + i.val < n then ⟨head.val + i.val, h⟩ else ⟨head.val + i.val - n, by omega⟩

/-- The number of elements. -/
def size (q : CircularQueue α n) : Nat :=
  if q.head.val ≤ q.tail.val then q.tail.val - q.head.val else q.tail.val + n - q.head.val

/-- One cell is always free, since a queue with `n` elements would look like an empty one. -/
theorem size_lt (q : CircularQueue α n) : q.size < n := by
  unfold size
  split <;> omega

/-- The elements, the oldest first. -/
def contents (q : CircularQueue α n) : List α :=
  List.ofFn fun i : Fin q.size => q.cells (index q.head ⟨i.val, Nat.lt_trans i.isLt q.size_lt⟩)

/-- As many elements as the size says. -/
@[simp] theorem length_contents (q : CircularQueue α n) : q.contents.length = q.size :=
  List.length_ofFn

/-- The index after `i`, without the modulus. -/
theorem next_val (i : Fin n) : (next i).val = if i.val + 1 < n then i.val + 1 else 0 := by
  show (i.val + 1) % n = _
  split
  · next h => exact Nat.mod_eq_of_lt h
  · next h =>
    have hn : i.val + 1 = n := by omega
    rw [hn, Nat.mod_self]

/-- The index `i` places behind the head, without the modulus. -/
theorem index_val (head i : Fin n) :
    (index head i).val
      = if head.val + i.val < n then head.val + i.val else head.val + i.val - n := by
  unfold index
  split <;> rfl

/-- A queue is full when all its cells but one are used. -/
theorem next_tail_eq_head_iff (q : CircularQueue α n) :
    next q.tail = q.head ↔ q.size + 1 = n := by
  rw [Fin.ext_iff, next_val, size]
  split <;> split <;> omega

/-- The queue is empty when its indices are equal. -/
theorem head_eq_tail_iff (q : CircularQueue α n) : q.head = q.tail ↔ q.contents = [] := by
  rw [← List.length_eq_zero_iff, length_contents, Fin.ext_iff, size]
  split <;> omega

/-- A push is refused when the queue holds `n - 1` elements. -/
theorem push_eq_none_iff (q : CircularQueue α n) (a : α) :
    q.push a = none ↔ q.contents.length + 1 = n := by
  rw [length_contents, ← next_tail_eq_head_iff, push]
  split <;> simp_all

/-- A push is refused when the tail would meet the head. -/
theorem next_tail_of_push {q : CircularQueue α n} {a : α} (h : q.push a = none) :
    next q.tail = q.head := by
  rw [next_tail_eq_head_iff, ← length_contents]
  exact (push_eq_none_iff q a).mp h

/-- What a push writes. -/
theorem eq_of_push {q q' : CircularQueue α n} {a : α} (h : q.push a = some q') :
    next q.tail ≠ q.head ∧
      q' = { q with cells := Function.update q.cells q.tail a, tail := next q.tail } := by
  unfold push at h
  split at h
  · cases h
  · next hroom => exact ⟨hroom, (Option.some.inj h).symm⟩

/-- What is pushed becomes the youngest element. -/
theorem contents_of_push {q q' : CircularQueue α n} {a : α} (h : q.push a = some q') :
    q'.contents = q.contents ++ [a] := by
  obtain ⟨hroom, rfl⟩ := eq_of_push h
  rw [ne_eq, next_tail_eq_head_iff] at hroom
  have hn := q.size_lt
  -- Whether or not the tail wraps around, there is one element more.
  have hsize : ∀ cells, (⟨cells, q.head, next q.tail⟩ : CircularQueue α n).size
      = q.size + 1 := by
    intro cells
    unfold size at *
    rw [next_val]
    split <;> split <;> split <;> grind
  apply List.ext_getElem
  · simp [hsize]
  · intro i hi hi'
    rw [length_contents, hsize] at hi
    simp only [contents, List.getElem_ofFn, List.getElem_append, List.length_ofFn]
    -- The cell of an old element is not the one at the tail.
    split
    · next hold =>
      apply Function.update_of_ne
      rw [ne_eq, Fin.ext_iff, index_val]
      unfold size at hold
      grind
    · next hnew =>
      have hi : i = q.size := by omega
      have htail : index q.head ⟨i, by omega⟩ = q.tail := by
        rw [Fin.ext_iff, index_val]
        unfold size at hi
        grind
      rw [htail, Function.update_self]
      simp [hi]

/-- A pop is refused when the tail is the head. -/
theorem head_of_pop {q : CircularQueue α n} (h : q.pop = none) : q.head = q.tail := by
  unfold pop at h
  split at h
  · cases h
  · next heq => exact not_not.mp heq

/-- What a pop reads and writes. -/
theorem eq_of_pop {q q' : CircularQueue α n} {a : α} (h : q.pop = some (a, q')) :
    q.head ≠ q.tail ∧ a = q.cells q.head ∧ q' = { q with head := next q.head } := by
  unfold pop at h
  split at h
  · next hne =>
    obtain ⟨ha, hq⟩ := Prod.mk.inj (Option.some.inj h)
    exact ⟨hne, ha.symm, hq.symm⟩
  · cases h

/-- What is popped is the oldest element. -/
theorem contents_of_pop {q q' : CircularQueue α n} {a : α} (h : q.pop = some (a, q')) :
    q.contents = a :: q'.contents := by
  obtain ⟨hne, rfl, rfl⟩ := eq_of_pop h
  have hsize : q.size = (⟨q.cells, next q.head, q.tail⟩ : CircularQueue α n).size + 1 := by
    rw [ne_eq, Fin.ext_iff] at hne
    unfold size
    rw [next_val]
    grind
  have hn := q.size_lt
  apply List.ext_getElem
  · simp [hsize]
  · intro i hi hi'
    rw [length_contents] at hi
    cases i with
    | zero =>
      simp only [contents, List.getElem_ofFn, List.getElem_cons_zero]
      congr 1
      rw [Fin.ext_iff, index_val]
      grind
    | succ i =>
      simp only [contents, List.getElem_ofFn, List.getElem_cons_succ]
      congr 1
      rw [Fin.ext_iff, index_val, index_val]
      show _ = if (next q.head).val + i < n then _ else _
      rw [next_val]
      grind

/-- A pop leaves one element less. -/
theorem size_of_pop {q q' : CircularQueue α n} {a : α} (h : q.pop = some (a, q')) :
    q'.size < q.size := by
  rw [← length_contents, ← length_contents, contents_of_pop h]
  exact Nat.lt_succ_self _

/-- A push is a step of the abstract queue with room for `n - 1` elements. -/
theorem queueStep_of_push {q q' : CircularQueue α n} {a : α} (h : q.push a = some q') :
    QueueStep (n - 1) q.contents (.enqueue a) q'.contents := by
  rw [contents_of_push h]
  apply QueueStep.enqueue
  have hn := q'.size_lt
  rw [← length_contents, contents_of_push h, List.length_append, List.length_singleton] at hn
  omega

/-- A pop is a step of the abstract queue. -/
theorem queueStep_of_pop {q q' : CircularQueue α n} {a : α} (h : q.pop = some (a, q')) :
    QueueStep (n - 1) q.contents (.dequeue a) q'.contents := by
  rw [contents_of_pop h]
  exact QueueStep.dequeue a q'.contents

end CircularQueue

end DoomSat.Support
