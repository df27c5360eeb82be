import Mathlib.Data.List.Basic

/-!
# `DoomSat.Support.Fifo`: the bounded first-in first-out queue

The abstract queue is a list of at most `capacity` elements. It is the specification that a
concurrent queue or a circular buffer refines: such a component performs queue operations
in some order, and `QueueRun` says that this order of operations is one of the queue.

`QueueRun.append_enqueued` is the law of the queue: what was in it, and then what was put
in, is what was taken out, and then what is still in it. So nothing is lost, repeated or
reordered. `QueueRun.length_le` bounds the number of elements.

The elements have an arbitrary type. Nothing here depends on the program under
verification.
-/

set_option autoImplicit false

namespace DoomSat.Support

variable {α : Type}

/-- An operation of the queue, with the element that it moves. -/
inductive QueueOp (α : Type) where
  | enqueue (a : α)
  | dequeue (a : α)

/-- The elements put in, in order. -/
def enqueued (ops : List (QueueOp α)) : List α :=
  ops.filterMap fun
    | .enqueue a => some a
    | .dequeue _ => none

/-- The elements taken out, in order. -/
def dequeued (ops : List (QueueOp α)) : List α :=
  ops.filterMap fun
    | .enqueue _ => none
    | .dequeue a => some a

/-- One operation of the queue: there is room for what is put in, and the oldest element is
taken out. -/
inductive QueueStep (capacity : Nat) : List α → QueueOp α → List α → Prop where
  | enqueue (a : α) (q : List α) (room : q.length < capacity) :
      QueueStep capacity q (.enqueue a) (q ++ [a])
  | dequeue (a : α) (q : List α) : QueueStep capacity (a :: q) (.dequeue a) q

/-- What a step of a component can do to its queue: nothing, or one operation. -/
inductive QueueMove (capacity : Nat) : List α → List (QueueOp α) → List α → Prop where
  | stay (q : List α) : QueueMove capacity q [] q
  | step {q q' : List α} {op : QueueOp α} (step : QueueStep capacity q op q') :
      QueueMove capacity q [op] q'

/-- A sequence of operations of the queue. -/
inductive QueueRun (capacity : Nat) : List α → List (QueueOp α) → List α → Prop where
  | nil (q : List α) : QueueRun capacity q [] q
  | concat {q q' q'' : List α} {ops : List (QueueOp α)} {op : QueueOp α}
      (run : QueueRun capacity q ops q') (step : QueueStep capacity q' op q'') :
      QueueRun capacity q (ops ++ [op]) q''

/-- Without operations nothing is enqueued. -/
@[simp] theorem enqueued_nil : enqueued ([] : List (QueueOp α)) = [] := rfl

/-- Without operations nothing is dequeued. -/
@[simp] theorem dequeued_nil : dequeued ([] : List (QueueOp α)) = [] := rfl

/-- What two lists of operations enqueue, one after the other. -/
@[simp] theorem enqueued_append (ops ops' : List (QueueOp α)) :
    enqueued (ops ++ ops') = enqueued ops ++ enqueued ops' :=
  List.filterMap_append

/-- What two lists of operations dequeue, one after the other. -/
@[simp] theorem dequeued_append (ops ops' : List (QueueOp α)) :
    dequeued (ops ++ ops') = dequeued ops ++ dequeued ops' :=
  List.filterMap_append

/-- A run goes on with the next step of the component. -/
theorem QueueRun.move {capacity : Nat} {q q' q'' : List α} {ops ops' : List (QueueOp α)}
    (h : QueueRun capacity q ops q') (hmove : QueueMove capacity q' ops' q'') :
    QueueRun capacity q (ops ++ ops') q'' := by
  cases hmove with
  | stay =>
    rw [List.append_nil]
    exact h
  | step hstep => exact h.concat hstep

/-- The law of the queue: what goes in comes out once, in order, or is still in it. The
induction is on the run, one operation at its end. -/
theorem QueueRun.append_enqueued {capacity : Nat} {q q' : List α} {ops : List (QueueOp α)}
    (h : QueueRun capacity q ops q') : q ++ enqueued ops = dequeued ops ++ q' := by
  induction h with
  | nil => simp
  | concat _ step ih =>
    rw [enqueued_append, dequeued_append, ← List.append_assoc, ih, List.append_assoc,
      List.append_assoc]
    cases step with
    | enqueue a q' room => rfl
    | dequeue a q' => simp [enqueued, dequeued]

/-- The queue never holds more than its capacity, since an element goes in only where there is
room. -/
theorem QueueRun.length_le {capacity : Nat} {q q' : List α} {ops : List (QueueOp α)}
    (h : QueueRun capacity q ops q') (hq : q.length ≤ capacity) : q'.length ≤ capacity := by
  induction h with
  | nil => exact hq
  | concat _ step ih =>
    have hle := ih
    cases step with
    | enqueue a q' room =>
      rw [List.length_append, List.length_singleton]
      omega
    | dequeue a q' =>
      rw [List.length_cons] at hle
      omega

/-- What was taken out of a queue that started empty is a prefix of what was put in. -/
theorem QueueRun.dequeued_prefix {capacity : Nat} {q' : List α} {ops : List (QueueOp α)}
    (h : QueueRun capacity [] ops q') : dequeued ops <+: enqueued ops :=
  ⟨q', h.append_enqueued.symm⟩

end DoomSat.Support
