import Mathlib.Data.List.OfFn

/-!
# `DoomSat.Support.Block`: checked access to memory of a fixed size

A C buffer has a size and no check. Here every access is checked: an access outside the
buffer is a `MemFault`, which stands for the undefined behaviour of the C program.

* `byteAt`: one read of a received byte string.
* `Block α n`: an allocation of `n` cells, with `Block.write` and `Block.read` for the two
  directions of `memcpy`. The size is in the type.
* `Block.Holds b xs`: the first cells of `b` are `xs`. This is the view of a buffer that is
  filled from the start: `holds_write_zero` starts it over, `holds_write_length` appends to
  it, and `Holds.read_eq` reads it back.

Nothing here depends on the program under verification.
-/

set_option autoImplicit false

namespace DoomSat.Support

/-- An access outside the memory it belongs to. -/
inductive MemFault where
  /-- A read of `length` cells at `offset` that passes the end. -/
  | read (offset length : Nat)
  /-- A write of `length` cells at `offset` that passes the end. -/
  | write (offset length : Nat)
  deriving DecidableEq, Repr

/-- A bind after a success. -/
theorem ok_bind {ε α β : Type} (a : α) (f : α → Except ε β) :
    ((.ok a : Except ε α) >>= f) = f a := rfl

/-- A successful bind in `Except` has a successful first part. -/
theorem bind_eq_ok {ε α β : Type} {x : Except ε α} {f : α → Except ε β} {b : β} :
    (x >>= f) = .ok b ↔ ∃ a, x = .ok a ∧ f a = .ok b := by
  cases x with
  | error e => simp [bind, Except.bind]
  | ok a => simp [bind, Except.bind]

/-- The byte at `i`. -/
def byteAt {α : Type} (xs : List α) (i : Nat) : Except MemFault α :=
  match xs[i]? with
  | some x => .ok x
  | none => .error (.read i 1)

/-- A read below the length succeeds. -/
theorem byteAt_of_lt {α : Type} {xs : List α} {i : Nat} (h : i < xs.length) :
    byteAt xs i = .ok xs[i] := by
  simp [byteAt, h]

/-- A memory block of `n` cells. -/
structure Block (α : Type) (n : Nat) where
  cell : Fin n → α

namespace Block

variable {α : Type} {n : Nat}

/-- Copies `xs` into the block at `offset`. -/
def write (b : Block α n) (offset : Nat) (xs : List α) : Except MemFault (Block α n) :=
  if offset + xs.length ≤ n then
    .ok ⟨fun i =>
      if h : offset ≤ i.val ∧ i.val - offset < xs.length then xs.get ⟨i.val - offset, h.2⟩
      else b.cell i⟩
  else .error (.write offset xs.length)

/-- Copies `length` cells out of the block from `offset`. -/
def read (b : Block α n) (offset length : Nat) : Except MemFault (List α) :=
  if h : offset + length ≤ n then
    .ok (List.ofFn fun i : Fin length => b.cell ⟨offset + i.val, by omega⟩)
  else .error (.read offset length)

/-- A write that fits succeeds. -/
theorem write_of_le (b : Block α n) (offset : Nat) (xs : List α)
    (h : offset + xs.length ≤ n) : ∃ b', b.write offset xs = .ok b' :=
  ⟨_, if_pos h⟩

/-- A write that passes the end is a fault. -/
theorem write_of_lt (b : Block α n) {offset : Nat} {xs : List α}
    (h : n < offset + xs.length) : b.write offset xs = .error (.write offset xs.length) :=
  if_neg (by omega)

/-- A successful write stayed inside the block. -/
theorem le_of_write {b b' : Block α n} {offset : Nat} {xs : List α}
    (h : b.write offset xs = .ok b') : offset + xs.length ≤ n := by
  unfold write at h
  split at h
  · assumption
  · cases h

/-- The cells after a write: the new cells inside the range, the old ones outside. -/
theorem cell_of_write {b b' : Block α n} {offset : Nat} {xs : List α}
    (h : b.write offset xs = .ok b') (i : Fin n) :
    b'.cell i
      = if h : offset ≤ i.val ∧ i.val - offset < xs.length then xs.get ⟨i.val - offset, h.2⟩
        else b.cell i := by
  unfold write at h
  split at h
  · cases h
    rfl
  · cases h

/-- The first cells of the block are `xs`. -/
structure Holds (b : Block α n) (xs : List α) : Prop where
  le : xs.length ≤ n
  cell : ∀ (i : Nat) (h : i < xs.length), b.cell ⟨i, Nat.lt_of_lt_of_le h le⟩ = xs[i]

/-- Every block holds the empty list. -/
theorem holds_nil (b : Block α n) : b.Holds [] :=
  ⟨Nat.zero_le n, fun _ h => absurd h (Nat.not_lt_zero _)⟩

/-- A write right after the held cells appends to them. Every cell is either an old one or a new
one. -/
theorem holds_write_length {b b' : Block α n} {xs ys : List α} (hb : b.Holds xs)
    (h : b.write xs.length ys = .ok b') : b'.Holds (xs ++ ys) := by
  have hle := le_of_write h
  refine ⟨by rw [List.length_append]; exact hle, fun i hi => ?_⟩
  rw [List.length_append] at hi
  rw [cell_of_write h]
  -- The cells before the write are the old ones, and those from there on are the new ones.
  by_cases hlt : i < xs.length
  · rw [dif_neg (fun h => absurd h.1 (Nat.not_le.mpr hlt)), List.getElem_append_left hlt]
    exact hb.cell i hlt
  · have hge : xs.length ≤ i := Nat.not_lt.mp hlt
    have hys : i - xs.length < ys.length := by omega
    rw [dif_pos ⟨hge, hys⟩, List.getElem_append_right hge]
    rfl

/-- A write at the start replaces the held cells. -/
theorem holds_write_zero {b b' : Block α n} {xs : List α}
    (h : b.write 0 xs = .ok b') : b'.Holds xs := by
  simpa using holds_write_length (holds_nil b) h

/-- The held cells can be read back. A read is cell by cell, so the two lists agree at each
index. -/
theorem Holds.read_eq {b : Block α n} {xs : List α} (hb : b.Holds xs) :
    b.read 0 xs.length = .ok xs := by
  have hle := hb.le
  unfold read
  rw [dif_pos (by omega)]
  congr 1
  apply List.ext_getElem
  · simp
  · intro i _ hi
    simp only [List.getElem_ofFn, Nat.zero_add]
    exact hb.cell i hi

end Block

end DoomSat.Support
