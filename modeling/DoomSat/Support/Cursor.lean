import Mathlib.Data.List.Induction
import Mathlib.Logic.Function.Basic

/-!
# `DoomSat.Support.Cursor`: a buffer with a read and write position

A `Cursor` is a buffer of bytes with a position in it. `put` stores a byte at the position and
`get` loads one. Both move the position, and both give `none` outside the buffer.

`contents` is what the buffer holds from its start on, and `Holds` is what it holds from the
position on. `putAll_eq` is the rule for writing and `get_of_holds` is the rule for reading.
`holds_ofList` starts to read what was written.

Nothing here depends on the program under verification.
-/

set_option autoImplicit false

namespace DoomSat.Support

/-- A buffer of `size` bytes and a position. -/
structure Cursor where
  bytes : Nat → UInt8
  size : Nat
  pos : Nat

namespace Cursor

/-- The byte at the position. -/
def peek (c : Cursor) : Option UInt8 := if c.pos < c.size then some (c.bytes c.pos) else none

/-- Moves the position. -/
def skip (c : Cursor) (n : Nat) : Cursor := { c with pos := c.pos + n }

/-- Loads the byte at the position and moves on. -/
def get (c : Cursor) : Option (UInt8 × Cursor) := c.peek.map fun byte => (byte, c.skip 1)

/-- Stores a byte at the position and moves on. -/
def put (c : Cursor) (byte : UInt8) : Option Cursor :=
  if c.pos < c.size then
    some { c with bytes := Function.update c.bytes c.pos byte, pos := c.pos + 1 }
  else none

/-- Stores bytes one after the other. -/
def putAll : List UInt8 → Cursor → Option Cursor
  | [], c => some c
  | byte :: bytes, c => c.put byte >>= putAll bytes

/-- The first `n` bytes of the buffer. -/
def contents (c : Cursor) (n : Nat) : List UInt8 := (List.range n).map c.bytes

/-- A cursor at the start of a file. -/
def ofList (file : List UInt8) : Cursor where
  bytes i := file.getD i 0
  size := file.length
  pos := 0

/-- The buffer holds these bytes from the position on. -/
def Holds (c : Cursor) (bytes : List UInt8) : Prop :=
  c.pos + bytes.length ≤ c.size ∧ ∀ i byte, bytes[i]? = some byte → c.bytes (c.pos + i) = byte

/-! ### Writing -/

/-- One more byte of the contents. -/
theorem contents_succ (c : Cursor) (n : Nat) :
    c.contents (n + 1) = c.contents n ++ [c.bytes n] := by
  unfold contents
  rw [List.range_succ, List.map_append]
  rfl

/-- The first bytes do not see a change behind them. -/
theorem contents_congr {c c' : Cursor} {n : Nat} (h : ∀ i < n, c'.bytes i = c.bytes i) :
    c'.contents n = c.contents n := by
  refine List.map_congr_left fun i hi => ?_
  exact h i (List.mem_range.mp hi)

/-- The bytes are stored behind the contents, and the ones before them stay. The induction
stores one byte, which moves the position by one. -/
theorem putAll_eq {c : Cursor} {bytes : List UInt8} (h : c.pos + bytes.length ≤ c.size) :
    ∃ c', putAll bytes c = some c' ∧ c'.pos = c.pos + bytes.length ∧ c'.size = c.size ∧
      (∀ i < c.pos, c'.bytes i = c.bytes i) ∧
      ∀ i byte, bytes[i]? = some byte → c'.bytes (c.pos + i) = byte := by
  induction bytes generalizing c with
  | nil => exact ⟨c, rfl, rfl, rfl, fun _ _ => rfl, nofun⟩
  | cons byte bytes ih =>
    rw [List.length_cons] at h
    let c₁ : Cursor :=
      { c with bytes := Function.update c.bytes c.pos byte, pos := c.pos + 1 }
    have hput : c.put byte = some c₁ := if_pos (by omega)
    have hroom : c₁.pos + bytes.length ≤ c₁.size := by
      show c.pos + 1 + bytes.length ≤ c.size
      omega
    obtain ⟨c', hall, hpos, hsize, hbefore, hstored⟩ := ih hroom
    refine ⟨c', ?_, ?_, hsize, ?_, ?_⟩
    · show (c.put byte >>= putAll bytes) = _
      rw [hput]
      exact hall
    · rw [hpos, List.length_cons]
      show c.pos + 1 + bytes.length = c.pos + (bytes.length + 1)
      omega
    · intro i hi
      rw [hbefore i (Nat.lt_succ_of_lt hi)]
      exact Function.update_of_ne (Nat.ne_of_lt hi) ..
    · -- The first byte is stored by the first `put`, and later ones do not reach back to it.
      intro i b hb
      cases i with
      | zero =>
        rw [Nat.add_zero, hbefore c.pos (Nat.lt_succ_self _), ← Option.some.inj hb]
        exact Function.update_self ..
      | succ i =>
        rw [Nat.add_comm i 1, ← Nat.add_assoc]
        exact hstored i b hb

/-- The contents behind which the bytes are stored. The induction takes the last byte off, since
the contents grow at their end. -/
theorem contents_eq_append {c c' : Cursor} {bytes : List UInt8}
    (hbefore : ∀ i < c.pos, c'.bytes i = c.bytes i)
    (hstored : ∀ i byte, bytes[i]? = some byte → c'.bytes (c.pos + i) = byte) :
    c'.contents (c.pos + bytes.length) = c.contents c.pos ++ bytes := by
  induction bytes using List.reverseRecOn with
  | nil =>
    rw [List.append_nil]
    exact contents_congr hbefore
  | append_singleton bytes byte ih =>
    have hlast : c'.bytes (c.pos + bytes.length) = byte := hstored _ _ (by simp)
    have hrest : c'.contents (c.pos + bytes.length) = c.contents c.pos ++ bytes := by
      refine ih fun i b hb => hstored i b ?_
      rw [List.getElem?_append_left (List.getElem?_eq_some_iff.mp hb).1]
      exact hb
    rw [List.length_append, List.length_singleton, ← Nat.add_assoc, contents_succ, hrest, hlast,
      List.append_assoc]

/-! ### Reading -/

/-- Where the buffer holds a byte, `get` loads it, and the rest follows. It is the rule for a
reader that goes on byte by byte. -/
theorem get_of_holds {c : Cursor} {byte : UInt8} {bytes : List UInt8}
    (h : c.Holds (byte :: bytes)) :
    c.get = some (byte, c.skip 1) ∧ (c.skip 1).Holds bytes := by
  obtain ⟨hroom, hbytes⟩ := h
  rw [List.length_cons] at hroom
  refine ⟨?_, ?_, ?_⟩
  · have hpeek : c.peek = some (c.bytes c.pos) := if_pos (by omega)
    have hbyte : c.bytes c.pos = byte := hbytes 0 byte rfl
    unfold get
    rw [hpeek, hbyte]
    rfl
  · show c.pos + 1 + bytes.length ≤ c.size
    omega
  · intro i b hb
    show c.bytes (c.pos + 1 + i) = b
    rw [Nat.add_assoc, Nat.add_comm 1 i]
    exact hbytes (i + 1) b hb

/-- The next byte is the first one of what the cursor holds. -/
theorem peek_of_holds {c : Cursor} {byte : UInt8} {bytes : List UInt8}
    (h : c.Holds (byte :: bytes)) : c.peek = some byte := by
  have hget := (get_of_holds h).1
  unfold get at hget
  cases hpeek : c.peek with
  | none =>
    rw [hpeek] at hget
    cases hget
  | some b =>
    rw [hpeek] at hget
    exact congrArg some (congrArg Prod.fst (Option.some.inj hget))

/-- A file holds its own bytes. -/
theorem holds_ofList (file : List UInt8) : (ofList file).Holds file := by
  refine ⟨?_, fun i byte hbyte => ?_⟩
  · show 0 + file.length ≤ file.length
    omega
  · show file.getD (0 + i) 0 = byte
    rw [Nat.zero_add, List.getD_eq_getElem?_getD, hbyte]
    rfl

end Cursor

end DoomSat.Support
