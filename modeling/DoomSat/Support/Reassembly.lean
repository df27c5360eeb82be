import Mathlib.Data.List.Basic

/-!
# `DoomSat.Support.Reassembly`: messages from pieces

A sender cuts a message into pieces. The first piece is marked as first, the last one as
last. A receiver collects the pieces in one buffer. It starts the buffer over at a first
piece, appends every other piece, and delivers the buffer at a last piece. It counts
nothing, so it joins whatever arrives.

* `collected` is the buffer after some pieces, and `delivered` are the buffers given out.
* `Whole ps` says that the pieces are one complete message. `delivered_whole` and
  `collected_whole` state that the receiver then gives out this message and nothing else,
  whatever was in the buffer.
* `Fits bound acc ps` says that no buffer on the way is longer than `bound`.
  `fits_nil_iff_runs` states it without the buffer: every run of pieces that one buffer
  collects has at most `bound` cells.

The cells have an arbitrary type. Nothing here depends on the program under verification.
-/

set_option autoImplicit false

namespace DoomSat.Support

/-- A piece of a message. -/
structure Piece (α : Type) where
  isFirst : Bool
  isLast : Bool
  content : List α

namespace Piece

variable {α : Type}

/-- The buffer after the piece is stored, before it is delivered. -/
def grow (acc : List α) (p : Piece α) : List α :=
  if p.isFirst then p.content else acc ++ p.content

/-- The buffer that the next piece meets. -/
def next (acc : List α) (p : Piece α) : List α :=
  if p.isLast then [] else p.grow acc

/-- What the piece delivers. -/
def out (acc : List α) (p : Piece α) : List (List α) :=
  if p.isLast then [p.grow acc] else []

/-- The buffer after the pieces. -/
def collected (acc : List α) (ps : List (Piece α)) : List α := ps.foldl next acc

/-- The buffers delivered by the pieces, in order. -/
def delivered : List α → List (Piece α) → List (List α)
  | _, [] => []
  | acc, p :: ps => p.out acc ++ delivered (p.next acc) ps

/-- All cells of the pieces, in order. -/
def contents (ps : List (Piece α)) : List α := ps.flatMap content

/-- No piece leaves the buffer as it is. -/
@[simp] theorem collected_nil (acc : List α) : collected acc [] = acc := rfl

/-- The first piece, and then the others. -/
@[simp] theorem collected_cons (acc : List α) (p : Piece α) (ps : List (Piece α)) :
    collected acc (p :: ps) = collected (p.next acc) ps := rfl

/-- No piece has no cells. -/
@[simp] theorem contents_nil : contents ([] : List (Piece α)) = [] := rfl

/-- The cells of the first piece, and then those of the others. -/
@[simp] theorem contents_cons (p : Piece α) (ps : List (Piece α)) :
    contents (p :: ps) = p.content ++ contents ps := rfl

/-- The cells of two lists of pieces. -/
theorem contents_append (ps qs : List (Piece α)) :
    contents (ps ++ qs) = contents ps ++ contents qs :=
  List.flatMap_append

/-- What a concatenation delivers: the second list starts with the buffer that the first one
leaves. -/
theorem delivered_append (acc : List α) (ps qs : List (Piece α)) :
    delivered acc (ps ++ qs) = delivered acc ps ++ delivered (collected acc ps) qs := by
  induction ps generalizing acc with
  | nil => rfl
  | cons p ps ih => simp only [List.cons_append, delivered, ih, List.append_assoc, collected_cons]

/-! ### One complete message -/

/-- The rest of a message: no piece is a first one, and exactly the final one is a last
one. -/
inductive Rest : List (Piece α) → Prop where
  | last (p : Piece α) (hfirst : p.isFirst = false) (hlast : p.isLast = true) : Rest [p]
  | more (p : Piece α) (ps : List (Piece α)) (hfirst : p.isFirst = false)
      (hlast : p.isLast = false) (rest : Rest ps) : Rest (p :: ps)

/-- A complete message: a first piece, then the rest. The first piece of a message of one
piece is also the last one. -/
inductive Whole : List (Piece α) → Prop where
  | single (p : Piece α) (hfirst : p.isFirst = true) (hlast : p.isLast = true) : Whole [p]
  | more (p : Piece α) (ps : List (Piece α)) (hfirst : p.isFirst = true)
      (hlast : p.isLast = false) (rest : Rest ps) : Whole (p :: ps)

/-- The rest of a message completes the buffer and delivers it. -/
theorem Rest.delivered_eq {ps : List (Piece α)} (h : Rest ps) (acc : List α) :
    delivered acc ps = [acc ++ contents ps] ∧ collected acc ps = [] := by
  -- The induction is over the pieces to come, with the buffer that they complete.
  induction h generalizing acc with
  | last p hfirst hlast => simp [delivered, out, next, grow, hfirst, hlast]
  | more p ps hfirst hlast _ ih =>
    obtain ⟨hout, hleft⟩ := ih (acc ++ p.content)
    have hnext : p.next acc = acc ++ p.content := by simp [next, grow, hfirst, hlast]
    have hnone : p.out acc = [] := by simp [out, hlast]
    refine ⟨?_, ?_⟩
    · rw [delivered, hnone, hnext, hout, contents_cons, List.append_assoc]
      rfl
    · rw [collected_cons, hnext, hleft]

/-- A complete message is delivered as it is, whatever was in the buffer, and the buffer is
empty afterwards. -/
theorem delivered_whole {ps : List (Piece α)} (h : Whole ps) (acc : List α) :
    delivered acc ps = [contents ps] ∧ collected acc ps = [] := by
  cases h with
  | single p hfirst hlast => simp [delivered, out, next, grow, hfirst, hlast]
  | more p ps hfirst hlast rest =>
    obtain ⟨hout, hleft⟩ := rest.delivered_eq p.content
    have hnext : p.next acc = p.content := by simp [next, grow, hfirst, hlast]
    have hnone : p.out acc = [] := by simp [out, hlast]
    refine ⟨?_, ?_⟩
    · rw [delivered, hnone, hnext, hout]
      rfl
    · rw [collected_cons, hnext, hleft]

/-- A complete message starts with a first piece. -/
theorem Whole.head_isFirst {ps : List (Piece α)} (h : Whole ps) :
    ∀ p, ps.head? = some p → p.isFirst = true := by
  cases h with
  | single p hfirst _ =>
    rintro _ ⟨⟩
    exact hfirst
  | more p ps hfirst _ _ =>
    rintro _ ⟨⟩
    exact hfirst

/-- The pieces before the last one of a message that goes on: the first one, and those before
the last one of the rest, which is not empty. -/
theorem Rest.dropLast_cons {p : Piece α} {ps : List (Piece α)} (h : Rest ps) :
    (p :: ps).dropLast = p :: ps.dropLast := by
  have hne : ps ≠ [] := by
    rintro rfl
    cases h
  exact List.dropLast_cons_of_ne_nil hne

/-- Only the final piece of the rest is a last piece. -/
theorem Rest.isLast_eq_false {ps : List (Piece α)} (h : Rest ps) :
    ∀ p ∈ ps.dropLast, p.isLast = false := by
  induction h with
  | last p _ _ => simp
  | more p ps _ hlast rest ih =>
    rw [rest.dropLast_cons]
    exact List.forall_mem_cons.mpr ⟨hlast, ih⟩

/-- Only the final piece of a complete message is a last piece. -/
theorem Whole.isLast_eq_false {ps : List (Piece α)} (h : Whole ps) :
    ∀ p ∈ ps.dropLast, p.isLast = false := by
  cases h with
  | single p _ _ => simp
  | more p ps _ hlast rest =>
    rw [rest.dropLast_cons]
    exact List.forall_mem_cons.mpr ⟨hlast, rest.isLast_eq_false⟩

/-- Without a last piece nothing is delivered. -/
theorem delivered_eq_nil {ps : List (Piece α)} (h : ∀ p ∈ ps, p.isLast = false)
    (acc : List α) : delivered acc ps = [] := by
  induction ps generalizing acc with
  | nil => rfl
  | cons p ps ih =>
    have hnone : p.out acc = [] := by simp [out, h p List.mem_cons_self]
    rw [delivered, hnone, List.nil_append]
    exact ih (fun q hq => h q (List.mem_cons_of_mem _ hq)) _

/-- Each last piece delivers one buffer. -/
theorem length_delivered (acc : List α) (ps : List (Piece α)) :
    (delivered acc ps).length = ps.countP isLast := by
  induction ps generalizing acc with
  | nil => rfl
  | cons p ps ih =>
    rw [delivered, List.length_append, ih, List.countP_cons, Nat.add_comm]
    cases hl : p.isLast <;> simp [out, hl]

/-! ### The length of the buffer -/

/-- No buffer on the way has more than `bound` cells. -/
def Fits (bound : Nat) : List α → List (Piece α) → Prop
  | _, [] => True
  | acc, p :: ps => (p.grow acc).length ≤ bound ∧ Fits bound (p.next acc) ps

/-- Two lists fit when the first one does, and the second one does from the buffer that it
leaves. -/
theorem fits_append (bound : Nat) (acc : List α) (ps qs : List (Piece α)) :
    Fits bound acc (ps ++ qs) ↔ Fits bound acc ps ∧ Fits bound (collected acc ps) qs := by
  induction ps generalizing acc with
  | nil => simp [Fits]
  | cons p ps ih => simp only [List.cons_append, Fits, ih, collected_cons, and_assoc]

/-- Pieces that follow one another in one buffer: only the head can be a first piece, and
only the final one can be a last piece. -/
structure IsRun (ps : List (Piece α)) : Prop where
  tail : ∀ p ∈ ps.tail, p.isFirst = false
  dropLast : ∀ p ∈ ps.dropLast, p.isLast = false

/-- The buffer of the rest of a run holds the old cells and those of the run. The induction is
over the pieces: each of them continues the buffer, and none but the final one delivers it. -/
theorem length_le_of_fits_rest {bound : Nat} {p : Piece α} {ps : List (Piece α)}
    {acc : List α} (hfirst : ∀ q ∈ p :: ps, q.isFirst = false)
    (hlast : ∀ q ∈ (p :: ps).dropLast, q.isLast = false) (h : Fits bound acc (p :: ps)) :
    acc.length + (contents (p :: ps)).length ≤ bound := by
  have hgrow : p.grow acc = acc ++ p.content := by
    simp [grow, hfirst p List.mem_cons_self]
  induction ps generalizing p acc with
  | nil =>
    have := h.1
    rw [hgrow, List.length_append] at this
    simpa using this
  | cons q ps ih =>
    have hnext : p.next acc = acc ++ p.content := by
      simp [next, hgrow, hlast p (by simp)]
    have hq : q.grow (acc ++ p.content) = (acc ++ p.content) ++ q.content := by
      simp [grow, hfirst q (by simp)]
    have hrest : Fits bound (acc ++ p.content) (q :: ps) := by
      rw [← hnext]
      exact h.2
    have := ih (fun r hr => hfirst r (List.mem_cons_of_mem _ hr))
      (fun r hr => hlast r (by simp [List.dropLast, hr])) hrest hq
    rw [contents_cons, List.length_append]
    rw [List.length_append] at this
    omega

/-- The cells of a run fit when the run fits. -/
theorem length_contents_le_of_fits {bound : Nat} {run : List (Piece α)} {acc : List α}
    (hrun : IsRun run) (h : Fits bound acc run) : (contents run).length ≤ bound := by
  -- The head of a run may be a first piece, and all the others continue the buffer.
  match run, hrun, h with
  | [], _, _ => exact Nat.zero_le _
  | [p], _, h =>
    have hle : p.content.length ≤ (p.grow acc).length := by
      unfold grow
      split <;> simp
    simpa using Nat.le_trans hle h.1
  | p :: q :: ps, hrun, h =>
    have hlastp : p.isLast = false := hrun.dropLast p (by simp)
    have hnext : p.next acc = p.grow acc := by simp [next, hlastp]
    have hle : p.content.length ≤ (p.grow acc).length := by
      unfold grow
      split <;> simp
    have hrest := length_le_of_fits_rest hrun.tail
      (fun r hr => hrun.dropLast r (by simp [List.dropLast, hr])) h.2
    rw [hnext] at hrest
    rw [contents_cons, List.length_append]
    omega

/-- A piece after an open run gives a run again. A first piece opens a new run, and any other
piece continues the open one. In both cases the run ends the list, and its cells are the buffer. -/
theorem exists_run_of_grow {run : List (Piece α)} (hfirst : ∀ q ∈ run.tail, q.isFirst = false)
    (hlast : ∀ q ∈ run, q.isLast = false) (p : Piece α) :
    ∃ pre run', run ++ [p] = pre ++ run' ∧ p.grow (contents run) = contents run' ∧
      IsRun run' ∧ (p.isLast = false → ∀ q ∈ run', q.isLast = false) := by
  by_cases hp : p.isFirst = true
  · refine ⟨run, [p], rfl, ?_, ⟨by simp, by simp⟩, ?_⟩
    · simp [grow, hp]
    · simp
  · have htail : ∀ q ∈ (run ++ [p]).tail, q.isFirst = false := by
      intro q hq
      cases run with
      | nil => simp at hq
      | cons r run =>
        rcases List.mem_append.mp (by simpa using hq : q ∈ run ++ [p]) with hq | hq
        · exact hfirst q hq
        · rw [List.mem_singleton.mp hq]
          simpa using hp
    refine ⟨[], run ++ [p], rfl, ?_, ⟨htail, by simpa using hlast⟩, ?_⟩
    · simp [grow, hp, contents_append]
    · intro hl q hq
      rcases List.mem_append.mp hq with hq | hq
      · exact hlast q hq
      · rw [List.mem_singleton.mp hq]
        exact hl

/-- The pieces after an open run fit when all runs fit. The buffer holds the cells of the
open run. This is the invariant of the induction: the pieces so far end with a run that no last
piece has closed yet. -/
theorem fits_of_runs {bound : Nat} (pre run : List (Piece α)) {ps : List (Piece α)}
    (hfirst : ∀ p ∈ run.tail, p.isFirst = false) (hlast : ∀ p ∈ run, p.isLast = false)
    (hruns : ∀ pre' run' post, pre ++ run ++ ps = pre' ++ run' ++ post → IsRun run' →
      (contents run').length ≤ bound) :
    Fits bound (contents run) ps := by
  induction ps generalizing pre run with
  | nil => exact trivial
  | cons p ps ih =>
    obtain ⟨skip, run', hsplit, hgrow, hrun, hopen⟩ := exists_run_of_grow hfirst hlast p
    have hall : pre ++ run ++ p :: ps = pre ++ skip ++ run' ++ ps := by
      rw [List.append_assoc pre skip run', ← hsplit]
      simp
    refine ⟨?_, ?_⟩
    · rw [hgrow]
      exact hruns _ _ _ hall hrun
    · rw [hall] at hruns
      cases hl : p.isLast with
      | true =>
        -- The buffer is delivered, and the next run is empty.
        have hnext : p.next (contents run) = contents [] := by simp [next, hl]
        rw [hnext]
        exact ih (pre ++ skip ++ run') [] (by simp) (by simp)
          (fun pre' run'' post h => hruns pre' run'' post (by simpa using h))
      | false =>
        have hnext : p.next (contents run) = contents run' := by simp [next, hl, hgrow]
        rw [hnext]
        exact ih (pre ++ skip) run' hrun.tail (hopen hl) hruns

/-- From an empty buffer, the pieces fit exactly when the cells of every run fit. The right side
does not mention the buffer, so it can be read off the pieces. -/
theorem fits_nil_iff_runs (bound : Nat) (ps : List (Piece α)) :
    Fits bound [] ps ↔
      ∀ pre run post, ps = pre ++ run ++ post → IsRun run → (contents run).length ≤ bound := by
  constructor
  · rintro h pre run post rfl hrun
    rw [List.append_assoc, fits_append, fits_append] at h
    exact length_contents_le_of_fits hrun h.2.1
  · intro hruns
    exact fits_of_runs [] [] (by simp) (by simp) (by simpa using hruns)

/-- The rest of a message fits when the buffer and its cells do. -/
theorem Rest.fits {bound : Nat} {ps : List (Piece α)} (h : Rest ps) {acc : List α}
    (hlen : acc.length + (contents ps).length ≤ bound) : Fits bound acc ps := by
  induction h generalizing acc with
  | last p hfirst hlast =>
    refine ⟨?_, trivial⟩
    simpa [grow, hfirst] using hlen
  | more p ps hfirst hlast _ ih =>
    rw [contents_cons, List.length_append] at hlen
    have hgrow : p.grow acc = acc ++ p.content := by simp [grow, hfirst]
    have hnext : p.next acc = acc ++ p.content := by simp [next, hlast, hgrow]
    refine ⟨?_, ?_⟩
    · rw [hgrow, List.length_append]
      omega
    · rw [hnext]
      apply ih
      rw [List.length_append]
      omega

/-- A complete message fits when its cells do, whatever was in the buffer. -/
theorem Whole.fits {bound : Nat} {ps : List (Piece α)} (h : Whole ps) (acc : List α)
    (hlen : (contents ps).length ≤ bound) : Fits bound acc ps := by
  cases h with
  | single p hfirst hlast => exact ⟨by simpa [grow, hfirst] using hlen, trivial⟩
  | more p ps hfirst hlast rest =>
    have hnext : p.next acc = p.content := by simp [next, grow, hfirst, hlast]
    rw [contents_cons, List.length_append] at hlen
    refine ⟨?_, ?_⟩
    · simp only [grow, hfirst, if_true]
      omega
    · rw [hnext]
      exact rest.fits hlen

end Piece

end DoomSat.Support
