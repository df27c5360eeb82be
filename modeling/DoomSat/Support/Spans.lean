import Mathlib.Order.Interval.Set.Basic

/-!
# `DoomSat.Support.Spans`: sets of integers as sorted spans

A list of spans stands for the set of integers that `covered` gives. `Apart b` says that the
spans are not empty, that they ascend, and that there is a hole in front of each one, so that
every set has one list.

`gaps first last` lists the integers from `first` to `last` that the spans leave out, and
`fill first last` adds the integers from `first` to `last` to the set. A new span that touches
others is merged with them. `mem_covered_gaps` and `mem_covered_fill` say what the two lists
stand for, and `apart_gaps` and `apart_fill` say that they are `Apart` again.

`slack` bounds how many more spans the holes have room for. A new span on its own takes two
from it (`slack_insert`), and a merge takes nothing or more (`slack_fill_le`).

Nothing here depends on the program under verification.
-/

set_option autoImplicit false

namespace DoomSat.Support

/-- The integers from `first` to `last`. -/
structure Span where
  first : Int
  last : Int
  deriving DecidableEq, Repr

/-- The integers in one of the spans. -/
def covered (spans : List Span) : Set Int := {x | ∃ s ∈ spans, s.first ≤ x ∧ x ≤ s.last}

/-- Spans behind `bound` that ascend with a hole in front of each one. -/
def Apart (bound : Int) : List Span → Prop
  | [] => True
  | s :: spans => bound < s.first ∧ s.first ≤ s.last ∧ Apart (s.last + 1) spans

/-- The parts of `first` to `last` that the spans leave out. -/
def gaps (first last : Int) : List Span → List Span
  | [] => [⟨first, last⟩]
  | s :: spans =>
    if s.last < first then gaps first last spans
    else if last < s.first then [⟨first, last⟩]
    else
      (if first < s.first then [⟨first, s.first - 1⟩] else []) ++
        if last ≤ s.last then [] else gaps (s.last + 1) last spans

/-- The spans with the integers from `first` to `last` added. -/
def fill (first last : Int) : List Span → List Span
  | [] => [⟨first, last⟩]
  | s :: spans =>
    if s.last < first - 1 then s :: fill first last spans
    else if last < s.first - 1 then ⟨first, last⟩ :: s :: spans
    else fill (min first s.first) (max last s.last) spans

/-- How much larger than one integer the holes behind `bound` are in total. -/
def slack (bound : Int) : List Span → Int
  | [] => 0
  | s :: spans => (s.first - bound - 2) + slack s.last spans

/-! ### Members -/

/-- No span, no member. -/
@[simp] theorem mem_covered_nil (x : Int) : x ∈ covered [] ↔ False := by
  simp [covered]

/-- A member lies in the first span or in a later one. -/
@[simp] theorem mem_covered_cons (x : Int) (s : Span) (spans : List Span) :
    x ∈ covered (s :: spans) ↔ (s.first ≤ x ∧ x ≤ s.last) ∨ x ∈ covered spans := by
  simp [covered]

/-- A member lies in one of the two lists. -/
@[simp] theorem mem_covered_append (x : Int) (spans spans' : List Span) :
    x ∈ covered (spans ++ spans') ↔ x ∈ covered spans ∨ x ∈ covered spans' := by
  simp [covered, or_and_right, exists_or]

/-- Spans behind a bound are behind every smaller one. -/
theorem Apart.mono {bound bound' : Int} {spans : List Span} (h : Apart bound spans)
    (hle : bound' ≤ bound) : Apart bound' spans := by
  cases spans with
  | nil => trivial
  | cons s spans => exact ⟨lt_of_le_of_lt hle h.1, h.2⟩

/-- A tail of the spans is apart again, behind some bound. -/
theorem Apart.of_append {bound : Int} {before spans : List Span}
    (h : Apart bound (before ++ spans)) : ∃ b, Apart b spans := by
  induction before generalizing bound with
  | nil => exact ⟨bound, h⟩
  | cons s before ih => exact ih h.2.2

/-- The members are behind the bound. This is how a proof sees that the later spans do not reach
the first one. -/
theorem Apart.lt_of_mem {bound x : Int} {spans : List Span} (h : Apart bound spans)
    (hx : x ∈ covered spans) : bound < x := by
  induction spans generalizing bound with
  | nil => simp at hx
  | cons s spans ih =>
    obtain ⟨hbound, hs, hspans⟩ := h
    rcases (mem_covered_cons ..).mp hx with hx | hx
    · omega
    · have := ih hspans hx
      omega

/-! ### Gaps -/

/-- The gaps are what the spans leave out. The induction is over the spans, with a range that
starts behind the spans passed so far. -/
theorem mem_covered_gaps {bound first last : Int} {spans : List Span} (h : Apart bound spans)
    (hle : first ≤ last) (x : Int) :
    x ∈ covered (gaps first last spans) ↔ first ≤ x ∧ x ≤ last ∧ x ∉ covered spans := by
  induction spans generalizing bound first with
  | nil => simp [gaps]
  | cons s spans ih =>
    obtain ⟨hbound, hs, hspans⟩ := h
    -- What the later spans cover lies behind `s` and behind the hole after it.
    have hbehind : x ∈ covered spans → s.last + 1 < x := hspans.lt_of_mem
    -- The first span ends before the range, starts behind it, or meets it.
    by_cases hbefore : s.last < first
    · simp only [gaps, if_pos hbefore, ih hspans hle, mem_covered_cons]
      constructor
      · rintro ⟨h₁, h₂, h₃⟩
        exact ⟨h₁, h₂, by rintro (h | h) <;> [omega; exact h₃ h]⟩
      · rintro ⟨h₁, h₂, h₃⟩
        exact ⟨h₁, h₂, fun h => h₃ (.inr h)⟩
    by_cases hafter : last < s.first
    · simp only [gaps, if_neg hbefore, if_pos hafter, mem_covered_cons, mem_covered_nil,
        or_false]
      constructor
      · rintro ⟨h₁, h₂⟩
        exact ⟨h₁, h₂, by rintro (h | h) <;> [omega; exact absurd (hbehind h) (by omega)]⟩
      · rintro ⟨h₁, h₂, -⟩
        exact ⟨h₁, h₂⟩
    -- The part of the range in front of the span.
    have hfront : x ∈ covered (if first < s.first then [⟨first, s.first - 1⟩] else []) ↔
        first ≤ x ∧ x < s.first := by
      split
      · simp only [mem_covered_cons, mem_covered_nil, or_false]
        omega
      · simp only [mem_covered_nil, false_iff]
        omega
    -- The part of the range behind the span.
    have hrest : x ∈ covered (if last ≤ s.last then [] else gaps (s.last + 1) last spans) ↔
        s.last < x ∧ x ≤ last ∧ x ∉ covered spans := by
      split
      · simp
        omega
      · rw [ih hspans (by omega)]
        constructor <;> rintro ⟨h₁, h₂⟩ <;> exact ⟨by omega, h₂⟩
    simp only [gaps, if_neg hbefore, if_neg hafter, mem_covered_append, hfront, hrest,
      mem_covered_cons]
    constructor
    · rintro (⟨h₁, h₂⟩ | ⟨h₁, h₂, h₃⟩)
      · exact ⟨h₁, by omega, by rintro (h | h) <;> [omega; exact absurd (hbehind h) (by omega)]⟩
      · exact ⟨by omega, h₂, by rintro (h | h) <;> [omega; exact h₃ h]⟩
    · rintro ⟨h₁, h₂, h₃⟩
      by_cases hx : x < s.first
      · exact .inl ⟨h₁, hx⟩
      · exact .inr ⟨by by_contra; exact h₃ (.inl (by omega)), h₂, fun h => h₃ (.inr h)⟩

/-- The gaps are apart again: a span with at least one integer lies between two of them. -/
theorem apart_gaps {bound bound' first last : Int} {spans : List Span}
    (h : Apart bound spans) (hle : first ≤ last) (hfirst : bound' < first) :
    Apart bound' (gaps first last spans) := by
  induction spans generalizing bound bound' first with
  | nil => exact ⟨hfirst, hle, trivial⟩
  | cons s spans ih =>
    obtain ⟨hbound, hs, hspans⟩ := h
    by_cases hbefore : s.last < first
    · simp only [gaps, if_pos hbefore]
      exact ih hspans hle hfirst
    by_cases hafter : last < s.first
    · simp only [gaps, if_neg hbefore, if_pos hafter]
      exact ⟨hfirst, hle, trivial⟩
    -- `s` is between the gap in front of it and the gaps behind it.
    have hrest {b : Int} (hb : b ≤ s.last) :
        Apart b (if last ≤ s.last then [] else gaps (s.last + 1) last spans) := by
      split
      · trivial
      · exact ih hspans (by omega) (by omega)
    simp only [gaps, if_neg hbefore, if_neg hafter]
    split
    · refine ⟨hfirst, ?_, hrest ?_⟩
      · show first ≤ s.first - 1
        omega
      · show s.first - 1 + 1 ≤ s.last
        omega
    · exact hrest (by omega)

/-- A range inside one span has no gaps. The clipper calls this a wall that is hidden
completely. -/
theorem gaps_eq_nil {bound first last : Int} {spans : List Span} (h : Apart bound spans)
    {s : Span} (hs : s ∈ spans) (hfirst : s.first ≤ first) (hlast : last ≤ s.last)
    (hle : first ≤ last) : gaps first last spans = [] := by
  induction spans generalizing bound with
  | nil => cases hs
  | cons t spans ih =>
    obtain ⟨-, ht, hspans⟩ := h
    rcases List.mem_cons.mp hs with rfl | hs
    · simp only [gaps, if_neg (show ¬s.last < first by omega),
        if_neg (show ¬last < s.first by omega), if_neg (show ¬first < s.first by omega),
        if_pos hlast, List.nil_append]
    · have hbehind : t.last + 1 < s.first :=
        hspans.lt_of_mem ⟨s, hs, le_refl _, hfirst.trans (hle.trans hlast)⟩
      simp only [gaps, if_pos (show t.last < first by omega)]
      exact ih hspans hs

/-- Spans before the range have no part in its gaps, so a loop may skip them. -/
theorem gaps_append {first last : Int} {before : List Span}
    (h : ∀ s ∈ before, s.last < first) (spans : List Span) :
    gaps first last (before ++ spans) = gaps first last spans := by
  induction before with
  | nil => rfl
  | cons s before ih =>
    rw [List.cons_append, gaps, if_pos (h s List.mem_cons_self)]
    exact ih fun t ht => h t (List.mem_cons_of_mem _ ht)

/-- The gaps of a range that touches the first span: one in front of it, and those behind it.
Here the range may only touch the span, which the definition treats as a case of its own. -/
theorem gaps_of_touch {first last : Int} {s : Span} (spans : List Span)
    (hfirst : first - 1 ≤ s.last) (hlast : s.first - 1 ≤ last) (hs : s.first ≤ s.last)
    (hle : first ≤ last) :
    gaps first last (s :: spans) =
      (if first < s.first then [⟨first, s.first - 1⟩] else []) ++
        if last ≤ s.last then [] else gaps (s.last + 1) last spans := by
  by_cases hbefore : s.last < first
  · rw [gaps, if_pos hbefore, if_neg (by omega), if_neg (by omega), List.nil_append,
      show s.last + 1 = first by omega]
  by_cases hafter : last < s.first
  · rw [gaps, if_neg hbefore, if_pos hafter, if_pos (by omega), if_pos (by omega),
      List.append_nil, show s.first - 1 = last by omega]
  · rw [gaps, if_neg hbefore, if_neg hafter]

/-! ### Filling -/

/-- The new list has the old integers and the new ones. A merge grows the range, and the
induction goes on with the larger one. -/
theorem mem_covered_fill {first last : Int} (hle : first ≤ last) (spans : List Span) (x : Int) :
    x ∈ covered (fill first last spans) ↔ (first ≤ x ∧ x ≤ last) ∨ x ∈ covered spans := by
  induction spans generalizing first last with
  | nil => simp [fill]
  | cons s spans ih =>
    by_cases hbefore : s.last < first - 1
    · simp only [fill, if_pos hbefore, mem_covered_cons, ih hle]
      exact or_left_comm
    by_cases hafter : last < s.first - 1
    · simp only [fill, if_neg hbefore, if_pos hafter, mem_covered_cons]
    -- The span and the range touch, so that nothing lies between them.
    · simp only [fill, if_neg hbefore, if_neg hafter, mem_covered_cons]
      rw [ih (by omega), ← or_assoc]
      refine or_congr_left ?_
      omega

/-- The new list is apart again. A range that touches a span is merged with it, so no two spans
touch. -/
theorem apart_fill {bound first last : Int} {spans : List Span} (h : Apart bound spans)
    (hle : first ≤ last) (hfirst : bound < first) : Apart bound (fill first last spans) := by
  induction spans generalizing bound first last with
  | nil => exact ⟨hfirst, hle, trivial⟩
  | cons s spans ih =>
    obtain ⟨hbound, hs, hspans⟩ := h
    -- The first span stays in front, the range is a span of its own, or the two are merged.
    by_cases hbefore : s.last < first - 1
    · simp only [fill, if_pos hbefore]
      exact ⟨hbound, hs, ih hspans hle (by omega)⟩
    by_cases hafter : last < s.first - 1
    · simp only [fill, if_neg hbefore, if_pos hafter]
      refine ⟨hfirst, hle, ?_, hs, hspans⟩
      show last + 1 < s.first
      omega
    · simp only [fill, if_neg hbefore, if_neg hafter]
      exact ih (hspans.mono (by omega)) (by omega) (by omega)

/-- Spans before the range stay. -/
theorem fill_append {first last : Int} {before : List Span}
    (h : ∀ s ∈ before, s.last < first - 1) (spans : List Span) :
    fill first last (before ++ spans) = before ++ fill first last spans := by
  induction before with
  | nil => rfl
  | cons s before ih =>
    rw [List.cons_append, fill, if_pos (h s List.mem_cons_self),
      ih fun t ht => h t (List.mem_cons_of_mem _ ht)]
    rfl

/-- A range that ends before the spans is a span of its own. -/
theorem fill_of_apart {first last : Int} {spans : List Span} (h : Apart (last + 1) spans)
    (hle : first ≤ last) : fill first last spans = ⟨first, last⟩ :: spans := by
  cases spans with
  | nil => rfl
  | cons s spans =>
    obtain ⟨hlast, hs, -⟩ := h
    rw [fill, if_neg (by omega), if_pos (by omega)]

/-- A range that touches the first span is merged with it. -/
theorem fill_of_touch {first last : Int} {s : Span} (spans : List Span)
    (hfirst : first - 1 ≤ s.last) (hlast : s.first - 1 ≤ last) :
    fill first last (s :: spans) = fill (min first s.first) (max last s.last) spans := by
  rw [fill, if_neg (by omega), if_neg (by omega)]

/-! ### Slack -/

/-- The holes have room for nothing less than one integer each. -/
theorem slack_nonneg {bound : Int} {spans : List Span} (h : Apart (bound + 1) spans) :
    0 ≤ slack bound spans := by
  induction spans generalizing bound with
  | nil => exact le_refl _
  | cons s spans ih =>
    obtain ⟨hbound, -, hspans⟩ := h
    have := ih hspans
    rw [slack]
    omega

/-- A gain of slack in the tail is one of the whole list. -/
theorem slack_append_le {bound : Int} {spans spans' : List Span} {n : Int}
    (h : ∀ b, slack b spans + n ≤ slack b spans') (before : List Span) :
    slack bound (before ++ spans) + n ≤ slack bound (before ++ spans') := by
  induction before generalizing bound with
  | nil => exact h bound
  | cons s before ih =>
    have hbefore : slack s.last (before ++ spans) + n ≤ slack s.last (before ++ spans') := ih
    simp only [List.cons_append, slack]
    omega

/-- A new span takes two from the slack: it needs a hole of its own and at least one integer. -/
theorem slack_insert {first last : Int} (hle : first ≤ last) (s : Span) (spans : List Span)
    (bound : Int) : slack bound (⟨first, last⟩ :: s :: spans) + 2 ≤ slack bound (s :: spans) := by
  simp only [slack]
  omega

/-- Growing the first span takes nothing or more. The induction is over the spans that the
larger range swallows. -/
theorem slack_fill_le {first last last' : Int} {spans : List Span}
    (h : Apart (last + 1) spans) (hle : first ≤ last) (hlast : last ≤ last') (bound : Int) :
    slack bound (fill first last' spans) ≤ slack bound (⟨first, last⟩ :: spans) := by
  induction spans generalizing last last' with
  | nil => exact le_refl _
  | cons s spans ih =>
    obtain ⟨hs, hle', hspans⟩ := h
    by_cases hafter : last' < s.first - 1
    · rw [fill, if_neg (by omega), if_pos hafter]
      simp only [slack]
      omega
    · rw [fill, if_neg (by omega), if_neg hafter, min_eq_left (by omega)]
      have := ih hspans (by omega) (le_max_right last' s.last)
      simp only [slack] at this ⊢
      omega

/-- A merge takes nothing or more from the slack. -/
theorem slack_fill_of_touch {first last b : Int} {s : Span} {spans : List Span}
    (h : Apart b (s :: spans)) (hfirst : first - 1 ≤ s.last) (hlast : s.first - 1 ≤ last)
    (bound : Int) : slack bound (fill first last (s :: spans)) ≤ slack bound (s :: spans) := by
  obtain ⟨-, hs, hspans⟩ := h
  have hgrow := slack_fill_le hspans ((min_le_right first s.first).trans hs)
    (le_max_right last s.last) bound
  rw [fill_of_touch spans hfirst hlast]
  simp only [slack] at hgrow ⊢
  omega

end DoomSat.Support
