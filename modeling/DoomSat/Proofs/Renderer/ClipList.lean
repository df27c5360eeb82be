import DoomSat.Support.Stored
import DoomSat.Proofs.Renderer.Projection

/-!
# `DoomSat.Proofs.Renderer.ClipList`: `solidsegs` as a set of hidden columns

`ClipList view frame spans` connects the array `solidsegs` with a list of spans. The array
starts with the spans, which end with the one that goes on to the right of the screen.
Behind them it can hold up to `newend` some posts that `R_ClipSolidWallSegment` left there.
`room` is why the array is never full: a new post takes two columns of the slack, so
`newend` stays at most `MAXSEGS` for every width of the view.

There is one lemma for each loop. `rClipSolidWallSegment_ok` puts them together: the function
stores the gaps of the range and the list becomes `fill` of it. `rClipPassWallSegment_eq`
stores the same gaps and leaves the list.
-/

set_option autoImplicit false

namespace DoomSat.Renderer

open Support

/-- The array has these spans. -/
structure ClipList (view : View) (frame : Frame) (spans : List Span) : Prop where
  stored : Stored frame.solidsegs 0 spans
  apart : Apart INT_MIN spans
  right : INT_MAX ∈ covered spans
  length_le : spans.length ≤ frame.newend
  room : 2 * frame.newend + slack (INT_MIN - 1) spans ≤ view.mapping.viewwidth + 3
  drawsegs_le : frame.drawsegs.length ≤ MAXDRAWSEGS

/-- The piece of a wall in a range of columns. -/
def pieceOf (curline : Seg) (range : Span) : DrawSeg := ⟨curline, range.first, range.last⟩

/-- The frame with pieces of a wall drawn, as many as `drawsegs` has room for. -/
def Frame.draw (frame : Frame) (curline : Seg) (pieces : List Span) : Frame :=
  { frame with
    drawsegs := (frame.drawsegs ++ pieces.map (pieceOf curline)).take MAXDRAWSEGS }

/-- A range of columns on the screen. -/
def OnScreen (view : View) (first last : Int) : Prop :=
  0 ≤ first ∧ first ≤ last ∧ last < view.mapping.viewwidth

/-! ### Drawing -/

/-- Nothing is drawn, and the list is not cut. -/
theorem draw_nil {frame : Frame} (curline : Seg)
    (h : frame.drawsegs.length ≤ MAXDRAWSEGS) : frame.draw curline [] = frame := by
  simp [Frame.draw, List.take_of_length_le h]

/-- A list that is cut twice is cut once. `drawsegs` is cut at each call. -/
theorem take_take_append (xs ys : List DrawSeg) (n : Nat) :
    (xs.take n ++ ys).take n = (xs ++ ys).take n := by
  simp only [List.take_append, List.take_take, Nat.min_self, List.length_take]
  rw [show n - min n xs.length = n - xs.length by omega]

/-- Two lists of pieces are drawn one after the other. -/
theorem draw_append (frame : Frame) (curline : Seg) (pieces pieces' : List Span) :
    (frame.draw curline pieces).draw curline pieces' = frame.draw curline (pieces ++ pieces') := by
  simp only [Frame.draw, List.map_append, ← List.append_assoc, take_take_append]

/-- Drawing never exceeds the array. -/
theorem draw_drawsegs_le (frame : Frame) (curline : Seg) (pieces : List Span) :
    (frame.draw curline pieces).drawsegs.length ≤ MAXDRAWSEGS :=
  List.length_take_le ..

/-- `R_StoreWallRange` draws a range on the screen, or nothing when `drawsegs` is full. The
check for a bad range does not apply to a range on the screen. -/
theorem rStoreWallRange_eq {view : View} (hvalid : view.mapping.Valid) (curline : Seg)
    {start stop : Int} (hscreen : OnScreen view start stop) {frame : Frame}
    (hle : frame.drawsegs.length ≤ MAXDRAWSEGS) :
    rStoreWallRange view curline start stop frame =
      .ok (frame.draw curline [⟨start, stop⟩]) := by
  obtain ⟨hstart, hstop, hwidth⟩ := hscreen
  have := hvalid.width_le
  unfold rStoreWallRange
  -- A full array is no error: the wall is left out.
  by_cases hfull : frame.drawsegs.length = MAXDRAWSEGS
  · rw [if_pos hfull, Frame.draw, List.take_append_of_le_length hfull.ge,
      List.take_of_length_le hle]
  · have hroom : (frame.drawsegs ++ [pieceOf curline ⟨start, stop⟩]).length ≤ MAXDRAWSEGS := by
      simp only [List.length_append, List.length_singleton]
      omega
    rw [if_neg hfull, if_neg (by omega), if_neg (by omega), if_neg (by omega), Frame.draw,
      List.map_singleton, List.take_of_length_le hroom]
    rfl

/-! ### The loops -/

/-- A read inside the array gives the element. -/
theorem Frame.read_eq {frame : Frame} {i : Nat} (h : i < MAXSEGS) :
    frame.read i = .ok (frame.solidsegs i) := if_pos h

/-- The scan stops at the first span that reaches the bound. The induction is over the spans
that it skips, with the index and the fuel that are left. -/
theorem skipRanges_eq {frame : Frame} {bound : Int} {fuel i : Nat} {before : List Span}
    {s : Span} {after : List Span} (h : Stored frame.solidsegs i (before ++ s :: after))
    (hbefore : ∀ b ∈ before, b.last < bound) (hs : bound ≤ s.last)
    (hfuel : before.length < fuel) (hi : i + before.length < MAXSEGS) :
    skipRanges frame bound fuel i = .ok (i + before.length) := by
  induction before generalizing fuel i with
  | nil =>
    obtain ⟨hhead, -⟩ := h
    cases fuel with
    | zero => omega
    | succ fuel =>
      rw [skipRanges, Frame.read_eq (by omega)]
      show (if (frame.solidsegs i).last < bound then _ else _) = _
      rw [hhead, if_neg (by omega)]
      rfl
  | cons b before ih =>
    obtain ⟨hhead, htail⟩ := h
    rw [List.length_cons] at hfuel hi
    cases fuel with
    | zero => omega
    | succ fuel =>
      rw [skipRanges, Frame.read_eq (by omega)]
      show (if (frame.solidsegs i).last < bound then _ else _) = _
      rw [hhead, if_pos (hbefore b List.mem_cons_self), ih htail
        (fun t ht => hbefore t (List.mem_cons_of_mem _ ht)) (by omega) (by omega),
        List.length_cons, Nat.add_right_comm, Nat.add_assoc]

/-- The posts from `start` on are also one index higher. The loop runs down from the end, so it
reads each post before it overwrites it. -/
theorem movePostsUp_ok {frame : Frame} {start next : Nat} (hle : start ≤ next)
    (hnext : next < MAXSEGS) :
    ∃ array, movePostsUp start next frame = .ok { frame with solidsegs := array } ∧
      (∀ i, i ≤ start ∨ next < i → array i = frame.solidsegs i) ∧
      ∀ i, start ≤ i → i < next → array (i + 1) = frame.solidsegs i := by
  -- The induction is on the index from which the loop goes down.
  induction next generalizing frame with
  | zero =>
    rw [movePostsUp, if_pos (by omega)]
    exact ⟨frame.solidsegs, rfl, fun _ _ => rfl, by omega⟩
  | succ next ih =>
    rw [movePostsUp]
    by_cases hstart : next + 1 = start
    · rw [if_pos hstart]
      exact ⟨frame.solidsegs, rfl, fun _ _ => rfl, by omega⟩
    · rw [if_neg hstart, Frame.read_eq (by omega)]
      let moved := Function.update frame.solidsegs (next + 1) (frame.solidsegs next)
      have hwrite : frame.write (next + 1) (frame.solidsegs next) =
          .ok { frame with solidsegs := moved } := if_pos hnext
      obtain ⟨array, hrun, hkept, hmoved⟩ :=
        @ih { frame with solidsegs := moved } (by omega) (by omega)
      have hother : ∀ i, i ≠ next + 1 → moved i = frame.solidsegs i :=
        fun i hi => Function.update_of_ne hi ..
      refine ⟨array, ?_, fun i hi => ?_, fun i hi hlt => ?_⟩
      · show (frame.write (next + 1) (frame.solidsegs next) >>= _) = _
        rw [hwrite]
        exact hrun
      · rw [hkept i (by omega)]
        exact hother i (by omega)
      · rcases Nat.lt_succ_iff_lt_or_eq.mp hlt with hlt | rfl
        · rw [hmoved i hi hlt]
          exact hother i (by omega)
        · -- The element that the first step of the loop moved.
          rw [hkept (i + 1) (by omega)]
          exact Function.update_self ..

/-- The elements behind `next` move to behind `start`, up to the one at `newend`. This loop runs
up, and the read position is always ahead of the write position. -/
theorem removePosts_ok {frame : Frame} {fuel start next : Nat} (hlt : start < next)
    (hle : next ≤ frame.newend) (hnewend : frame.newend ≤ MAXSEGS)
    (hfuel : frame.newend - next < fuel) :
    ∃ array, removePosts fuel frame start next = .ok { frame with
        solidsegs := array, newend := start + (frame.newend - next) + 1 } ∧
      (∀ i ≤ start, array i = frame.solidsegs i) ∧
      ∀ k < frame.newend - next, array (start + 1 + k) = frame.solidsegs (next + 1 + k) := by
  induction fuel generalizing frame start next with
  | zero => omega
  | succ fuel ih =>
    rw [removePosts]
    -- The loop ends at `newend`, or it copies one element.
    by_cases hnext : next = frame.newend
    · rw [if_pos hnext]
      refine ⟨frame.solidsegs, ?_, fun _ _ => rfl, by omega⟩
      rw [hnext, Nat.sub_self, Nat.add_zero]
    · rw [if_neg hnext]
      have hread : frame.readBehind (next + 1) = .ok (frame.solidsegs (next + 1)) :=
        if_pos (by omega)
      let moved := Function.update frame.solidsegs (start + 1) (frame.solidsegs (next + 1))
      have hwrite : frame.write (start + 1) (frame.solidsegs (next + 1)) =
          .ok { frame with solidsegs := moved } := if_pos (by omega)
      have hother : ∀ i, i ≠ start + 1 → moved i = frame.solidsegs i :=
        fun i hi => Function.update_of_ne hi ..
      obtain ⟨array, hrun, hkept, hmoved⟩ :=
        @ih { frame with solidsegs := moved } (start + 1) (next + 1) (by omega)
          (show next + 1 ≤ frame.newend by omega) hnewend
          (show frame.newend - (next + 1) < fuel by omega)
      refine ⟨array, ?_, fun i hi => ?_, fun k hk => ?_⟩
      · rw [hread]
        show (frame.write (start + 1) (frame.solidsegs (next + 1)) >>= _) = _
        rw [hwrite]
        refine hrun.trans ?_
        show Except.ok _ = _
        congr 2
        show start + 1 + (frame.newend - (next + 1)) + 1 = start + (frame.newend - next) + 1
        omega
      · rw [hkept i (by omega)]
        exact hother i (by omega)
      · cases k with
        | zero =>
          rw [Nat.add_zero, Nat.add_zero, hkept (start + 1) (Nat.le_refl _)]
          exact Function.update_self ..
        | succ k =>
          have hcopy := hmoved k (show k < frame.newend - (next + 1) by omega)
          rw [Nat.add_right_comm (start + 1), Nat.add_right_comm (next + 1)] at hcopy
          rw [← Nat.add_assoc, ← Nat.add_assoc, hcopy]
          exact hother _ (by omega)

/-- What the loop over the posts leaves to do: `bottom` is the last post that the range
reaches. Either it contains the end of the range, or there is a fragment behind it. -/
def Between (last bound : Int) (rest pieces remaining : List Span) (bottom : Span)
    (contained : Bool) : Prop :=
  (contained = true ∧ gaps bound last rest = pieces ∧
      ∀ first ≤ bound, fill first last rest = ⟨first, bottom.last⟩ :: remaining) ∨
    (contained = false ∧ 0 ≤ bottom.last + 1 ∧ bottom.last + 1 ≤ last ∧
      gaps bound last rest = pieces ++ [⟨bottom.last + 1, last⟩] ∧
      ∀ first ≤ bound, fill first last rest = ⟨first, last⟩ :: remaining)

/-- The loop ends at a post that contains the end of the range. The fragment up to this post is
the last gap. -/
theorem between_contained {last bound : Int} {above : Span} {rest : List Span}
    (habove : bound < above.first) (hreach : above.first - 1 ≤ last)
    (hcontained : last ≤ above.last) (hapart : Apart (above.last + 1) rest) :
    Between last bound (above :: rest) [⟨bound, above.first - 1⟩] rest above true := by
  refine .inl ⟨rfl, ?_, fun first hfirst => ?_⟩
  · rw [gaps, if_neg (by omega), if_pos habove, if_pos hcontained]
    split
    · rw [show above.first - 1 = last by omega]
    · exact List.append_nil _
  · rw [fill, if_neg (by omega), if_neg (by omega), min_eq_left (by omega),
      max_eq_right hcontained]
    exact fill_of_apart hapart (by omega)

/-- The loop ends in front of a post that the range does not reach. Then there is a fragment
between the last post and the end of the range. -/
theorem between_below {last : Int} {post above : Span} {rest : List Span}
    (hzero : 0 ≤ post.last + 1) (hpost : post.last < last) (hbelow : last < above.first - 1)
    (hspan : above.first ≤ above.last) :
    Between last (post.last + 1) (above :: rest) [] (above :: rest) post false := by
  refine .inr ⟨rfl, hzero, by omega, ?_, fun first hfirst => ?_⟩
  · rw [gaps, if_neg (by omega), if_pos (by omega)]
    rfl
  · rw [fill, if_neg (by omega), if_pos (by omega)]

/-- The loop goes past a post: it draws the gap in front of it, and the post becomes a part of
the merged range. -/
theorem Between.absorb {last bound : Int} {above bottom : Span}
    {rest pieces remaining : List Span} {contained : Bool}
    (h : Between last (above.last + 1) rest pieces remaining bottom contained)
    (habove : bound < above.first) (hspan : above.first ≤ above.last)
    (hlast : above.last < last) :
    Between last bound (above :: rest) (⟨bound, above.first - 1⟩ :: pieces) remaining bottom
      contained := by
  have hgaps : gaps bound last (above :: rest) =
      ⟨bound, above.first - 1⟩ :: gaps (above.last + 1) last rest := by
    rw [gaps, if_neg (by omega), if_neg (by omega), if_pos habove, if_neg (by omega)]
    rfl
  have hfill : ∀ first ≤ bound, fill first last (above :: rest) = fill first last rest := by
    intro first hfirst
    rw [fill, if_neg (by omega), if_neg (by omega), min_eq_left (by omega),
      max_eq_left (by omega)]
  -- The two ends of the loop.
  rcases h with ⟨hc, hg, hf⟩ | ⟨hc, h0, hb, hg, hf⟩
  · refine .inl ⟨hc, by rw [hgaps, hg], fun first hfirst => ?_⟩
    rw [hfill first hfirst]
    exact hf first (by omega)
  · refine .inr ⟨hc, h0, hb, by rw [hgaps, hg]; rfl, fun first hfirst => ?_⟩
    rw [hfill first hfirst]
    exact hf first (by omega)

/-- One turn of the loop, inside the array. -/
theorem storeBetween_succ {view : View} {curline : Seg} {last : Int} {fuel next : Nat}
    {frame : Frame} (h : next + 1 < MAXSEGS) :
    storeBetween view curline last (fuel + 1) frame next =
      if last ≥ (frame.solidsegs (next + 1)).first - 1 then do
        let stored ← rStoreWallRange view curline ((frame.solidsegs next).last + 1)
          ((frame.solidsegs (next + 1)).first - 1) frame
        if last ≤ (frame.solidsegs (next + 1)).last then .ok (stored, next + 1, true)
        else storeBetween view curline last fuel stored (next + 1)
      else .ok (frame, next, false) := by
  rw [storeBetween, Frame.read_eq h, Frame.read_eq (Nat.lt_of_succ_lt h)]
  rfl

/-- The loop stores the fragments up to the last post that the range reaches. Some span reaches
the end of the range, because the last one goes on to the right of the screen; so the loop never
leaves the array. The induction is over the posts behind the first one. -/
theorem storeBetween_ok {view : View} (hvalid : view.mapping.Valid) (curline : Seg)
    {last : Int} (hwidth : last < view.mapping.viewwidth) {fuel next : Nat} {frame : Frame}
    {post : Span} {rest : List Span} (hstored : Stored frame.solidsegs next (post :: rest))
    (hapart : Apart (post.last + 1) rest) (hzero : 0 ≤ post.last + 1) (hpost : post.last < last)
    (hreach : ∃ t ∈ rest, last ≤ t.last) (hindex : next + rest.length < MAXSEGS)
    (hfuel : rest.length ≤ fuel) (hle : frame.drawsegs.length ≤ MAXDRAWSEGS) :
    ∃ absorbed remaining pieces contained, rest = absorbed ++ remaining ∧
      storeBetween view curline last fuel frame next =
        .ok (frame.draw curline pieces, next + absorbed.length, contained) ∧
      Between last (post.last + 1) rest pieces remaining
        (frame.solidsegs (next + absorbed.length)) contained := by
  induction rest generalizing fuel next frame post with
  | nil =>
    obtain ⟨t, ht, -⟩ := hreach
    cases ht
  | cons above rest ih =>
    obtain ⟨hhead, hnext, hrest⟩ := hstored
    obtain ⟨habove, hspan, hrestApart⟩ := hapart
    rw [List.length_cons] at hindex hfuel
    cases fuel with
    | zero => omega
    | succ fuel =>
      have hloop := @storeBetween_succ view curline last fuel next frame (by omega)
      rw [hhead, hnext] at hloop
      by_cases hbelow : last ≥ above.first - 1
      · -- There is a fragment up to `above`.
        let frame' := frame.draw curline [⟨post.last + 1, above.first - 1⟩]
        have hle' : frame'.drawsegs.length ≤ MAXDRAWSEGS := draw_drawsegs_le ..
        have hstore : rStoreWallRange view curline (post.last + 1) (above.first - 1) frame =
            .ok frame' :=
          rStoreWallRange_eq hvalid curline ⟨hzero, by omega, by omega⟩ hle
        rw [if_pos hbelow, hstore] at hloop
        change _ = (if last ≤ above.last then Except.ok (frame', next + 1, true)
          else storeBetween view curline last fuel frame' (next + 1)) at hloop
        -- The post contains the end of the range, or the loop goes past it.
        by_cases hcontained : last ≤ above.last
        · rw [if_pos hcontained] at hloop
          refine ⟨[above], rest, [⟨post.last + 1, above.first - 1⟩], true, rfl, hloop, ?_⟩
          rw [List.length_singleton, hnext]
          exact between_contained habove hbelow hcontained hrestApart
        · rw [if_neg hcontained] at hloop
          have hreach' : ∃ t ∈ rest, last ≤ t.last := by
            obtain ⟨t, ht, hlast⟩ := hreach
            rcases List.mem_cons.mp ht with rfl | ht
            · exact absurd hlast hcontained
            · exact ⟨t, ht, hlast⟩
          obtain ⟨absorbed, remaining, pieces, contained, rfl, hrun, hbetween⟩ :=
            @ih fuel (next + 1) frame' above ⟨hnext, hrest⟩ hrestApart (by omega) (by omega)
              hreach' (by omega) (by omega) hle'
          have hbottom : next + (above :: absorbed).length = next + 1 + absorbed.length := by
            rw [List.length_cons]
            omega
          refine ⟨above :: absorbed, remaining, ⟨post.last + 1, above.first - 1⟩ :: pieces,
            contained, rfl, ?_, ?_⟩
          · rw [hbottom, hloop, hrun, draw_append]
            rfl
          · rw [hbottom]
            exact hbetween.absorb habove hspan (by omega)
      · rw [if_neg hbelow] at hloop
        refine ⟨[], above :: rest, [], false, rfl, ?_, ?_⟩
        · rw [draw_nil curline hle]
          exact hloop
        · rw [List.length_nil, Nat.add_zero, hhead]
          exact between_below hzero hpost (by omega) hspan

/-! ### The clip functions -/

section Clip

variable {view : View} (hvalid : view.mapping.Valid)
include hvalid

/-- There is always room for the posts: the slack is not negative, so `newend` is at most half
of the width and 3. -/
theorem ClipList.newend_le {frame : Frame} {spans : List Span}
    (h : ClipList view frame spans) : frame.newend ≤ MAXSEGS := by
  have hslack : 0 ≤ slack (INT_MIN - 1) spans :=
    slack_nonneg (by rw [Int.sub_add_cancel]; exact h.apart)
  have hroom := h.room
  have hwidth := hvalid.width_le
  unfold SCREENWIDTH at hwidth
  show frame.newend ≤ 161
  omega

omit hvalid in
/-- The first span that reaches a bound. There is one, because the last span goes on to the
right of every column. -/
theorem ClipList.exists_split {frame : Frame} {spans : List Span}
    (h : ClipList view frame spans) {bound : Int} (hbound : bound ≤ INT_MAX) :
    ∃ before s after, spans = before ++ s :: after ∧ (∀ b ∈ before, b.last < bound) ∧
      bound ≤ s.last := by
  obtain ⟨t, ht, -, hright⟩ := h.right
  have hfind : (spans.find? fun s => decide (bound ≤ s.last)).isSome :=
    List.find?_isSome.mpr ⟨t, ht, decide_eq_true (hbound.trans hright)⟩
  obtain ⟨s, hs⟩ := Option.isSome_iff_exists.mp hfind
  obtain ⟨hlast, before, after, rfl, hbefore⟩ := List.find?_eq_some_iff_append.mp hs
  refine ⟨before, s, after, rfl, fun b hb => ?_, of_decide_eq_true hlast⟩
  have := hbefore b hb
  simpa using this

/-- The scan of the clip functions and of `R_CheckBBox` finds that span, without leaving the
array. -/
theorem ClipList.skipRanges_eq {frame : Frame} {before : List Span} {s : Span}
    {after : List Span} (h : ClipList view frame (before ++ s :: after)) {bound : Int}
    (hbefore : ∀ b ∈ before, b.last < bound) (hs : bound ≤ s.last) :
    skipRanges frame bound MAXSEGS 0 = .ok before.length ∧
      frame.read before.length = .ok s := by
  have hle := h.newend_le hvalid
  have hlength := h.length_le
  rw [List.length_append, List.length_cons] at hlength
  obtain ⟨-, hstored⟩ := stored_append.mp h.stored
  rw [Nat.zero_add] at hstored
  refine ⟨?_, ?_⟩
  · rw [DoomSat.Renderer.skipRanges_eq h.stored hbefore hs (by omega) (by omega), Nat.zero_add]
  · rw [Frame.read_eq (by omega), hstored.1]

omit hvalid in
/-- Drawing does not change the clip list. -/
theorem ClipList.draw {frame : Frame} {spans : List Span} (h : ClipList view frame spans)
    (curline : Seg) (pieces : List Span) : ClipList view (frame.draw curline pieces) spans :=
  ⟨h.stored, h.apart, h.right, h.length_le, h.room, draw_drawsegs_le ..⟩

/-- There is room for a new post: it takes two columns of the slack. -/
theorem ClipList.room_insert {frame : Frame} {before : List Span} {s : Span} {after : List Span}
    (h : ClipList view frame (before ++ s :: after)) {first last : Int} (hle : first ≤ last)
    (hapart : Apart INT_MIN (before ++ ⟨first, last⟩ :: s :: after)) :
    frame.newend < MAXSEGS ∧ 2 * ((frame.newend + 1 : Nat) : Int) +
      slack (INT_MIN - 1) (before ++ ⟨first, last⟩ :: s :: after) ≤ view.mapping.viewwidth + 3 := by
  have hslack : slack (INT_MIN - 1) (before ++ ⟨first, last⟩ :: s :: after) + 2 ≤
      slack (INT_MIN - 1) (before ++ s :: after) :=
    slack_append_le (fun b => slack_insert hle s after b) before
  have hnonneg : 0 ≤ slack (INT_MIN - 1) (before ++ ⟨first, last⟩ :: s :: after) :=
    slack_nonneg (by rw [Int.sub_add_cancel]; exact hapart)
  have hroom := h.room
  have hwidth := hvalid.width_le
  unfold SCREENWIDTH at hwidth
  refine ⟨?_, ?_⟩
  · show frame.newend < 161
    omega
  · push_cast
    omega

/-- A post of its own is inserted. The posts behind it move up by one, and the new one takes the
free place. -/
theorem insertPost_ok {frame : Frame} {before : List Span} {s : Span} {after : List Span}
    (h : ClipList view frame (before ++ s :: after)) {first last : Int} (hle : first ≤ last)
    (hfirst : INT_MIN < first) (hbefore : ∀ b ∈ before, b.last < first - 1)
    (hlast : last < s.first - 1) (hs : s.first ≤ s.last) :
    ∃ frame', insertPost first last before.length frame = .ok frame' ∧
      ClipList view frame' (fill first last (before ++ s :: after)) ∧
      frame'.drawsegs = frame.drawsegs := by
  have hfill : fill first last (before ++ s :: after) =
      before ++ ⟨first, last⟩ :: s :: after := by
    rw [fill_append hbefore, fill, if_neg (by omega), if_pos hlast]
  have hapart := apart_fill h.apart hle hfirst
  rw [hfill] at hapart
  obtain ⟨hnext, hroom⟩ := h.room_insert hvalid hle hapart
  have hlength := h.length_le
  rw [List.length_append, List.length_cons] at hlength
  obtain ⟨array, hrun, hkept, hmoved⟩ :=
    @movePostsUp_ok { frame with newend := frame.newend + 1 } before.length frame.newend
      (by omega) hnext
  obtain ⟨hlow, hhigh⟩ := stored_append.mp h.stored
  rw [Nat.zero_add] at hhigh
  let frame' : Frame :=
    { frame with
      solidsegs := Function.update array before.length ⟨first, last⟩
      newend := frame.newend + 1 }
  refine ⟨frame', ?_, ?_, rfl⟩
  · show movePostsUp before.length frame.newend _ >>= _ = _
    rw [hrun]
    exact if_pos (show before.length < MAXSEGS by omega)
  · rw [hfill]
    -- The three parts of the array: in front of the new post, the post, and behind it.
    refine ⟨stored_append.mpr ⟨?_, ?_, ?_⟩, hapart, ?_, ?_, hroom, h.drawsegs_le⟩
    · refine hlow.congr fun k _ hk => ?_
      rw [Nat.zero_add] at hk
      show Function.update array before.length _ k = _
      rw [Function.update_of_ne (by omega)]
      exact hkept k (by omega)
    · rw [Nat.zero_add]
      exact Function.update_self ..
    · -- The posts behind the new one are the old ones from `start` on.
      rw [Nat.zero_add]
      refine hhigh.move fun k hk => ?_
      rw [List.length_cons] at hk
      show Function.update array before.length _ (before.length + 1 + k) = _
      rw [Function.update_of_ne (by omega), Nat.add_right_comm]
      exact hmoved (before.length + k) (by omega) (by omega)
    · rw [← hfill, mem_covered_fill hle]
      exact .inr h.right
    · show _ ≤ frame.newend + 1
      simp only [List.length_append, List.length_cons]
      omega

omit hvalid in
/-- A merge with the first post that the range touches keeps a clip list, with no more posts
than before. -/
theorem ClipList.merge {frame frame' : Frame} {before : List Span} {s : Span}
    {after : List Span} (h : ClipList view frame (before ++ s :: after)) {first last : Int}
    (hle : first ≤ last) (hmin : INT_MIN < first) (hbefore : ∀ b ∈ before, b.last < first - 1)
    (hfirst : first - 1 ≤ s.last) (hlast : s.first - 1 ≤ last)
    (hstored : Stored frame'.solidsegs 0 (fill first last (before ++ s :: after)))
    (hlength : (fill first last (before ++ s :: after)).length ≤ frame'.newend)
    (hnewend : frame'.newend ≤ frame.newend)
    (hdraw : frame'.drawsegs.length ≤ MAXDRAWSEGS) :
    ClipList view frame' (fill first last (before ++ s :: after)) := by
  refine ⟨hstored, apart_fill h.apart hle hmin, ?_, hlength, ?_, hdraw⟩
  · rw [mem_covered_fill hle]
    exact .inr h.right
  · obtain ⟨b, hapart⟩ := h.apart.of_append
    have hslack : slack (INT_MIN - 1) (before ++ fill first last (s :: after)) + 0 ≤
        slack (INT_MIN - 1) (before ++ s :: after) :=
      slack_append_le (fun bound => by
        rw [add_zero]
        exact slack_fill_of_touch hapart hfirst hlast bound) before
    have hroom := h.room
    rw [fill_append hbefore]
    omega

/-- The first post is extended to the left. The gap in front of it is hidden then. -/
theorem growPost_ok {frame : Frame} {before : List Span} {s : Span} {after : List Span}
    (h : ClipList view frame (before ++ s :: after)) {first : Int} (hmin : INT_MIN < first)
    (hbefore : ∀ b ∈ before, b.last < first - 1) (hfirst : first < s.first) :
    ∃ frame', frame.write before.length ⟨first, s.last⟩ = .ok frame' ∧
      ClipList view frame' (before ++ ⟨first, s.last⟩ :: after) ∧
      frame'.drawsegs = frame.drawsegs := by
  obtain ⟨b, -, hs, hafter⟩ := h.apart.of_append
  have hfill : fill first (s.first - 1) (before ++ s :: after) =
      before ++ ⟨first, s.last⟩ :: after := by
    rw [fill_append hbefore, fill_of_touch after (by omega) (by omega), min_eq_left (by omega),
      max_eq_right (by omega), fill_of_apart hafter (by omega)]
  have hle := h.newend_le hvalid
  have hlength := h.length_le
  rw [List.length_append, List.length_cons] at hlength
  obtain ⟨hlow, hhead, htail⟩ := stored_append.mp h.stored
  rw [Nat.zero_add] at htail
  refine ⟨_, if_pos (show before.length < MAXSEGS by omega), ?_, rfl⟩
  rw [← hfill]
  refine h.merge (by omega) hmin hbefore (by omega) (by omega) ?_ ?_ (Nat.le_refl _)
    h.drawsegs_le
  · rw [hfill]
    refine stored_append.mpr ⟨hlow.congr fun k _ hk => ?_, ?_, ?_⟩
    · exact Function.update_of_ne (by omega) ..
    · rw [Nat.zero_add]
      exact Function.update_self ..
    · rw [Nat.zero_add]
      exact htail.update (by omega) _
  · rw [hfill, List.length_append, List.length_cons]
    exact hlength

/-- The loop over the posts and the fragment after it draw all gaps behind the first post. The
last part says what the list becomes when the range is hidden, which `extendPost_eq` uses. -/
theorem storeBetween_draws (curline : Seg) {frame : Frame} {before : List Span} {s : Span}
    {after : List Span} (h : ClipList view frame (before ++ s :: after))
    (hbefore : ∀ b ∈ before, b.last < s.last) {last : Int}
    (hzero : 0 ≤ s.last + 1) (hs : s.last < last) (hwidth : last < view.mapping.viewwidth) :
    ∃ absorbed remaining drawn contained, after = absorbed ++ remaining ∧
      storeBetween view curline last MAXSEGS frame before.length =
        .ok (frame.draw curline drawn, before.length + absorbed.length, contained) ∧
      storeFragment view curline last contained
        (frame.solidsegs (before.length + absorbed.length)) (frame.draw curline drawn) =
          .ok (frame.draw curline (gaps (s.last + 1) last after)) ∧
      ∀ first ≤ s.last + 1, fill first last after =
        ⟨first, if contained then (frame.solidsegs (before.length + absorbed.length)).last
          else last⟩ :: remaining := by
  obtain ⟨b, -, hspan, hafter⟩ := h.apart.of_append
  have hscreen := hvalid.width_le
  unfold SCREENWIDTH at hscreen
  have hreach : ∃ t ∈ after, last ≤ t.last := by
    obtain ⟨t, ht, -, hright⟩ := h.right
    have hmax : last < INT_MAX := by
      show last < 2147483647
      omega
    rcases List.mem_append.mp ht with ht | ht
    · have := hbefore t ht
      omega
    · rcases List.mem_cons.mp ht with rfl | ht
      · omega
      · exact ⟨t, ht, by omega⟩
  have hle := h.newend_le hvalid
  have hlength := h.length_le
  rw [List.length_append, List.length_cons] at hlength
  obtain ⟨-, hhigh⟩ := stored_append.mp h.stored
  rw [Nat.zero_add] at hhigh
  obtain ⟨absorbed, remaining, pieces, contained, hafter', hrun, hbetween⟩ :=
    @storeBetween_ok view hvalid curline last hwidth MAXSEGS before.length frame s after hhigh
      hafter hzero hs hreach (by omega) (by omega) h.drawsegs_le
  refine ⟨absorbed, remaining, pieces, contained, hafter', hrun, ?_⟩
  -- With the end of the range in a post nothing is left to draw, else the fragment behind the
  -- last post.
  rcases hbetween with ⟨rfl, hgaps, hfill⟩ | ⟨rfl, h0, hb, hgaps, hfill⟩
  · refine ⟨?_, hfill⟩
    rw [hgaps]
    rfl
  · refine ⟨?_, hfill⟩
    refine (rStoreWallRange_eq hvalid curline ⟨h0, hb, hwidth⟩ (draw_drawsegs_le ..)).trans ?_
    rw [draw_append, hgaps]

/-- The first post is extended over the posts that the range reaches, which are then removed. -/
theorem extendPost_eq (curline : Seg) {frame : Frame} {before : List Span} {s : Span}
    {after : List Span} (h : ClipList view frame (before ++ s :: after))
    (hbefore : ∀ b ∈ before, b.last < s.last) {last : Int}
    (hzero : 0 ≤ s.last + 1) (hs : s.last < last) (hwidth : last < view.mapping.viewwidth) :
    ∃ absorbed remaining stop, after = absorbed ++ remaining ∧
      fill (s.last + 1) last (before ++ s :: after) = before ++ ⟨s.first, stop⟩ :: remaining ∧
      extendPost view curline last before.length frame =
        let extended : Frame := { frame.draw curline (gaps (s.last + 1) last after) with
          solidsegs := Function.update frame.solidsegs before.length ⟨s.first, stop⟩ }
        if before.length + absorbed.length = before.length then .ok extended
        else
          removePosts (MAXSEGS + 1) extended before.length (before.length + absorbed.length) := by
  obtain ⟨b, -, hspan, -⟩ := h.apart.of_append
  have hle := h.newend_le hvalid
  have hlength := h.length_le
  obtain ⟨-, hhigh⟩ := stored_append.mp h.stored
  rw [Nat.zero_add] at hhigh
  have hhead : frame.solidsegs before.length = s := hhigh.1
  obtain ⟨absorbed, remaining, pieces, contained, rfl, hrun, hdrawn, hfill⟩ :=
    storeBetween_draws hvalid curline h hbefore hzero hs hwidth
  rw [List.length_append, List.length_cons, List.length_append] at hlength
  let bottom := frame.solidsegs (before.length + absorbed.length)
  refine ⟨absorbed, remaining, if contained then bottom.last else last, rfl, ?_, ?_⟩
  · rw [fill_append (by simpa using hbefore), fill_of_touch _ (by omega) (by omega),
      min_eq_right (by omega), max_eq_left (by omega), hfill s.first (by omega)]
  · have hread : ∀ i < MAXSEGS,
        (frame.draw curline pieces).read i = .ok (frame.solidsegs i) := fun i hi => if_pos hi
    unfold extendPost
    rw [hrun]
    show ((frame.draw curline pieces).read (before.length + absorbed.length) >>= _) = _
    rw [hread _ (by omega)]
    show ((frame.draw curline pieces).read before.length >>= _) = _
    rw [hread _ (by omega), hhead]
    show (storeFragment view curline last contained bottom (frame.draw curline pieces) >>= _) = _
    rw [hdrawn]
    -- The write of the end of the first post is inside the array.
    show (Frame.write _ _ _ >>= _) = _
    unfold Frame.write
    rw [if_pos (by omega)]
    rfl

/-- The clip list after the first post is the one of `fill`, at most as long as before. Without
a merged post only the end of the first post changes; otherwise the merged posts are removed. -/
theorem extendPost_ok (curline : Seg) {frame : Frame} {before : List Span} {s : Span}
    {after : List Span} (h : ClipList view frame (before ++ s :: after))
    (hbefore : ∀ b ∈ before, b.last < s.last) {last : Int}
    (hzero : 0 ≤ s.last + 1) (hs : s.last < last) (hwidth : last < view.mapping.viewwidth) :
    ∃ frame', extendPost view curline last before.length frame = .ok frame' ∧
      ClipList view frame' (fill (s.last + 1) last (before ++ s :: after)) ∧
      frame'.drawsegs = (frame.draw curline (gaps (s.last + 1) last after)).drawsegs := by
  obtain ⟨b, -, hspan, -⟩ := h.apart.of_append
  have hle := h.newend_le hvalid
  have hlength := h.length_le
  have hmin : INT_MIN < s.last + 1 := by
    show -2147483648 < s.last + 1
    omega
  obtain ⟨hlow, hhigh⟩ := stored_append.mp h.stored
  obtain ⟨absorbed, remaining, stop, rfl, hfill, hrun⟩ :=
    extendPost_eq hvalid curline h hbefore hzero hs hwidth
  rw [List.length_append, List.length_cons, List.length_append] at hlength
  rw [Nat.zero_add] at hhigh
  obtain ⟨-, hremaining⟩ := stored_append.mp hhigh.2
  let start := before.length
  let extended : Frame :=
    { frame.draw curline (gaps (s.last + 1) last (absorbed ++ remaining)) with
      solidsegs := Function.update frame.solidsegs start ⟨s.first, stop⟩ }
  have hlow' : Stored extended.solidsegs 0 before := hlow.congr fun k _ hk => by
    rw [Nat.zero_add] at hk
    exact Function.update_of_ne (Nat.ne_of_lt hk) ..
  have hhead' : extended.solidsegs start = ⟨s.first, stop⟩ := Function.update_self ..
  have hremaining' : Stored extended.solidsegs (start + 1 + absorbed.length) remaining :=
    hremaining.update (by omega) _
  -- No post is merged, or `removePosts` closes the hole that the merged posts leave.
  by_cases hnone : start + absorbed.length = start
  · have hempty : absorbed.length = 0 := by omega
    refine ⟨extended, hrun.trans (if_pos hnone), h.merge (by omega) hmin (by simpa using hbefore)
      (by omega) (by omega) ?_ ?_ (Nat.le_refl _) (draw_drawsegs_le ..), rfl⟩
    · rw [hfill]
      rw [hempty] at hremaining'
      refine stored_append.mpr ⟨hlow', ?_, ?_⟩
      · rw [Nat.zero_add]
        exact hhead'
      · rw [Nat.zero_add]
        exact hremaining'
    · rw [hfill]
      show _ ≤ frame.newend
      simp only [List.length_append, List.length_cons]
      omega
  · obtain ⟨array, hremove, hkept, hmoved⟩ :=
      @removePosts_ok extended (MAXSEGS + 1) start (start + absorbed.length) (by omega)
        (show start + absorbed.length ≤ frame.newend by omega) hle
        (show frame.newend - (start + absorbed.length) < MAXSEGS + 1 by omega)
    refine ⟨_, (hrun.trans (if_neg hnone)).trans hremove, h.merge (by omega) hmin
      (by simpa using hbefore) (by omega) (by omega) ?_ ?_ ?_ (draw_drawsegs_le ..), rfl⟩
    · rw [hfill]
      refine stored_append.mpr ⟨hlow'.congr fun k _ hk => ?_, ?_, ?_⟩
      · exact hkept k (by omega)
      · rw [Nat.zero_add]
        exact (hkept start (Nat.le_refl _)).trans hhead'
      · rw [Nat.zero_add]
        refine hremaining'.move fun k hk => ?_
        have hcopy := hmoved k (show k < frame.newend - (start + absorbed.length) by omega)
        refine hcopy.trans (congrArg extended.solidsegs ?_)
        show start + absorbed.length + 1 + k = start + 1 + absorbed.length + k
        omega
    · rw [hfill]
      show _ ≤ start + (frame.newend - (start + absorbed.length)) + 1
      simp only [List.length_append, List.length_cons]
      omega
    · show start + (frame.newend - (start + absorbed.length)) + 1 ≤ frame.newend
      omega

/-- A window draws all gaps behind the first post. It leaves the posts as they are. -/
theorem storeBelow_eq (curline : Seg) {frame : Frame} {before : List Span} {s : Span}
    {after : List Span} (h : ClipList view frame (before ++ s :: after))
    (hbefore : ∀ b ∈ before, b.last < s.last) {last : Int}
    (hzero : 0 ≤ s.last + 1) (hs : s.last < last) (hwidth : last < view.mapping.viewwidth) :
    storeBelow view curline last before.length frame =
      .ok (frame.draw curline (gaps (s.last + 1) last after)) := by
  obtain ⟨absorbed, remaining, pieces, contained, rfl, hrun, hdrawn, -⟩ :=
    storeBetween_draws hvalid curline h hbefore hzero hs hwidth
  have hle := h.newend_le hvalid
  have hlength := h.length_le
  rw [List.length_append, List.length_cons, List.length_append] at hlength
  have hread : (frame.draw curline pieces).read (before.length + absorbed.length) =
      .ok (frame.solidsegs (before.length + absorbed.length)) :=
    Frame.read_eq (by omega)
  unfold storeBelow
  rw [hrun]
  show ((frame.draw curline pieces).read _ >>= _) = _
  rw [hread]
  exact hdrawn

/-- A range on the screen has a first post that it reaches or that is behind it. All functions
of the clipper start with this scan. -/
theorem ClipList.locate {frame : Frame} {spans : List Span} (h : ClipList view frame spans)
    {first last : Int} (hscreen : OnScreen view first last) :
    ∃ before s after, spans = before ++ s :: after ∧ (∀ b ∈ before, b.last < first - 1) ∧
      first - 1 ≤ s.last ∧ s.first ≤ s.last ∧ Apart (s.last + 1) after ∧
      skipRanges frame (first - 1) MAXSEGS 0 = .ok before.length ∧
      frame.read before.length = .ok s ∧
      gaps first last spans = gaps first last (s :: after) := by
  obtain ⟨h0, hle, hwidth⟩ := hscreen
  have hmax : first - 1 ≤ INT_MAX := by
    have := hvalid.width_le
    unfold SCREENWIDTH at this
    show first - 1 ≤ 2147483647
    omega
  obtain ⟨before, s, after, rfl, hbefore, hs⟩ := h.exists_split hmax
  obtain ⟨hskip, hread⟩ := h.skipRanges_eq hvalid hbefore hs
  obtain ⟨b, -, hspan, hafter⟩ := h.apart.of_append
  refine ⟨before, s, after, rfl, hbefore, hs, hspan, hafter, hskip, hread, ?_⟩
  refine gaps_append (fun t ht => ?_) _
  have := hbefore t ht
  omega

/-- Behind the first post the range is drawn and hidden, unless it ends in that post. The right
part of `fill` is then the same in both cases. -/
theorem extendUnlessContained_ok (curline : Seg) {frame : Frame} {before : List Span} {s : Span}
    {after : List Span} (h : ClipList view frame (before ++ s :: after))
    (hbefore : ∀ b ∈ before, b.last < s.last) (hzero : 0 ≤ s.last + 1) {last : Int}
    (hwidth : last < view.mapping.viewwidth) :
    ∃ frame', (if last ≤ s.last then .ok frame
        else extendPost view curline last before.length frame) = .ok frame' ∧
      ClipList view frame' (before ++ fill s.first (max last s.last) after) ∧
      frame'.drawsegs = (frame.draw curline
        (if last ≤ s.last then [] else gaps (s.last + 1) last after)).drawsegs := by
  obtain ⟨b, -, hspan, hafter⟩ := h.apart.of_append
  by_cases hcontained : last ≤ s.last
  · rw [if_pos hcontained, if_pos hcontained, max_eq_right hcontained,
      fill_of_apart hafter hspan, draw_nil curline h.drawsegs_le]
    exact ⟨frame, rfl, h, rfl⟩
  · rw [if_neg hcontained, if_neg hcontained]
    obtain ⟨frame', hrun, hclip, hdrawsegs⟩ :=
      extendPost_ok hvalid curline h hbefore hzero (by omega) hwidth
    rw [fill_append (by simpa using hbefore), fill_of_touch after (by omega) (by omega),
      min_eq_right (by omega)] at hclip
    exact ⟨frame', hrun, hclip, hdrawsegs⟩

/-- `R_ClipSolidWallSegment` draws what is not hidden of the range, and hides the range.

The cases are those of the function: a post of its own, a range that starts in front of the
first post, and one that starts in it. -/
theorem rClipSolidWallSegment_ok (curline : Seg) {frame : Frame} {spans : List Span}
    (h : ClipList view frame spans) {first last : Int} (hscreen : OnScreen view first last) :
    ∃ frame', rClipSolidWallSegment view curline first last frame = .ok frame' ∧
      ClipList view frame' (fill first last spans) ∧
      frame'.drawsegs = (frame.draw curline (gaps first last spans)).drawsegs := by
  obtain ⟨before, s, after, rfl, hbefore, hs, hspan, -, hskip, hread, hgaps⟩ :=
    h.locate hvalid hscreen
  obtain ⟨h0, hle, hwidth⟩ := hscreen
  have hmin : INT_MIN < first := lt_of_lt_of_le (by decide) h0
  have hbeforeLast : ∀ t ∈ before, t.last < s.last := fun t ht =>
    lt_of_lt_of_le (hbefore t ht) hs
  have hdraws := h.drawsegs_le
  rw [hgaps]
  unfold rClipSolidWallSegment
  rw [hskip]
  show ∃ frame', (frame.read before.length >>= _) = _ ∧ _
  rw [hread]
  show ∃ frame', (if first < s.first ∧ last < s.first - 1 then
      rStoreWallRange view curline first last frame >>= insertPost first last before.length
    else if first < s.first then
      rStoreWallRange view curline first (s.first - 1) frame >>= fun frame =>
        frame.write before.length ⟨first, s.last⟩ >>= fun frame =>
          if last ≤ s.last then .ok frame else extendPost view curline last before.length frame
    else if last ≤ s.last then .ok frame
    else extendPost view curline last before.length frame) = _ ∧ _
  by_cases hnew : first < s.first ∧ last < s.first - 1
  · rw [if_pos hnew, rStoreWallRange_eq hvalid curline ⟨h0, hle, hwidth⟩ hdraws,
      show gaps first last (s :: after) = [⟨first, last⟩] by
        rw [gaps, if_neg (by omega), if_pos (by omega)]]
    exact insertPost_ok hvalid (h.draw curline _) hle hmin hbefore hnew.2 hspan
  -- The range touches `s`, so what is left of it is in front of `s` and behind it.
  have htouch : s.first - 1 ≤ last := by omega
  rw [if_neg hnew, gaps_of_touch after hs htouch hspan hle, fill_append hbefore,
    fill_of_touch after hs htouch]
  -- The part in front of the first post is drawn, and the post grows to the left.
  by_cases hfront : first < s.first
  · rw [if_pos hfront, if_pos hfront,
      rStoreWallRange_eq hvalid curline ⟨h0, by omega, by omega⟩ hdraws, min_eq_left hfront.le]
    obtain ⟨grown, hwrite, hgrown, hdrawn⟩ :=
      growPost_ok hvalid (h.draw curline [⟨first, s.first - 1⟩]) hmin hbefore hfront
    show ∃ frame', (Frame.write _ before.length ⟨first, s.last⟩ >>= _) = _ ∧ _
    rw [hwrite]
    obtain ⟨frame', hrun, hclip, hdrawsegs⟩ :=
      extendUnlessContained_ok hvalid curline hgrown hbeforeLast (show 0 ≤ s.last + 1 by omega)
        hwidth
    refine ⟨frame', hrun, hclip, ?_⟩
    rw [hdrawsegs, ← draw_append]
    simp only [Frame.draw, hdrawn]
  · rw [if_neg hfront, if_neg hfront, List.nil_append, min_eq_right (by omega)]
    exact extendUnlessContained_ok hvalid curline h hbeforeLast (by omega) hwidth

/-- A window draws the range behind the first post, unless it ends in that post. -/
theorem storeUnlessContained_eq (curline : Seg) {frame : Frame} {before : List Span} {s : Span}
    {after : List Span} (h : ClipList view frame (before ++ s :: after))
    (hbefore : ∀ b ∈ before, b.last < s.last) (hzero : 0 ≤ s.last + 1) {last : Int}
    (hwidth : last < view.mapping.viewwidth) :
    (if last ≤ s.last then .ok frame else storeBelow view curline last before.length frame) =
      .ok (frame.draw curline (if last ≤ s.last then [] else gaps (s.last + 1) last after)) := by
  by_cases hcontained : last ≤ s.last
  · rw [if_pos hcontained, if_pos hcontained, draw_nil curline h.drawsegs_le]
  · rw [if_neg hcontained, if_neg hcontained,
      storeBelow_eq hvalid curline h hbefore hzero (by omega) hwidth]

/-- `R_ClipPassWallSegment` draws what is not hidden of the range. A window hides nothing, so
the list stays. -/
theorem rClipPassWallSegment_eq (curline : Seg) {frame : Frame} {spans : List Span}
    (h : ClipList view frame spans) {first last : Int} (hscreen : OnScreen view first last) :
    rClipPassWallSegment view curline first last frame =
      .ok (frame.draw curline (gaps first last spans)) := by
  obtain ⟨before, s, after, rfl, hbefore, hs, hspan, -, hskip, hread, hgaps⟩ :=
    h.locate hvalid hscreen
  obtain ⟨h0, hle, hwidth⟩ := hscreen
  have hbeforeLast : ∀ t ∈ before, t.last < s.last := fun t ht =>
    lt_of_lt_of_le (hbefore t ht) hs
  have hdraws := h.drawsegs_le
  rw [hgaps]
  unfold rClipPassWallSegment
  rw [hskip]
  show (frame.read before.length >>= _) = _
  rw [hread]
  show (if first < s.first ∧ last < s.first - 1 then
      rStoreWallRange view curline first last frame
    else if first < s.first then
      rStoreWallRange view curline first (s.first - 1) frame >>= fun frame =>
        if last ≤ s.last then .ok frame else storeBelow view curline last before.length frame
    else if last ≤ s.last then .ok frame
    else storeBelow view curline last before.length frame) = _
  by_cases hnew : first < s.first ∧ last < s.first - 1
  · rw [if_pos hnew, rStoreWallRange_eq hvalid curline ⟨h0, hle, hwidth⟩ hdraws, gaps,
      if_neg (by omega), if_pos (by omega)]
  rw [if_neg hnew, gaps_of_touch after hs (by omega) hspan hle]
  by_cases hfront : first < s.first
  · rw [if_pos hfront, if_pos hfront,
      rStoreWallRange_eq hvalid curline ⟨h0, by omega, by omega⟩ hdraws]
    exact (storeUnlessContained_eq hvalid curline (h.draw curline _) hbeforeLast (by omega)
      hwidth).trans (congrArg Except.ok (draw_append ..))
  · rw [if_neg hfront, if_neg hfront, List.nil_append]
    exact storeUnlessContained_eq hvalid curline h hbeforeLast (by omega) hwidth

/-- A range that one span hides changes nothing. -/
theorem rClipSolidWallSegment_of_hidden (curline : Seg) {frame : Frame} {spans : List Span}
    (h : ClipList view frame spans) {first last : Int} (hscreen : OnScreen view first last)
    {t : Span} (ht : t ∈ spans) (hfirst : t.first ≤ first) (hlast : last ≤ t.last) :
    rClipSolidWallSegment view curline first last frame = .ok frame := by
  obtain ⟨before, s, after, rfl, hbefore, hs, hspan, hafter, hskip, hread, -⟩ :=
    h.locate hvalid hscreen
  obtain ⟨h0, hle, hwidth⟩ := hscreen
  -- The span that hides the range is `s`, because the later ones are behind the range.
  have hcontains : s.first ≤ first ∧ last ≤ s.last := by
    rcases List.mem_append.mp ht with ht | ht
    · have := hbefore t ht
      omega
    rcases List.mem_cons.mp ht with rfl | ht
    · exact ⟨hfirst, hlast⟩
    · have : s.last + 1 < t.first := hafter.lt_of_mem ⟨t, ht, le_refl _, by omega⟩
      omega
  unfold rClipSolidWallSegment
  rw [hskip]
  show (frame.read before.length >>= _) = _
  rw [hread]
  show (if first < s.first ∧ last < s.first - 1 then _ else if first < s.first then _
    else if last ≤ s.last then Except.ok frame else _) = _
  rw [if_neg (by omega), if_neg (by omega), if_pos hcontains.2]

end Clip

end DoomSat.Renderer
