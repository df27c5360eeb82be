import DoomSat.Proofs.Renderer.Frame

/-!
# `DoomSat.Proofs.Renderer.Culling`: the bounding boxes only skip what is hidden

`R_RenderBSPNode` does not enter a subtree when `R_CheckBBox` finds its bounding box hidden.
`BSP.Bounded` says that a box does its work: seen from the view point, the lines of the
subtree are between the two edges of the box. Then a skipped subtree has no column that is not
hidden (`rAddLine_of_culled`), and `rRenderPlayerView_eq_renderAll` shows that the frame is
the one that a walk over the whole tree makes. `rRenderPlayerView_paints` says what is on it.
-/

set_option autoImplicit false

namespace DoomSat.Renderer

open Support

/-- The line is between the edges of the box, unless the view point is at the box or the line
faces away. -/
def LineWithin (view : ViewPoint) (bbox : BBox) (line : Seg) : Prop :=
  boxPos view bbox ≠ 5 → (boxAngles view bbox).1 - (boxAngles view bbox).2 < ANG180 →
    rPointToAngle view line.v1 - rPointToAngle view line.v2 < ANG180 →
      Within (boxAngles view bbox).1 (boxAngles view bbox).2 (rPointToAngle view line.v1)
        (rPointToAngle view line.v2)

instance decidableLineWithin (view : ViewPoint) (bbox : BBox) (line : Seg) :
    Decidable (LineWithin view bbox line) :=
  inferInstanceAs (Decidable (_ → _ → _ → (_ : Nat) ≤ _))

/-- The lines of a tree. -/
def BSP.lines : BSP → List Seg
  | .subsector sub => sub.lines
  | .node _ _ _ child₀ child₁ => child₀.lines ++ child₁.lines

/-- Each box of the tree bounds the lines of its child. -/
def BSP.Bounded (view : ViewPoint) : BSP → Prop
  | .subsector _ => True
  | .node _ bbox₀ bbox₁ child₀ child₁ =>
    (∀ line ∈ child₀.lines, LineWithin view bbox₀ line) ∧
      (∀ line ∈ child₁.lines, LineWithin view bbox₁ line) ∧
      child₀.Bounded view ∧ child₁.Bounded view

instance decidableBounded (view : ViewPoint) : (level : BSP) → Decidable (level.Bounded view)
  | .subsector _ => .isTrue trivial
  | .node _ bbox₀ bbox₁ child₀ child₁ =>
    have := decidableBounded view child₀
    have := decidableBounded view child₁
    inferInstanceAs (Decidable ((∀ line ∈ child₀.lines, LineWithin view bbox₀ line) ∧
      (∀ line ∈ child₁.lines, LineWithin view bbox₁ line) ∧
      child₀.Bounded view ∧ child₁.Bounded view))

section Culled

variable {view : View} (hvalid : view.mapping.Valid) {bbox : BBox} {frame : Frame}
  {spans : List Span} (h : ClipList view frame spans) (hpos : boxPos view.toViewPoint bbox ≠ 5)
  (hfront : (boxAngles view.toViewPoint bbox).1 - (boxAngles view.toViewPoint bbox).2 < ANG180)
  (hhidden : ∀ x1 x2, columnsOfAngles view (boxAngles view.toViewPoint bbox).1
      (boxAngles view.toViewPoint bbox).2 = .ok (some (x1, x2)) →
    ∃ s ∈ spans, s.first ≤ x1 ∧ x2 - 1 ≤ s.last)
include hvalid h hpos hfront hhidden

/-- A line in a skipped box changes nothing. Its columns are hidden by one span, so neither clip
function finds a gap. -/
theorem rAddLine_of_culled (frontsector : Sector) {line : Seg}
    (hline : LineWithin view.toViewPoint bbox line) :
    rAddLine view frontsector line frame = .ok frame := by
  rw [rAddLine_eq hvalid]
  cases hwall : lineWall view frontsector line with
  | none => rfl
  | some wall =>
    obtain ⟨hspan, hcolumns⟩ := columns_of_lineWall hwall
    have hscreen := onScreen_of_lineWall hvalid hwall
    -- The columns of the line are in those of the box, which one span hides.
    obtain ⟨x1, x2, hbox, hx1, hx2⟩ :=
      columnsOfAngles_within hvalid hfront (hline hpos hfront hspan) hcolumns
    obtain ⟨s, hs, hfirst, hlast⟩ := hhidden x1 x2 hbox
    have hfirst' : s.first ≤ wall.first := hfirst.trans hx1
    have hlast' : wall.last ≤ s.last := by omega
    show clipWall view wall frame = .ok frame
    unfold clipWall
    split
    · exact rClipSolidWallSegment_of_hidden hvalid wall.line h hscreen hs hfirst' hlast'
    · rw [rClipPassWallSegment_eq hvalid wall.line h hscreen,
        gaps_eq_nil h.apart hs hfirst' hlast' hscreen.2.1, draw_nil wall.line h.drawsegs_le]

/-- A skipped subtree changes nothing. The induction is over the tree, and over the lines of
each subsector. -/
theorem renderAll_of_culled (hroom : frame.newend ≤ 32) (level : BSP)
    (hlines : ∀ line ∈ level.lines, LineWithin view.toViewPoint bbox line) :
    renderAll view level frame = .ok frame := by
  induction level with
  | subsector sub =>
    have hadd : ∀ lines : List Seg,
        (∀ line ∈ lines, LineWithin view.toViewPoint bbox line) →
        lines.foldlM (fun frame line => rAddLine view sub.sector line frame) frame =
          .ok frame := by
      intro lines
      induction lines with
      | nil =>
        intro _
        rfl
      | cons line lines ih =>
        intro hall
        rw [List.foldlM_cons, rAddLine_of_culled hvalid h hpos hfront hhidden sub.sector
          (hall line List.mem_cons_self)]
        exact ih fun l hl => hall l (List.mem_cons_of_mem _ hl)
    show rSubsector view sub frame = .ok frame
    unfold rSubsector
    rw [hadd sub.lines hlines]
    exact if_neg (Nat.not_lt.mpr hroom)
  -- The lines of each child are lines of the tree.
  | node line bbox₀ bbox₁ child₀ child₁ ih₀ ih₁ =>
    have h₀ := ih₀ fun l hl => hlines l (List.mem_append_left _ hl)
    have h₁ := ih₁ fun l hl => hlines l (List.mem_append_right _ hl)
    rw [renderAll, h₀, h₁]
    split
    · exact h₀
    · exact h₁

end Culled

section Walk

variable {view : View} (hvalid : view.mapping.Valid)
include hvalid

/-- With the box of a child or without it, the rest of the walk is the same. A skipped child is
one that would have drawn nothing. -/
theorem checked_eq_renderAll {bbox : BBox} {child : BSP}
    (hlines : ∀ line ∈ child.lines, LineWithin view.toViewPoint bbox line)
    (hchild : ∀ {frame hidden pieces}, Shows view frame hidden pieces →
      rRenderBSPNode view child frame = renderAll view child frame)
    {frame : Frame} {hidden : Set Int} {pieces : List DrawSeg}
    (h : Shows view frame hidden pieces) (hroom : frame.newend ≤ 32) :
    (rCheckBBox view bbox frame >>= fun visible =>
      if visible then rRenderBSPNode view child frame else .ok frame) =
        renderAll view child frame := by
  obtain ⟨spans, hclip, -⟩ := h.1
  obtain ⟨visible, hcheck, hskipped⟩ := rCheckBBox_ok hvalid bbox hclip
  rw [hcheck]
  cases visible with
  | true => exact hchild h
  | false =>
    obtain ⟨hpos, hfront, hhidden⟩ := hskipped rfl
    exact (renderAll_of_culled hvalid hclip hpos hfront hhidden hroom child hlines).symm

/-- The walk of the source is the walk over the whole tree. The order of the children is the
same, and only the further one is behind a box. -/
theorem rRenderBSPNode_eq_renderAll {level : BSP} (hbounded : level.Bounded view.toViewPoint)
    {frame : Frame} {hidden : Set Int} {pieces : List DrawSeg}
    (h : Shows view frame hidden pieces) :
    rRenderBSPNode view level frame = renderAll view level frame := by
  induction level generalizing frame hidden pieces with
  | subsector sub => rfl
  | node line bbox₀ bbox₁ child₀ child₁ ih₀ ih₁ =>
    obtain ⟨hlines₀, hlines₁, hbounded₀, hbounded₁⟩ := hbounded
    rw [rRenderBSPNode, renderAll]
    split
    -- A frame that the first child leaves is one that the check is right about.
    · rw [ih₁ hbounded₁ h]
      refine (renderAll_renders hvalid child₁ h).bind_congr fun frame₁ hframe => ?_
      obtain ⟨hroom, _, _, -, hshows⟩ := hframe
      exact checked_eq_renderAll hvalid hlines₀ (fun h => ih₀ hbounded₀ h) hshows hroom
    · rw [ih₀ hbounded₀ h]
      refine (renderAll_renders hvalid child₀ h).bind_congr fun frame₁ hframe => ?_
      obtain ⟨hroom, _, _, -, hshows⟩ := hframe
      exact checked_eq_renderAll hvalid hlines₁ (fun h => ih₁ hbounded₁ h) hshows hroom

end Walk

section View

variable {finetangent : Nat → Int} (htangents : Tangents finetangent)
  {setblocks setdetail : Nat} (hpos : 0 < setblocks) (hle : setblocks ≤ 11)
  (hdetail : setdetail ≤ 1) {view : View}
  (hmapping : rExecuteSetViewSize finetangent setblocks setdetail = .ok view.mapping)
include htangents hpos hle hdetail hmapping

/-- Skipping hidden boxes changes nothing of the walls: the clip list, the wall pieces and the
check for more than 32 posts are those of the walk over the whole tree. -/
theorem rRenderPlayerView_eq_renderAll {level : BSP}
    (hbounded : level.Bounded view.toViewPoint) (solidsegs : Nat → Span) :
    rRenderPlayerView view level solidsegs = renderAll view level (clearFrame view solidsegs) := by
  have hvalid := valid_of_rExecuteSetViewSize htangents hpos hle hdetail hmapping
  exact rRenderBSPNode_eq_renderAll hvalid hbounded (clearFrame_shows hvalid solidsegs)

/-- A frame has the pieces that the abstract renderer shows of all walls of the level, from
the front to the back, up to the size of `drawsegs`. -/
theorem rRenderPlayerView_paints {level : BSP} (hbounded : level.Bounded view.toViewPoint)
    (solidsegs : Nat → Span) :
    Ensures (rRenderPlayerView view level solidsegs)
      (fun frame => ∃ hidden pieces, Paints ∅ (level.walls view) pieces hidden ∧
        frame.drawsegs = pieces.take MAXDRAWSEGS)
      (· = .solidsegsOverflow) := by
  have hvalid := valid_of_rExecuteSetViewSize htangents hpos hle hdetail hmapping
  have hstart := clearFrame_shows hvalid solidsegs
  have hrun : rRenderPlayerView view level solidsegs =
      renderAll view level (clearFrame view solidsegs) :=
    rRenderBSPNode_eq_renderAll hvalid hbounded hstart
  rw [hrun]
  refine (renderAll_renders hvalid level hstart).mono (fun frame hframe => ?_) fun _ => id
  obtain ⟨-, hidden, pieces, hpaints, hshows⟩ := hframe
  exact ⟨hidden, pieces, hpaints, hshows.2⟩

end View

/-- For the two walls the skipping is real: the box of the far wall is hidden when its turn
comes. -/
theorem rRenderPlayerView_eq_renderAll_twoWalls :
    ∃ mapping, rExecuteSetViewSize finetangent 10 0 = .ok mapping ∧
      twoWalls.Bounded originPoint ∧
      rRenderPlayerView { originPoint with mapping } twoWalls (fun _ => ⟨0, 0⟩) =
        renderAll { originPoint with mapping } twoWalls
          (clearFrame { originPoint with mapping } fun _ => ⟨0, 0⟩) := by
  obtain ⟨mapping, hmapping, -⟩ := @rExecuteSetViewSize_valid finetangent
    tangents_finetangent 10 0 (by decide) (by decide) (by decide)
  have hbounded : twoWalls.Bounded originPoint := by decide +kernel
  refine ⟨mapping, hmapping, hbounded, ?_⟩
  exact rRenderPlayerView_eq_renderAll tangents_finetangent (by decide) (by decide)
    (by decide) hmapping hbounded _

/-- The same level for the pieces of a frame. -/
theorem rRenderPlayerView_paints_twoWalls :
    ∃ mapping, rExecuteSetViewSize finetangent 10 0 = .ok mapping ∧
      Ensures (rRenderPlayerView { originPoint with mapping } twoWalls fun _ => ⟨0, 0⟩)
        (fun frame => ∃ hidden pieces,
          Paints ∅ (twoWalls.walls { originPoint with mapping }) pieces hidden ∧
          frame.drawsegs = pieces.take MAXDRAWSEGS)
        (· = .solidsegsOverflow) := by
  obtain ⟨mapping, hmapping, -⟩ := @rExecuteSetViewSize_valid finetangent
    tangents_finetangent 10 0 (by decide) (by decide) (by decide)
  have hbounded : twoWalls.Bounded originPoint := by decide +kernel
  refine ⟨mapping, hmapping, ?_⟩
  exact rRenderPlayerView_paints tangents_finetangent (by decide) (by decide) (by decide)
    hmapping hbounded _

end DoomSat.Renderer
