import DoomSat.Support.Outcome
import DoomSat.Proofs.Renderer.Angles
import DoomSat.Proofs.Renderer.ClipList

/-!
# `DoomSat.Proofs.Renderer.Frame`: a frame from the front to the back

`Paints` is the abstract renderer. It has a set of hidden columns. Each wall shows the columns
of its range that are not hidden, as few pieces as possible from the left to the right, and a
solid wall hides its range afterwards.

`Shows` connects a frame with this renderer, and `clipWall_shows` is the step: the clip
functions of the source do what `Paints` does. `renderAll_renders` is the run over a tree,
without the bounding boxes. `rRenderPlayerView_in_bounds` is the result for every tree and
every view: a frame stays inside all arrays.
-/

set_option autoImplicit false

namespace DoomSat.Renderer

open Support

/-! ### The abstract renderer -/

/-- A wall that faces the view point: its columns, and whether it hides what is behind it. -/
structure Wall where
  line : Seg
  first : Int
  last : Int
  solid : Bool

/-- The columns of a wall. -/
def Wall.range (wall : Wall) : Set Int := {x | wall.first ≤ x ∧ x ≤ wall.last}

/-- The hidden columns behind a wall. -/
def Wall.hide (wall : Wall) (hidden : Set Int) : Set Int :=
  if wall.solid then hidden ∪ wall.range else hidden

/-- The walls, from the front to the back, show these pieces and hide these columns. -/
inductive Paints : Set Int → List Wall → List DrawSeg → Set Int → Prop where
  | nil (hidden : Set Int) : Paints hidden [] [] hidden
  | cons {hidden hidden' : Set Int} {wall : Wall} {walls : List Wall} {spans : List Span}
      {pieces : List DrawSeg} (hapart : Apart (wall.first - 1) spans)
      (hcovered : covered spans = wall.range \ hidden)
      (hrest : Paints (wall.hide hidden) walls pieces hidden') :
      Paints hidden (wall :: walls) (spans.map (pieceOf wall.line) ++ pieces) hidden'

/-- More walls behind the first ones are painted where those leave columns free. -/
theorem Paints.append {hidden hidden' hidden'' : Set Int} {walls walls' : List Wall}
    {pieces pieces' : List DrawSeg} (h : Paints hidden walls pieces hidden')
    (h' : Paints hidden' walls' pieces' hidden'') :
    Paints hidden (walls ++ walls') (pieces ++ pieces') hidden'' := by
  induction h with
  | nil hidden => exact h'
  | cons hapart hcovered _ ih =>
    rw [List.append_assoc]
    exact .cons hapart hcovered (ih h')

/-! ### The walls of a level -/

/-- The wall of a line, unless it is not in the view or is empty. -/
def lineWall (view : View) (frontsector : Sector) (line : Seg) : Option Wall :=
  let angle1 := rPointToAngle view.toViewPoint line.v1
  let angle2 := rPointToAngle view.toViewPoint line.v2
  if angle1 - angle2 ≥ ANG180 then none
  else
    match columnsOfAngles view angle1 angle2 with
    | .ok (some (x1, x2)) =>
      match lineKind frontsector line with
      | .empty => none
      | .pass => some ⟨line, x1, x2 - 1, false⟩
      | .solid => some ⟨line, x1, x2 - 1, true⟩
    | _ => none

/-- The walls of a level in the order of the walk, with all subtrees. -/
def BSP.walls (view : View) : BSP → List Wall
  | .subsector sub => sub.lines.filterMap (lineWall view sub.sector)
  | .node line _ _ child₀ child₁ =>
    if rPointOnSide view.toViewPoint line then child₁.walls view ++ child₀.walls view
    else child₀.walls view ++ child₁.walls view

/-- `R_RenderBSPNode` without the bounding boxes. -/
def renderAll (view : View) : BSP → Frame → Except RenderError Frame
  | .subsector sub, frame => rSubsector view sub frame
  | .node line _ _ child₀ child₁, frame =>
    if rPointOnSide view.toViewPoint line then
      renderAll view child₁ frame >>= renderAll view child₀
    else renderAll view child₀ frame >>= renderAll view child₁

/-- The clip function of a wall. -/
def clipWall (view : View) (wall : Wall) (frame : Frame) : Except RenderError Frame :=
  if wall.solid then rClipSolidWallSegment view wall.line wall.first wall.last frame
  else rClipPassWallSegment view wall.line wall.first wall.last frame

/-- The frame has the first of these pieces, and its clip list hides these columns. -/
def Shows (view : View) (frame : Frame) (hidden : Set Int) (pieces : List DrawSeg) : Prop :=
  (∃ spans, ClipList view frame spans ∧
    ∀ x : Int, 0 ≤ x → x < view.mapping.viewwidth → (x ∈ covered spans ↔ x ∈ hidden)) ∧
  frame.drawsegs = pieces.take MAXDRAWSEGS

/-- A walk shows these walls on every frame, or the engine stops because of too many posts. -/
def Renders (view : View) (walls : List Wall) (walk : Frame → Except RenderError Frame) : Prop :=
  ∀ {frame : Frame} {hidden : Set Int} {pieces : List DrawSeg}, Shows view frame hidden pieces →
    Ensures (walk frame)
      (fun frame' => frame'.newend ≤ 32 ∧ ∃ hidden' drawn, Paints hidden walls drawn hidden' ∧
        Shows view frame' hidden' (pieces ++ drawn))
      (· = .solidsegsOverflow)

/-- A walk keeps the clip list, or the engine stops because of too many posts. -/
def Clips (view : View) (walk : Frame → Except RenderError Frame) : Prop :=
  ∀ {frame : Frame} {hidden : Set Int} {pieces : List DrawSeg}, Shows view frame hidden pieces →
    Ensures (walk frame)
      (fun frame' => frame'.newend ≤ 32 ∧ ∃ hidden' pieces', Shows view frame' hidden' pieces')
      (· = .solidsegsOverflow)

/-- A wall has the columns between the angles of its line, which faces the view point. A line
seen from behind has none, since its span is half a turn or more. -/
theorem columns_of_lineWall {view : View} {frontsector : Sector} {line : Seg} {wall : Wall}
    (h : lineWall view frontsector line = some wall) :
    rPointToAngle view.toViewPoint line.v1 - rPointToAngle view.toViewPoint line.v2 < ANG180 ∧
      columnsOfAngles view (rPointToAngle view.toViewPoint line.v1)
        (rPointToAngle view.toViewPoint line.v2) = .ok (some (wall.first, wall.last + 1)) := by
  unfold lineWall at h
  dsimp only at h
  split at h
  · cases h
  next hspan =>
    refine ⟨UInt32.not_le.mp hspan, ?_⟩
    split at h
    next x1 x2 hcolumns =>
      rw [hcolumns]
      cases hkind : lineKind frontsector line <;> rw [hkind] at h <;> cases h <;>
        simp only [Int.sub_add_cancel]
    · cases h

section Walls

variable {view : View} (hvalid : view.mapping.Valid)
include hvalid

/-- The columns of a wall are on the screen. -/
theorem onScreen_of_lineWall {frontsector : Sector} {line : Seg} {wall : Wall}
    (h : lineWall view frontsector line = some wall) : OnScreen view wall.first wall.last := by
  obtain ⟨hspan, hcolumns⟩ := columns_of_lineWall h
  obtain ⟨columns, hcolumns', hordered⟩ := columnsOfAngles_ordered hvalid hspan
  rw [hcolumns] at hcolumns'
  cases hcolumns'
  obtain ⟨h0, hlt, hwidth⟩ := hordered _ _ rfl
  exact ⟨h0, Int.lt_add_one_iff.mp hlt, hwidth⟩

/-- `R_AddLine` clips the wall of the line. A line without columns and a line without a texture
are both no wall. -/
theorem rAddLine_eq (frontsector : Sector) (line : Seg) (frame : Frame) :
    rAddLine view frontsector line frame =
      match lineWall view frontsector line with
      | none => .ok frame
      | some wall => clipWall view wall frame := by
  unfold rAddLine lineWall
  dsimp only
  split
  · rfl
  next hspan =>
    obtain ⟨columns, hcolumns, -⟩ := columnsOfAngles_ordered hvalid (UInt32.not_le.mp hspan)
    rw [hcolumns]
    cases columns with
    | none => rfl
    | some ends =>
      obtain ⟨x1, x2⟩ := ends
      show (match lineKind frontsector line with
        | .empty => Except.ok frame
        | .pass => rClipPassWallSegment view line x1 (x2 - 1) frame
        | .solid => rClipSolidWallSegment view line x1 (x2 - 1) frame) = _
      cases lineKind frontsector line <;> rfl

/-- One wall: the clip functions do what the abstract renderer does. They draw the columns that
the clip list leaves free, and these are the columns that are not hidden yet. -/
theorem clipWall_shows {frame : Frame} {hidden : Set Int} {pieces : List DrawSeg}
    (h : Shows view frame hidden pieces) {wall : Wall}
    (hscreen : OnScreen view wall.first wall.last) :
    ∃ frame' spans, clipWall view wall frame = .ok frame' ∧
      Apart (wall.first - 1) spans ∧ covered spans = wall.range \ hidden ∧
      Shows view frame' (wall.hide hidden) (pieces ++ spans.map (pieceOf wall.line)) := by
  obtain ⟨⟨spans, hclip, hhidden⟩, hdrawsegs⟩ := h
  have hle : wall.first ≤ wall.last := hscreen.2.1
  have hdrawn : (frame.draw wall.line (gaps wall.first wall.last spans)).drawsegs =
      (pieces ++ (gaps wall.first wall.last spans).map (pieceOf wall.line)).take
        MAXDRAWSEGS := by
    simp only [Frame.draw, hdrawsegs]
    exact take_take_append ..
  have hcovered : covered (gaps wall.first wall.last spans) = wall.range \ hidden := by
    ext x
    rw [mem_covered_gaps hclip.apart hle]
    constructor
    · rintro ⟨h1, h2, h3⟩
      exact ⟨⟨h1, h2⟩, fun hx => h3 ((hhidden x (by have := hscreen.1; omega)
        (by have := hscreen.2.2; omega)).mpr hx)⟩
    · rintro ⟨⟨h1, h2⟩, h3⟩
      exact ⟨h1, h2, fun hx => h3 ((hhidden x (by have := hscreen.1; omega)
        (by have := hscreen.2.2; omega)).mp hx)⟩
  have hapart : Apart (wall.first - 1) (gaps wall.first wall.last spans) :=
    apart_gaps hclip.apart hle (Int.sub_one_lt_of_le (le_refl _))
  unfold clipWall Wall.hide
  cases wall.solid with
  -- A solid wall joins the clip list, so its columns are hidden from then on.
  | true =>
    obtain ⟨frame', hrun, hclip', hdraws⟩ := rClipSolidWallSegment_ok hvalid wall.line hclip
      hscreen
    refine ⟨frame', _, hrun, hapart, hcovered, ⟨_, hclip', fun x h0 hx => ?_⟩,
      hdraws.trans hdrawn⟩
    rw [mem_covered_fill hle, hhidden x h0 hx]
    exact or_comm
  -- A window does not.
  | false =>
    exact ⟨_, _, rClipPassWallSegment_eq hvalid wall.line hclip hscreen, hapart, hcovered,
      ⟨spans, hclip.draw .., hhidden⟩, hdrawn⟩

/-- The lines of a subsector. The induction is over the lines, from any frame that shows what
was drawn before. -/
theorem addLines_shows (frontsector : Sector) (lines : List Seg) {frame : Frame}
    {hidden : Set Int} {pieces : List DrawSeg} (h : Shows view frame hidden pieces) :
    ∃ frame' hidden' drawn,
      lines.foldlM (fun frame line => rAddLine view frontsector line frame) frame = .ok frame' ∧
      Paints hidden (lines.filterMap (lineWall view frontsector)) drawn hidden' ∧
      Shows view frame' hidden' (pieces ++ drawn) := by
  induction lines generalizing frame hidden pieces with
  | nil =>
    refine ⟨frame, hidden, [], rfl, .nil hidden, ?_⟩
    rw [List.append_nil]
    exact h
  | cons line lines ih =>
    rw [List.foldlM_cons, rAddLine_eq hvalid]
    cases hwall : lineWall view frontsector line with
    | none =>
      rw [List.filterMap_cons_none hwall]
      exact ih h
    | some wall =>
      obtain ⟨frame₁, spans, hrun, hapart, hcovered, hshows⟩ :=
        clipWall_shows hvalid h (onScreen_of_lineWall hvalid hwall)
      obtain ⟨frame', hidden', drawn, hrest, hpaints, hshows'⟩ := ih hshows
      refine ⟨frame', hidden', spans.map (pieceOf wall.line) ++ drawn, ?_, ?_, ?_⟩
      · show clipWall view wall frame >>= _ = _
        rw [hrun]
        exact hrest
      · rw [List.filterMap_cons_some hwall]
        exact .cons hapart hcovered hpaints
      · rw [← List.append_assoc]
        exact hshows'

/-- A subsector shows its walls. Behind its lines the code checks the number of posts, and that
is the one way for the walk to stop. -/
theorem rSubsector_renders (sub : Subsector) :
    Renders view (sub.lines.filterMap (lineWall view sub.sector)) (rSubsector view sub) := by
  intro frame hidden pieces h
  obtain ⟨frame', hidden', drawn, hrun, hpaints, hshows⟩ :=
    addLines_shows hvalid sub.sector sub.lines h
  have hsub : rSubsector view sub frame =
      if frame'.newend > 32 then .error .solidsegsOverflow else .ok frame' := by
    unfold rSubsector
    rw [hrun]
    rfl
  rw [hsub]
  split
  · exact .error rfl
  next hroom => exact .ok ⟨Nat.le_of_not_lt hroom, hidden', drawn, hpaints, hshows⟩

omit hvalid in
/-- One part of a tree after the other. The second part starts from the frame of the first, with
the columns that it has hidden. -/
theorem Renders.andThen {walls walls' : List Wall} {walk walk' : Frame → Except RenderError Frame}
    (h : Renders view walls walk) (h' : Renders view walls' walk') :
    Renders view (walls ++ walls') fun frame => walk frame >>= walk' := by
  intro frame hidden pieces hshows
  refine (h hshows).bind fun frame₁ ⟨_, hidden₁, drawn₁, hpaints₁, hshows₁⟩ =>
    (h' hshows₁).mono (fun frame' hframe => ?_) fun _ => id
  obtain ⟨hroom, hidden', drawn, hpaints, hshows'⟩ := hframe
  rw [List.append_assoc] at hshows'
  exact ⟨hroom, hidden', _, hpaints₁.append hpaints, hshows'⟩

/-- The walk over the whole tree shows all walls of the level, in the order of the walk: the
nearer child of each node first. -/
theorem renderAll_renders (level : BSP) :
    Renders view (level.walls view) (renderAll view level) := by
  induction level with
  | subsector sub => exact rSubsector_renders hvalid sub
  | node line bbox₀ bbox₁ child₀ child₁ ih₀ ih₁ =>
    -- One child after the other, in the order of the side.
    intro frame hidden pieces h
    rw [renderAll, BSP.walls]
    split
    · exact ih₁.andThen ih₀ h
    · exact ih₀.andThen ih₁ h

/-- `R_CheckBBox` always answers. When it skips a box, no column of the box is on the screen, or
one span hides all of them. The loop over the clip list ends, since its last post covers every
column to the right of the screen. -/
theorem rCheckBBox_ok (bbox : BBox) {frame : Frame} {spans : List Span}
    (h : ClipList view frame spans) :
    ∃ visible, rCheckBBox view bbox frame = .ok visible ∧ (visible = false →
      boxPos view.toViewPoint bbox ≠ 5 ∧
      (boxAngles view.toViewPoint bbox).1 - (boxAngles view.toViewPoint bbox).2 < ANG180 ∧
      ∀ x1 x2, columnsOfAngles view (boxAngles view.toViewPoint bbox).1
          (boxAngles view.toViewPoint bbox).2 = .ok (some (x1, x2)) →
        ∃ s ∈ spans, s.first ≤ x1 ∧ x2 - 1 ≤ s.last) := by
  unfold rCheckBBox
  split
  · exact ⟨true, rfl, nofun⟩
  next hpos =>
  dsimp only
  split
  · exact ⟨true, rfl, nofun⟩
  next hspan =>
  have hfront := UInt32.not_le.mp hspan
  obtain ⟨columns, hcolumns, hordered⟩ := columnsOfAngles_ordered hvalid hfront
  rw [hcolumns]
  cases columns with
  | none => exact ⟨false, rfl, fun _ => ⟨hpos, hfront, nofun⟩⟩
  | some ends =>
    obtain ⟨x1, x2⟩ := ends
    obtain ⟨h0, hlt, hwidth⟩ := hordered x1 x2 rfl
    have hmax : x2 - 1 ≤ INT_MAX := by
      have := hvalid.width_le
      unfold SCREENWIDTH at this
      show x2 - 1 ≤ 2147483647
      omega
    obtain ⟨before, s, after, rfl, hbefore, hs⟩ := h.exists_split hmax
    obtain ⟨hskip, hread⟩ := h.skipRanges_eq hvalid hbefore hs
    refine ⟨decide ¬(x1 ≥ s.first ∧ x2 - 1 ≤ s.last), ?_, fun hhidden => ?_⟩
    · show skipRanges frame (x2 - 1) MAXSEGS 0 >>= _ = _
      rw [hskip]
      show frame.read before.length >>= _ = _
      rw [hread]
      rfl
    · refine ⟨hpos, hfront, fun y1 y2 hy => ?_⟩
      cases hy
      have hcontains := not_not.mp (of_decide_eq_false hhidden)
      exact ⟨s, List.mem_append_right _ List.mem_cons_self, hcontains⟩

/-- A child behind its box: the walk goes on, or the frame stays. -/
theorem checked_clips (bbox : BBox) {child : BSP} (hchild : Clips view (rRenderBSPNode view child))
    {frame : Frame} {hidden : Set Int} {pieces : List DrawSeg}
    (h : Shows view frame hidden pieces) (hroom : frame.newend ≤ 32) :
    Ensures (rCheckBBox view bbox frame >>= fun visible =>
        if visible then rRenderBSPNode view child frame else .ok frame)
      (fun frame' => frame'.newend ≤ 32 ∧ ∃ hidden' pieces', Shows view frame' hidden' pieces')
      (· = .solidsegsOverflow) := by
  obtain ⟨spans, hclip, -⟩ := h.1
  obtain ⟨visible, hcheck, -⟩ := rCheckBBox_ok hvalid bbox hclip
  rw [hcheck]
  cases visible with
  | true => exact hchild h
  | false => exact .ok ⟨hroom, hidden, pieces, h⟩

/-- The walk of the source from any frame: it stays inside the arrays. Whatever the boxes are, a
skipped child leaves the frame as it is. -/
theorem rRenderBSPNode_clips (level : BSP) : Clips view (rRenderBSPNode view level) := by
  induction level with
  | subsector sub =>
    intro frame hidden pieces h
    refine (rSubsector_renders hvalid sub h).mono (fun frame' hframe => ?_) fun _ => id
    obtain ⟨hroom, hidden', drawn, -, hshows⟩ := hframe
    exact ⟨hroom, hidden', _, hshows⟩
  | node line bbox₀ bbox₁ child₀ child₁ ih₀ ih₁ =>
    intro frame hidden pieces h
    rw [rRenderBSPNode]
    split
    · exact (ih₁ h).bind fun frame₁ ⟨hroom, _, _, hshows⟩ =>
        checked_clips hvalid bbox₀ ih₀ hshows hroom
    · exact (ih₀ h).bind fun frame₁ ⟨hroom, _, _, hshows⟩ =>
        checked_clips hvalid bbox₁ ih₁ hshows hroom

/-- The cleared lists show nothing and hide nothing of the screen. The two posts lie to the left
and to the right of it. -/
theorem clearFrame_shows (solidsegs : Nat → Span) :
    Shows view (clearFrame view solidsegs) ∅ [] := by
  have hpos := hvalid.width_pos
  have hwidth := hvalid.width_le
  unfold SCREENWIDTH at hwidth
  refine ⟨⟨[⟨-0x7fffffff, -1⟩, ⟨view.mapping.viewwidth, 0x7fffffff⟩], ?_, fun x h0 hx => ?_⟩,
    rfl⟩
  · exact {
      stored := by
        refine ⟨?_, ?_, trivial⟩
        · simp [clearFrame, Function.update]
        · simp [clearFrame, Function.update]
      apart := by
        refine ⟨by decide, by decide, ?_, ?_, trivial⟩
        · show (-1 : Int) + 1 < view.mapping.viewwidth
          omega
        · show (view.mapping.viewwidth : Int) ≤ 2147483647
          omega
      right := by
        refine (mem_covered_cons ..).mpr (.inr ((mem_covered_cons ..).mpr (.inl ⟨?_, ?_⟩)))
        · show (view.mapping.viewwidth : Int) ≤ 2147483647
          omega
        · exact le_refl INT_MAX
      length_le := Nat.le_refl 2
      room := by
        show 2 * ((2 : Nat) : Int) + ((-2147483647 - (-2147483648 - 1) - 2) +
          ((view.mapping.viewwidth - -1 - 2) + 0)) ≤ view.mapping.viewwidth + 3
        omega
      drawsegs_le := Nat.zero_le _ }
  · simp only [mem_covered_cons, mem_covered_nil, Set.mem_empty_iff_false, iff_false, or_false]
    rintro (⟨-, hlast⟩ | ⟨hfirst, -⟩)
    · exact absurd (h0.trans hlast) (by decide)
    · exact absurd (hfirst.trans_lt hx) (lt_irrefl _)

end Walls

section View

variable {finetangent : Nat → Int} (htangents : Tangents finetangent)
  {setblocks setdetail : Nat} (hpos : 0 < setblocks) (hle : setblocks ≤ 11)
  (hdetail : setdetail ≤ 1) {view : View}
  (hmapping : rExecuteSetViewSize finetangent setblocks setdetail = .ok view.mapping)
include htangents hpos hle hdetail hmapping

/-- The view has the tables that `R_ExecuteSetViewSize` makes. -/
theorem valid_of_rExecuteSetViewSize : view.mapping.Valid := by
  obtain ⟨mapping, hrun, hvalid⟩ := rExecuteSetViewSize_valid htangents hpos hle hdetail
  rw [hmapping] at hrun
  cases hrun
  exact hvalid

/-- Whatever the level is and wherever the view is from, the clipping of the walls of a frame
reads and writes inside its arrays and draws on the screen only. It can only end in the engine's
own check for too many posts. -/
theorem rRenderPlayerView_in_bounds (level : BSP) (solidsegs : Nat → Span) :
    Ensures (rRenderPlayerView view level solidsegs) (fun frame => frame.newend ≤ 32)
      (· = .solidsegsOverflow) := by
  have hvalid := valid_of_rExecuteSetViewSize htangents hpos hle hdetail hmapping
  exact (rRenderBSPNode_clips hvalid level (clearFrame_shows hvalid solidsegs)).mono
    (fun _ h => h.1) fun _ => id

end View

/-! ### Two walls, one behind the other -/

/-- A view point at the origin that looks to the east. -/
def originPoint : ViewPoint where
  viewx := 0
  viewy := 0
  viewangle := 0
  tantoangle := tantoangle

/-- A solid wall across the view at a distance in map units. -/
def wallAt (x y : Int32) : BSP :=
  .subsector {
    sector := {
      floorheight := 0, ceilingheight := 128 * 65536, floorpic := 0, ceilingpic := 0,
      lightlevel := 160 }
    lines := [{
      v1 := { x := x * 65536, y := y * 65536 }
      v2 := { x := x * 65536, y := -y * 65536 }
      midtexture := 1
      backsector := none }] }

/-- A box that reaches from `-y` to `y`. -/
def boxAround (y left right : Int32) : BBox
  | 0 => y * 65536
  | 1 => -y * 65536
  | 2 => left * 65536
  | 3 => right * 65536

/-- A wall in front of another one, with the boxes of both. -/
def twoWalls : BSP :=
  .node { x := 192 * 65536, y := 0, dx := 0, dy := -64 * 65536 }
    (boxAround 64 128 160) (boxAround 32 256 288)
    (wallAt 128 64) (wallAt 256 32)

/-- The bounds for a level with a node, two sectors and a wall behind another one. -/
theorem rRenderPlayerView_in_bounds_twoWalls :
    ∃ mapping, rExecuteSetViewSize finetangent 10 0 = .ok mapping ∧
      Ensures (rRenderPlayerView { originPoint with mapping } twoWalls fun _ => ⟨0, 0⟩)
        (fun frame => frame.newend ≤ 32) (· = .solidsegsOverflow) := by
  obtain ⟨mapping, hmapping, -⟩ := @rExecuteSetViewSize_valid finetangent
    tangents_finetangent 10 0 (by decide) (by decide) (by decide)
  refine ⟨mapping, hmapping, ?_⟩
  exact rRenderPlayerView_in_bounds tangents_finetangent (by decide) (by decide) (by decide)
    hmapping twoWalls _

end DoomSat.Renderer
