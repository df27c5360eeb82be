import DoomSat.Support.Spans
import DoomSat.Model.Controls

/-!
# `DoomSat.Model.Renderer`: the walls of a frame

The renderer of DOOM walks the BSP tree of the level from the front to the back
(`R_RenderBSPNode` of `r_bsp.c`). `R_AddLine` projects each wall to columns of the screen, and
the two clip functions keep the columns that walls in front already hide in `solidsegs`.
`R_StoreWallRange` gets the columns that are left. `R_CheckBBox` skips a subtree when its
bounding box is hidden.

`R_InitTextureMapping` of `r_main.c` makes the tables of the projection. The trigonometric
tables of `tables.c` are parameters.

An index outside its array is the error `outOfBounds`. `R_ClipSolidWallSegment` copies one
element more than the list has when it removes posts, so `readBehind` also reads the element
behind the array.

The planes and the sprites of a subsector are left out, and of `R_StoreWallRange` all but the
choice of the columns.
-/

set_option autoImplicit false

namespace DoomSat.Renderer

open Support
open Engine (FRACUNIT fixedMul)

def SCREENWIDTH : Nat := 320
def MAXSEGS : Nat := SCREENWIDTH / 2 + 1
def MAXDRAWSEGS : Nat := 256
def FINEANGLES : Nat := 8192
def FIELDOFVIEW : Nat := 2048
def ANGLETOFINESHIFT : UInt32 := 19
def SLOPERANGE : Nat := 2048
def ANG90 : UInt32 := 0x40000000
def ANG180 : UInt32 := 0x80000000
def ANG270 : UInt32 := 0xc0000000
def INT_MAX : Int := 0x7fffffff
def INT_MIN : Int := -0x80000000

/-- How a frame can fail: an index outside its array, and two calls of `I_Error`. -/
inductive RenderError where
  | outOfBounds (index : Int)
  /-- `Bad R_RenderWallRange: %i to %i`. -/
  | badWallRange (start stop : Int)
  /-- `R_Subsector: solidsegs overflow (vanilla may crash here)`. -/
  | solidsegsOverflow
  deriving DecidableEq, Repr

/-! ### The tables of the projection -/

/-- What `R_ExecuteSetViewSize` computes for the columns of the view. -/
structure Mapping where
  viewwidth : Nat
  viewangletox : Nat → Int
  xtoviewangle : List UInt32

/-- `FixedDiv`. -/
def fixedDiv (a b : Int) : Int :=
  if a.natAbs >>> 14 ≥ b.natAbs then if (a < 0) ≠ (b < 0) then INT_MIN else INT_MAX
  else (a <<< (16 : Nat)).tdiv b

/-- The first value of `viewangletox[i]`, with the fencepost cases. -/
def columnOfTangent (viewwidth : Nat) (focallength tangent : Int) : Int :=
  if tangent > FRACUNIT * 2 then -1
  else if tangent < -FRACUNIT * 2 then viewwidth + 1
  else
    let centerxfrac := ((viewwidth / 2 : Nat) : Int) <<< (16 : Nat)
    let t := (centerxfrac - fixedMul tangent focallength + FRACUNIT - 1) >>> (16 : Nat)
    if t < -1 then -1 else if t > viewwidth + 1 then viewwidth + 1 else t

/-- `while (viewangletox[i]>x) i++;` from index `i` on. -/
def scanColumn (viewangletox : Nat → Int) (x : Int) : Nat → Nat → Except RenderError Nat
  | 0, i => .error (.outOfBounds i)
  | fuel + 1, i => if viewangletox i > x then scanColumn viewangletox x fuel (i + 1) else .ok i

/-- The value of `viewangletox[i]` without the fencepost cases. -/
def withoutFencepost (viewwidth : Nat) (t : Int) : Int :=
  if t = -1 then 0 else if t = viewwidth + 1 then viewwidth else t

/-- `R_InitTextureMapping`. -/
def rInitTextureMapping (finetangent : Nat → Int) (viewwidth : Nat) :
    Except RenderError Mapping := do
  let centerxfrac := ((viewwidth / 2 : Nat) : Int) <<< (16 : Nat)
  let focallength := fixedDiv centerxfrac (finetangent (FINEANGLES / 4 + FIELDOFVIEW / 2))
  let viewangletox := fun i => columnOfTangent viewwidth focallength (finetangent i)
  let indices ← (List.range (viewwidth + 1)).mapM fun (x : Nat) =>
    scanColumn viewangletox x (FINEANGLES / 2) 0
  return {
    viewwidth
    viewangletox := fun i => withoutFencepost viewwidth (viewangletox i)
    xtoviewangle := indices.map fun i => (UInt32.ofNat i <<< ANGLETOFINESHIFT) - ANG90 }

/-- `clipangle = xtoviewangle[0];` -/
def Mapping.clipangle (mapping : Mapping) : UInt32 := mapping.xtoviewangle.headD 0

/-- `R_ExecuteSetViewSize`: the tables for a size and a detail of the view. -/
def rExecuteSetViewSize (finetangent : Nat → Int) (setblocks setdetail : Nat) :
    Except RenderError Mapping :=
  let scaledviewwidth := if setblocks = 11 then SCREENWIDTH else setblocks * 32
  rInitTextureMapping finetangent (scaledviewwidth >>> setdetail)

/-! ### The level -/

/-- `vertex_t`. -/
structure Vertex where
  x : Int32
  y : Int32
  deriving DecidableEq, Repr

/-- The fields of `sector_t` that decide how a wall clips. -/
structure Sector where
  floorheight : Int32
  ceilingheight : Int32
  floorpic : Int16
  ceilingpic : Int16
  lightlevel : Int16
  deriving DecidableEq, Repr

/-- The fields of `seg_t` that decide where and how a wall clips. -/
structure Seg where
  v1 : Vertex
  v2 : Vertex
  /-- `sidedef->midtexture`. -/
  midtexture : Int16
  backsector : Option Sector
  deriving DecidableEq, Repr

/-- `subsector_t`, with its sector and its lines. -/
structure Subsector where
  sector : Sector
  lines : List Seg

/-- A bounding box: `BOXTOP`, `BOXBOTTOM`, `BOXLEFT` and `BOXRIGHT`. -/
abbrev BBox := Fin 4 → Int32

def BOXTOP : Fin 4 := 0
def BOXBOTTOM : Fin 4 := 1
def BOXLEFT : Fin 4 := 2
def BOXRIGHT : Fin 4 := 3

/-- The partition line of `node_t`. -/
structure Partition where
  x : Int32
  y : Int32
  dx : Int32
  dy : Int32

/-- The BSP tree: a subsector, or a node with the bounding box of each child. -/
inductive BSP where
  | subsector (sub : Subsector)
  | node (line : Partition) (bbox₀ bbox₁ : BBox) (child₀ child₁ : BSP)

/-! ### The view -/

/-- Where the view of a frame is from. -/
structure ViewPoint where
  viewx : Int32
  viewy : Int32
  viewangle : UInt32
  tantoangle : Fin (SLOPERANGE + 1) → UInt32

/-- The view of a frame, with the tables of its size. -/
structure View extends ViewPoint where
  mapping : Mapping

/-- `SlopeDiv`. -/
def slopeDiv (num den : UInt32) : Fin (SLOPERANGE + 1) :=
  if den < 512 then Fin.last SLOPERANGE
  else
    let ans := ((num <<< 3) / (den >>> 8)).toNat
    if h : ans ≤ SLOPERANGE then ⟨ans, Nat.lt_succ_of_le h⟩ else Fin.last SLOPERANGE

/-- `R_PointToAngle`. -/
def rPointToAngle (view : ViewPoint) (point : Vertex) : UInt32 :=
  let x := point.x - view.viewx
  let y := point.y - view.viewy
  let tan (num den : Int32) := view.tantoangle (slopeDiv num.toUInt32 den.toUInt32)
  if x = 0 ∧ y = 0 then 0
  else if x ≥ 0 then
    if y ≥ 0 then
      if x > y then tan y x else ANG90 - 1 - tan x y
    else
      let y := -y
      if x > y then -tan y x else ANG270 + tan x y
  else
    let x := -x
    if y ≥ 0 then
      if x > y then ANG180 - 1 - tan y x else ANG90 + tan x y
    else
      let y := -y
      if x > y then ANG180 + tan y x else ANG270 - 1 - tan x y

/-- `R_PointOnSide` for the view point: whether it is on the back side. -/
def rPointOnSide (view : ViewPoint) (line : Partition) : Bool :=
  if line.dx = 0 then
    if view.viewx ≤ line.x then line.dy > 0 else line.dy < 0
  else if line.dy = 0 then
    if view.viewy ≤ line.y then line.dx < 0 else line.dx > 0
  else
    let dx := view.viewx - line.x
    let dy := view.viewy - line.y
    -- Try to quickly decide by looking at sign bits.
    if line.dy ^^^ line.dx ^^^ dx ^^^ dy < 0 then line.dy ^^^ dx < 0
    else
      let left := Int32.ofInt (fixedMul (line.dy >>> 16).toInt dx.toInt)
      let right := Int32.ofInt (fixedMul dy.toInt (line.dx >>> 16).toInt)
      ¬right < left

/-- Clips one end of a range of angles to the edge of the view. `none` when the range is
totally off the edge. -/
def clipToEdge (clipangle span tspan angle edge : UInt32) : Option UInt32 :=
  if tspan > 2 * clipangle then
    if tspan - 2 * clipangle ≥ span then none else some edge
  else some angle

/-- The part of `R_AddLine` and `R_CheckBBox` that clips to the view edges. -/
def clipToView (view : View) (angle1 angle2 : UInt32) : Option (UInt32 × UInt32) := do
  let span := angle1 - angle2
  let angle1 := angle1 - view.viewangle
  let angle2 := angle2 - view.viewangle
  let clipangle := view.mapping.clipangle
  let angle1 ← clipToEdge clipangle span (angle1 + clipangle) angle1 clipangle
  let angle2 ← clipToEdge clipangle span (clipangle - angle2) angle2 (-clipangle)
  return (angle1, angle2)

/-- `viewangletox[(angle+ANG90)>>ANGLETOFINESHIFT]`. -/
def columnOfAngle (view : View) (angle : UInt32) : Except RenderError Int :=
  let i := ((angle + ANG90) >>> ANGLETOFINESHIFT).toNat
  if i < FINEANGLES / 2 then .ok (view.mapping.viewangletox i) else .error (.outOfBounds i)

/-- The columns `x1` and `x2` between two angles in the view, unless they are the same. -/
def columnsOfAngles (view : View) (angle1 angle2 : UInt32) :
    Except RenderError (Option (Int × Int)) :=
  match clipToView view angle1 angle2 with
  | none => .ok none
  | some (angle1, angle2) => do
    let x1 ← columnOfAngle view angle1
    let x2 ← columnOfAngle view angle2
    return if x1 = x2 then none else some (x1, x2)

/-! ### The clip list -/

/-- `drawseg_t`, with the columns of the wall. -/
structure DrawSeg where
  curline : Seg
  x1 : Int
  x2 : Int
  deriving DecidableEq, Repr

/-- The clip list and the wall pieces of a frame. A `cliprange_t` is a `Span`. -/
structure Frame where
  solidsegs : Nat → Span
  newend : Nat
  drawsegs : List DrawSeg

/-- Reads an element of `solidsegs`. -/
def Frame.read (frame : Frame) (i : Nat) : Except RenderError Span :=
  if i < MAXSEGS then .ok (frame.solidsegs i) else .error (.outOfBounds i)

/-- Reads an element of `solidsegs` or the one behind it. -/
def Frame.readBehind (frame : Frame) (i : Nat) : Except RenderError Span :=
  if i ≤ MAXSEGS then .ok (frame.solidsegs i) else .error (.outOfBounds i)

/-- Writes an element of `solidsegs`. -/
def Frame.write (frame : Frame) (i : Nat) (range : Span) : Except RenderError Frame :=
  if i < MAXSEGS then .ok { frame with solidsegs := Function.update frame.solidsegs i range }
  else .error (.outOfBounds i)

/-- `R_ClearClipSegs` and `R_ClearDrawSegs`, from what the array held before. -/
def clearFrame (view : View) (solidsegs : Nat → Span) : Frame where
  solidsegs := Function.update
    (Function.update solidsegs 0 ⟨-0x7fffffff, -1⟩) 1 ⟨view.mapping.viewwidth, 0x7fffffff⟩
  newend := 2
  drawsegs := []

/-- `R_StoreWallRange`: the columns that it takes. It draws them into arrays of `SCREENWIDTH`
columns. The check of `R_CheckPlane` for more than `MAXVISPLANES` planes is left out. -/
def rStoreWallRange (view : View) (curline : Seg) (start stop : Int) (frame : Frame) :
    Except RenderError Frame :=
  -- don't overflow and crash
  if frame.drawsegs.length = MAXDRAWSEGS then .ok frame
  else if start ≥ view.mapping.viewwidth ∨ start > stop then .error (.badWallRange start stop)
  else if start < 0 then .error (.outOfBounds start)
  else if stop ≥ SCREENWIDTH then .error (.outOfBounds stop)
  else .ok { frame with drawsegs := frame.drawsegs ++ [⟨curline, start, stop⟩] }

/-- `while (start->last < bound) start++;` -/
def skipRanges (frame : Frame) (bound : Int) : Nat → Nat → Except RenderError Nat
  | 0, start => .error (.outOfBounds start)
  | fuel + 1, start => do
    let range ← frame.read start
    if range.last < bound then skipRanges frame bound fuel (start + 1) else return start

/-- The loop over the posts that the range reaches. It stores the fragments between them, and
its last result is whether the bottom is contained in the last post. -/
def storeBetween (view : View) (curline : Seg) (last : Int) :
    Nat → Frame → Nat → Except RenderError (Frame × Nat × Bool)
  | 0, _, next => .error (.outOfBounds next)
  | fuel + 1, frame, next => do
    let above ← frame.read (next + 1)
    if last ≥ above.first - 1 then
      let post ← frame.read next
      -- There is a fragment between two posts.
      let frame ← rStoreWallRange view curline (post.last + 1) (above.first - 1) frame
      if last ≤ above.last then return (frame, next + 1, true)
      else storeBetween view curline last fuel frame (next + 1)
    else return (frame, next, false)

/-- `while (next != start)`: moves the posts from `start` on up by one. -/
def movePostsUp (start : Nat) : Nat → Frame → Except RenderError Frame
  | 0, frame => if 0 = start then .ok frame else .error (.outOfBounds (-1))
  | next + 1, frame =>
    if next + 1 = start then .ok frame
    else do
      let range ← frame.read next
      let frame ← frame.write (next + 1) range
      movePostsUp start next frame

/-- `while (next++ != newend)`: removes the posts behind `start` up to `next`. -/
def removePosts : Nat → Frame → Nat → Nat → Except RenderError Frame
  | 0, _, _, next => .error (.outOfBounds next)
  | fuel + 1, frame, start, next =>
    if next = frame.newend then .ok { frame with newend := start + 1 }
    else do
      let range ← frame.readBehind (next + 1)
      let frame ← frame.write (start + 1) range
      removePosts fuel frame (start + 1) (next + 1)

/-- Inserts a new clippost in front of `start`. -/
def insertPost (first last : Int) (start : Nat) (frame : Frame) : Except RenderError Frame := do
  let next := frame.newend
  let frame ← movePostsUp start next { frame with newend := next + 1 }
  frame.write start ⟨first, last⟩

/-- Stores the fragment after the last post, unless the bottom is contained in it. -/
def storeFragment (view : View) (curline : Seg) (last : Int) (contained : Bool) (post : Span)
    (frame : Frame) : Except RenderError Frame :=
  if contained then .ok frame else rStoreWallRange view curline (post.last + 1) last frame

/-- The part of `R_ClipSolidWallSegment` from the loop over the posts on. -/
def extendPost (view : View) (curline : Seg) (last : Int) (start : Nat) (frame : Frame) :
    Except RenderError Frame := do
  let (frame, next, contained) ← storeBetween view curline last MAXSEGS frame start
  let post ← frame.read next
  let range ← frame.read start
  let frame ← storeFragment view curline last contained post frame
  -- Adjust the clip size.
  let frame ← frame.write start ⟨range.first, if contained then post.last else last⟩
  if next = start then return frame else removePosts (MAXSEGS + 1) frame start next

/-- `R_ClipSolidWallSegment`. -/
def rClipSolidWallSegment (view : View) (curline : Seg) (first last : Int) (frame : Frame) :
    Except RenderError Frame := do
  let start ← skipRanges frame (first - 1) MAXSEGS 0
  let range ← frame.read start
  if first < range.first ∧ last < range.first - 1 then
    -- Post is entirely visible (above start), so insert a new clippost.
    let frame ← rStoreWallRange view curline first last frame
    insertPost first last start frame
  else if first < range.first then
    -- There is a fragment above *start.
    let frame ← rStoreWallRange view curline first (range.first - 1) frame
    let frame ← frame.write start ⟨first, range.last⟩
    if last ≤ range.last then return frame else extendPost view curline last start frame
  -- Bottom contained in start?
  else if last ≤ range.last then return frame
  else extendPost view curline last start frame

/-- The part of `R_ClipPassWallSegment` from the loop over the posts on. -/
def storeBelow (view : View) (curline : Seg) (last : Int) (start : Nat) (frame : Frame) :
    Except RenderError Frame := do
  let (frame, start, contained) ← storeBetween view curline last MAXSEGS frame start
  let post ← frame.read start
  storeFragment view curline last contained post frame

/-- `R_ClipPassWallSegment`. -/
def rClipPassWallSegment (view : View) (curline : Seg) (first last : Int) (frame : Frame) :
    Except RenderError Frame := do
  let start ← skipRanges frame (first - 1) MAXSEGS 0
  let range ← frame.read start
  if first < range.first ∧ last < range.first - 1 then
    -- Post is entirely visible (above start).
    rStoreWallRange view curline first last frame
  else if first < range.first then
    -- There is a fragment above *start.
    let frame ← rStoreWallRange view curline first (range.first - 1) frame
    if last ≤ range.last then return frame else storeBelow view curline last start frame
  -- Bottom contained in start?
  else if last ≤ range.last then return frame
  else storeBelow view curline last start frame

/-! ### The walk over the tree -/

/-- How `R_AddLine` clips a line between two sectors: as a solid wall, as a window, or not at
all. -/
inductive LineKind where
  | solid
  | pass
  | empty
  deriving DecidableEq, Repr

/-- The part of `R_AddLine` that looks at the sectors. -/
def lineKind (frontsector : Sector) (line : Seg) : LineKind :=
  match line.backsector with
  -- Single sided line?
  | none => .solid
  | some backsector =>
    -- Closed door.
    if backsector.ceilingheight ≤ frontsector.floorheight ∨
        backsector.floorheight ≥ frontsector.ceilingheight then .solid
    -- Window.
    else if backsector.ceilingheight ≠ frontsector.ceilingheight ∨
        backsector.floorheight ≠ frontsector.floorheight then .pass
    -- Reject empty lines used for triggers and special events.
    else if backsector.ceilingpic = frontsector.ceilingpic ∧
        backsector.floorpic = frontsector.floorpic ∧
        backsector.lightlevel = frontsector.lightlevel ∧ line.midtexture = 0 then .empty
    else .pass

/-- `R_AddLine`. -/
def rAddLine (view : View) (frontsector : Sector) (line : Seg) (frame : Frame) :
    Except RenderError Frame := do
  let angle1 := rPointToAngle view.toViewPoint line.v1
  let angle2 := rPointToAngle view.toViewPoint line.v2
  -- Back side? I.e. backface culling?
  if angle1 - angle2 ≥ ANG180 then return frame
  else
    match ← columnsOfAngles view angle1 angle2 with
    | none => return frame
    | some (x1, x2) =>
      match lineKind frontsector line with
      | .empty => return frame
      | .pass => rClipPassWallSegment view line x1 (x2 - 1) frame
      | .solid => rClipSolidWallSegment view line x1 (x2 - 1) frame

/-- `checkcoord`. -/
def checkcoord : List (List (Fin 4)) :=
  [[3, 0, 2, 1], [3, 0, 2, 0], [3, 1, 2, 0], [0, 0, 0, 0], [2, 0, 2, 1], [0, 0, 0, 0],
    [3, 1, 3, 0], [0, 0, 0, 0], [2, 0, 3, 1], [2, 1, 3, 1], [2, 1, 3, 0], [0, 0, 0, 0]]

/-- `boxpos` of `R_CheckBBox`: where the view point is relative to the box. -/
def boxPos (view : ViewPoint) (bspcoord : BBox) : Nat :=
  let boxx :=
    if view.viewx ≤ bspcoord BOXLEFT then 0 else if view.viewx < bspcoord BOXRIGHT then 1 else 2
  let boxy :=
    if view.viewy ≥ bspcoord BOXTOP then 0 else if view.viewy > bspcoord BOXBOTTOM then 1 else 2
  (boxy <<< 2) + boxx

/-- The angles of the two corners of the box that define its edges from the view point. -/
def boxAngles (view : ViewPoint) (bspcoord : BBox) : UInt32 × UInt32 :=
  let coords := checkcoord.getD (boxPos view bspcoord) []
  let corner (i : Nat) : Vertex :=
    { x := bspcoord (coords.getD i 0), y := bspcoord (coords.getD (i + 1) 0) }
  (rPointToAngle view (corner 0), rPointToAngle view (corner 2))

/-- `R_CheckBBox`: whether some part of the box might be visible. -/
def rCheckBBox (view : View) (bspcoord : BBox) (frame : Frame) : Except RenderError Bool := do
  if boxPos view.toViewPoint bspcoord = 5 then return true
  else
    let (angle1, angle2) := boxAngles view.toViewPoint bspcoord
    -- Sitting on a line? The view angle, which both angles are relative to, cancels here.
    if angle1 - angle2 ≥ ANG180 then return true
    else
      match ← columnsOfAngles view angle1 angle2 with
      | none => return false
      | some (sx1, sx2) =>
        let sx2 := sx2 - 1
        let start ← skipRanges frame sx2 MAXSEGS 0
        let range ← frame.read start
        -- The clippost contains the new span.
        return ¬(sx1 ≥ range.first ∧ sx2 ≤ range.last)

/-- `R_Subsector` without its planes and sprites. So the check of `R_FindPlane` for more than
`MAXVISPLANES` planes, which ends a frame too, is left out. -/
def rSubsector (view : View) (sub : Subsector) (frame : Frame) : Except RenderError Frame := do
  let frame ← sub.lines.foldlM (fun frame line => rAddLine view sub.sector line frame) frame
  -- check for solidsegs overflow - extremely unsatisfactory!
  if frame.newend > 32 then .error .solidsegsOverflow else return frame

/-- `R_RenderBSPNode`. -/
def rRenderBSPNode (view : View) : BSP → Frame → Except RenderError Frame
  | .subsector sub, frame => rSubsector view sub frame
  | .node line bbox₀ bbox₁ child₀ child₁, frame => do
    -- Decide which side the view point is on.
    if rPointOnSide view.toViewPoint line then
      let frame ← rRenderBSPNode view child₁ frame
      if ← rCheckBBox view bbox₀ frame then rRenderBSPNode view child₀ frame else return frame
    else
      let frame ← rRenderBSPNode view child₀ frame
      if ← rCheckBBox view bbox₁ frame then rRenderBSPNode view child₁ frame else return frame

/-- `R_RenderPlayerView`: the walls of a frame, with the array of the last frame. -/
def rRenderPlayerView (view : View) (level : BSP) (solidsegs : Nat → Span) :
    Except RenderError Frame :=
  rRenderBSPNode view level (clearFrame view solidsegs)

end DoomSat.Renderer
