import DoomSat.Support.Block
import Mathlib.Data.List.Nodup
import Mathlib.Data.List.ProdSigma

/-!
# `DoomSat.Support.Raster`: nested loops over the cells of a plane

A plane is kept row by row, and the rows are `stride` cells apart. `collect` is a loop whose
rounds give outputs or a fault, and `raster` is a loop over the rows around a loop over the
cells of a row.

`raster_eq_ok` gives the outputs of a raster without faults. `filter_index_eq` says that it
meets each index once when the stride is no less than the width, and `index_lt` bounds the
indices.

Outputs and faults of arbitrary types are allowed. Nothing here depends on the program under
verification.
-/

set_option autoImplicit false

namespace DoomSat.Support

variable {ε α β : Type}

/-! ### Loops -/

/-- The outputs of the rounds of a loop, or the first fault. -/
def collect (body : α → Except ε (List β)) : List α → Except ε (List β)
  | [] => .ok []
  | a :: as => do
    let out ← body a
    let rest ← collect body as
    return out ++ rest

/-- A loop whose rounds all succeed has all their outputs. -/
theorem collect_eq_ok {body : α → Except ε (List β)} {out : α → List β} {as : List α}
    (h : ∀ a ∈ as, body a = .ok (out a)) : collect body as = .ok (as.flatMap out) := by
  induction as with
  | nil => rfl
  | cons a as ih =>
    have hrest := ih fun a' ha' => h a' (List.mem_cons_of_mem a ha')
    rw [collect, h a List.mem_cons_self, ok_bind, hrest]
    rfl

/-- The rounds of a loop that succeeds all succeed. -/
theorem body_of_collect {body : α → Except ε (List β)} {as : List α} {outs : List β}
    (h : collect body as = .ok outs) {a : α} (ha : a ∈ as) : ∃ out, body a = .ok out := by
  induction as generalizing outs with
  | nil => cases ha
  | cons a' as ih =>
    rw [collect] at h
    obtain ⟨out, hout, h⟩ := bind_eq_ok.mp h
    obtain ⟨rest, hrest, -⟩ := bind_eq_ok.mp h
    rcases List.mem_cons.mp ha with rfl | ha
    · exact ⟨out, hout⟩
    · exact ih hrest ha

/-- A loop over rows `y` around a loop over the cells `x` of a row. -/
def raster (width height : Nat) (body : Nat → Nat → Except ε (List β)) : Except ε (List β) :=
  collect (fun y => collect (body y) (List.range width)) (List.range height)

/-- The cells `(y, x)` of a plane in the order of the loops. -/
def cells (width height : Nat) : List (Nat × Nat) := List.range height ×ˢ List.range width

/-- The cells are the pairs within the bounds. -/
theorem mem_cells {width height y x : Nat} :
    (y, x) ∈ cells width height ↔ y < height ∧ x < width := by
  unfold cells
  rw [List.mem_product, List.mem_range, List.mem_range]

/-- No cell comes twice. -/
theorem nodup_cells (width height : Nat) : (cells width height).Nodup :=
  List.nodup_range.product List.nodup_range

/-- A raster whose rounds all succeed has all their outputs, row by row and in each row from the
left to the right. -/
theorem raster_eq_ok {width height : Nat} {body : Nat → Nat → Except ε (List β)}
    {out : Nat × Nat → List β}
    (h : ∀ y < height, ∀ x < width, body y x = .ok (out (y, x))) :
    raster width height body = .ok ((cells width height).flatMap out) := by
  have hrows : raster width height body = .ok ((List.range height).flatMap fun y =>
      (List.range width).flatMap fun x => out (y, x)) := by
    apply collect_eq_ok
    intro y hy
    apply collect_eq_ok
    intro x hx
    exact h y (List.mem_range.mp hy) x (List.mem_range.mp hx)
  rw [hrows]
  show _ = Except.ok (((List.range height).flatMap fun y =>
    (List.range width).map (Prod.mk y)).flatMap out)
  rw [List.flatMap_assoc]
  simp only [List.flatMap_map]

/-- The rounds of a raster that succeeds all succeed. -/
theorem body_of_raster {width height : Nat} {body : Nat → Nat → Except ε (List β)}
    {outs : List β} (h : raster width height body = .ok outs) {y x : Nat} (hy : y < height)
    (hx : x < width) : ∃ out, body y x = .ok out := by
  obtain ⟨row, hrow⟩ := body_of_collect h (List.mem_range.mpr hy)
  exact body_of_collect hrow (List.mem_range.mpr hx)

/-! ### Indices -/

/-- The index of a cell determines its row and its place in the row, as long as the places are
within the stride. -/
theorem index_inj {stride y x y' x' : Nat} (hx : x < stride) (hx' : x' < stride)
    (h : y * stride + x = y' * stride + x') : y = y' ∧ x = x' := by
  have hrow : y = y' := by
    have hdiv := congrArg (· / stride) h
    simp only [Nat.add_comm _ x, Nat.add_comm _ x'] at hdiv
    rwa [Nat.add_mul_div_right _ _ (Nat.zero_lt_of_lt hx), Nat.div_eq_of_lt hx,
      Nat.add_mul_div_right _ _ (Nat.zero_lt_of_lt hx), Nat.div_eq_of_lt hx', Nat.zero_add,
      Nat.zero_add] at hdiv
  refine ⟨hrow, ?_⟩
  rw [hrow] at h
  exact Nat.add_left_cancel h

/-- The indices of a plane end behind its last row. -/
theorem index_lt {width height stride y x : Nat} (hy : y < height) (hx : x < width) :
    y * stride + x < (height - 1) * stride + width := by
  have := Nat.mul_le_mul_right stride (Nat.le_sub_one_of_lt hy)
  omega

/-- Exactly one cell has the index of a cell. With a stride below the width, the end of a row
would meet the start of the next one. -/
theorem filter_index_eq {width height stride y x : Nat} (hstride : width ≤ stride)
    (hy : y < height) (hx : x < width) :
    (cells width height).filter (fun cell => cell.1 * stride + cell.2 = y * stride + x)
      = [(y, x)] := by
  have hsame : (cells width height).filter
      (fun cell => cell.1 * stride + cell.2 = y * stride + x)
        = (cells width height).filter (· = (y, x)) := by
    apply List.filter_congr
    rintro ⟨y', x'⟩ hmem
    obtain ⟨-, hx'⟩ := mem_cells.mp hmem
    rw [decide_eq_decide, Prod.mk.injEq]
    constructor
    · exact index_inj (Nat.lt_of_lt_of_le hx' hstride) (Nat.lt_of_lt_of_le hx hstride)
    · rintro ⟨rfl, rfl⟩
      rfl
  -- The cell is in the plane, and it is there once.
  rw [hsame, List.filter_eq, List.count_eq_one_of_mem (nodup_cells width height)
    (mem_cells.mpr ⟨hy, hx⟩)]
  rfl

end DoomSat.Support
