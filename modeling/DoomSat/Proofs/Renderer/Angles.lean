import DoomSat.Proofs.Renderer.Projection

/-!
# `DoomSat.Proofs.Renderer.Angles`: what is in the view

`clipToView` clips a range of angles to the view. The angles wrap around, so the proofs
measure each one from the right end of the half plane in front of the view point
(`fromRight`). In this measure a clipped range is in order and does not wrap
(`clipToView_ordered`), and a range inside another one stays inside it (`clipToView_within`).

For the columns this means that a line in front of the view point has no columns or some
columns of the screen from the left to the right (`columnsOfAngles_ordered`), and that they
are among the columns of every range of angles around the line (`columnsOfAngles_within`).
-/

set_option autoImplicit false

namespace DoomSat.Renderer

/-- The angle from the right end of the half plane in front. -/
def fromRight (angle : UInt32) : Nat := (angle + ANG90).toNat

/-- The left edge of the view, measured in the same way. -/
def leftEdge (view : View) : Nat := 1073741824 + view.mapping.clipangle.toNat

/-- The right edge of the view. -/
def rightEdge (view : View) : Nat := 1073741824 - view.mapping.clipangle.toNat

/-- The left end of a range stays in the view, moves to the left edge, or the range is off the
view. -/
def clipLeft (view : View) (span left : Nat) : Option Nat :=
  if leftEdge view < left then
    if left < leftEdge view + span then some (leftEdge view) else none
  else if left < rightEdge view then none
  else some left

/-- The same for the right end, which can be on the other side of the wrap. -/
def clipRight (view : View) (span right : Nat) : Option Nat :=
  if leftEdge view < right then
    if rightEdge view + 4294967296 < right + span then some (rightEdge view) else none
  else if right < rightEdge view then
    if rightEdge view < right + span then some (rightEdge view) else none
  else some right

/-- The range from `s1` to `s2` is in the range from `b1` to `b2`, both clockwise. -/
def Within (b1 b2 s1 s2 : UInt32) : Prop := (b1 - s1).toNat + (s1 - s2).toNat ≤ (b1 - b2).toNat

/-! ### Angles as numbers -/

/-- The difference of two angles as a number, with and without a wrap. All lemmas here reduce an
angle to such a case split and leave the rest to `omega`. -/
theorem toNat_sub_cases (a b : UInt32) :
    (b.toNat ≤ a.toNat ∧ (a - b).toNat = a.toNat - b.toNat) ∨
      (a.toNat < b.toNat ∧ (a - b).toNat = a.toNat + 4294967296 - b.toNat) := by
  have ha := a.toNat_lt
  have hb := b.toNat_lt
  rw [UInt32.toNat_sub]
  omega

/-- The sum of two angles as a number. -/
theorem toNat_add_cases (a b : UInt32) :
    (a.toNat + b.toNat < 4294967296 ∧ (a + b).toNat = a.toNat + b.toNat) ∨
      (4294967296 ≤ a.toNat + b.toNat ∧ (a + b).toNat = a.toNat + b.toNat - 4294967296) := by
  have ha := a.toNat_lt
  have hb := b.toNat_lt
  rw [UInt32.toNat_add]
  omega

/-- A right angle further from the right, unless the sum wraps. -/
theorem fromRight_cases (a : UInt32) :
    (a.toNat < 3221225472 ∧ fromRight a = a.toNat + 1073741824) ∨
      (3221225472 ≤ a.toNat ∧ fromRight a = a.toNat - 3221225472) := by
  have hright : ANG90.toNat = 1073741824 := rfl
  have hsum := toNat_add_cases a ANG90
  unfold fromRight
  omega

/-- The difference of two angles, in numbers: the two measures differ by it, or they do after
one full circle. -/
theorem fromRight_sub (a b : UInt32) :
    fromRight a = fromRight b + (a - b).toNat ∨
      fromRight a + 4294967296 = fromRight b + (a - b).toNat := by
  have ha := fromRight_cases a
  have hb := fromRight_cases b
  have hdiff := toNat_sub_cases a b
  have := a.toNat_lt
  have := b.toNat_lt
  omega

/-- The direction of the view does not change a difference: `R_AddLine` turns both angles by it. -/
theorem sub_sub_viewangle (a b viewangle : UInt32) :
    (a - viewangle) - (b - viewangle) = a - b := by
  apply UInt32.toNat_inj.mp
  have := a.toNat_lt
  have := b.toNat_lt
  have := viewangle.toNat_lt
  simp only [UInt32.toNat_sub]
  omega

/-! ### Clipping to the view -/

/-- What `clipToEdge` decides, for a view of less than a half plane. -/
theorem clipToEdge_cases {clipangle : UInt32} (hclip : clipangle.toNat < 1073741824)
    (span tspan angle edge : UInt32) :
    (clipToEdge clipangle span tspan angle edge = some angle ∧
        tspan.toNat ≤ 2 * clipangle.toNat) ∨
      (clipToEdge clipangle span tspan angle edge = some edge ∧
        2 * clipangle.toNat < tspan.toNat ∧ tspan.toNat < 2 * clipangle.toNat + span.toNat) ∨
      (clipToEdge clipangle span tspan angle edge = none ∧
        2 * clipangle.toNat < tspan.toNat ∧ 2 * clipangle.toNat + span.toNat ≤ tspan.toNat) := by
  have htwice : (2 * clipangle).toNat = 2 * clipangle.toNat := by
    rw [UInt32.toNat_mul]
    show 2 * clipangle.toNat % 2 ^ 32 = _
    omega
  have hsub := toNat_sub_cases tspan (2 * clipangle)
  unfold clipToEdge
  by_cases htspan : tspan > 2 * clipangle
  · rw [if_pos htspan]
    rw [gt_iff_lt, UInt32.lt_iff_toNat_lt] at htspan
    by_cases hspan : tspan - 2 * clipangle ≥ span
    · rw [if_pos hspan]
      rw [ge_iff_le, UInt32.le_iff_toNat_le] at hspan
      exact .inr (.inr ⟨rfl, by omega, by omega⟩)
    · rw [if_neg hspan]
      rw [ge_iff_le, UInt32.le_iff_toNat_le] at hspan
      exact .inr (.inl ⟨rfl, by omega, by omega⟩)
  · rw [if_neg htspan]
    rw [gt_iff_lt, UInt32.lt_iff_toNat_lt] at htspan
    exact .inl ⟨rfl, by omega⟩

/-- The left end that is left, solved for its result. -/
theorem clipLeft_eq_some {view : View} {span left x : Nat} :
    clipLeft view span left = some x ↔
      (rightEdge view ≤ left ∧ left ≤ leftEdge view ∧ x = left) ∨
        (leftEdge view < left ∧ left < leftEdge view + span ∧ x = leftEdge view) := by
  unfold clipLeft
  split_ifs <;> simp <;> omega

/-- The right end that is left. Besides the plain case it can lie behind the view, on the other
side of the wrap. -/
theorem clipRight_eq_some {view : View} {span right y : Nat} :
    clipRight view span right = some y ↔
      (rightEdge view ≤ right ∧ right ≤ leftEdge view ∧ y = right) ∨
        (((right < rightEdge view ∧ rightEdge view < right + span) ∨
            (leftEdge view < right ∧ rightEdge view + 4294967296 < right + span)) ∧
          y = rightEdge view) := by
  have hle : rightEdge view ≤ leftEdge view := by
    unfold rightEdge leftEdge
    omega
  unfold clipRight
  split_ifs <;> simp <;> omega

section Clip

variable {view : View} (hvalid : view.mapping.Valid)
include hvalid

/-- The clip of the left end, in numbers. The code compares `angle1 + clipangle` with twice the
`clipangle`; here this is a comparison with the two edges of the view. -/
theorem clipToEdge_left {span : UInt32} (hspan : span.toNat < 2147483648) (p : UInt32) :
    (clipToEdge view.mapping.clipangle span (p + view.mapping.clipangle) p
      view.mapping.clipangle).map fromRight = clipLeft view span.toNat (fromRight p) := by
  have hclip : view.mapping.clipangle.toNat < 1073741824 := hvalid.clip_lt
  have hp := fromRight_cases p
  have hp' := p.toNat_lt
  have hsum := toNat_add_cases p view.mapping.clipangle
  have hedge := fromRight_cases view.mapping.clipangle
  unfold clipLeft leftEdge rightEdge
  -- In the view, at the edge, or off the view.
  rcases clipToEdge_cases hclip span (p + view.mapping.clipangle) p view.mapping.clipangle with
    ⟨h, h₁⟩ | ⟨h, h₁, h₂⟩ | ⟨h, h₁, h₂⟩
  · rw [h, if_neg (by omega), if_neg (by omega)]
    rfl
  · rw [h, if_pos (by omega), if_pos (by omega)]
    rw [Option.map_some, show fromRight view.mapping.clipangle =
      1073741824 + view.mapping.clipangle.toNat by omega]
  · rw [h]
    split_ifs <;> first | omega | rfl

/-- The clip of the right end, in numbers. The code measures it clockwise, from the left edge. -/
theorem clipToEdge_right {span : UInt32} (hspan : span.toNat < 2147483648) (q : UInt32) :
    (clipToEdge view.mapping.clipangle span (view.mapping.clipangle - q) q
      (-view.mapping.clipangle)).map fromRight = clipRight view span.toNat (fromRight q) := by
  have hclip : view.mapping.clipangle.toNat < 1073741824 := hvalid.clip_lt
  have hq := fromRight_cases q
  have hq' := q.toNat_lt
  have hdiff := toNat_sub_cases view.mapping.clipangle q
  have hneg : (-view.mapping.clipangle).toNat =
      (4294967296 - view.mapping.clipangle.toNat) % 4294967296 := UInt32.toNat_neg _
  have hedge := fromRight_cases (-view.mapping.clipangle)
  unfold clipRight leftEdge rightEdge
  rcases clipToEdge_cases hclip span (view.mapping.clipangle - q) q (-view.mapping.clipangle)
    with ⟨h, h₁⟩ | ⟨h, h₁, h₂⟩ | ⟨h, h₁, h₂⟩
  · rw [h, if_neg (by omega), if_neg (by omega)]
    rfl
  · have hright : fromRight (-view.mapping.clipangle) =
        1073741824 - view.mapping.clipangle.toNat := by
      omega
    rw [h, Option.map_some, hright]
    split_ifs <;> first | omega | rfl
  · rw [h]
    split_ifs <;> first | omega | rfl

/-- `clipToView`, in numbers. -/
theorem clipToView_iff {angle1 angle2 : UInt32} (hspan : angle1 - angle2 < ANG180) (x y : Nat) :
    (∃ a1 a2, clipToView view angle1 angle2 = some (a1, a2) ∧ fromRight a1 = x ∧
        fromRight a2 = y) ↔
      clipLeft view (angle1 - angle2).toNat (fromRight (angle1 - view.viewangle)) = some x ∧
        clipRight view (angle1 - angle2).toNat (fromRight (angle2 - view.viewangle)) = some y := by
  rw [UInt32.lt_iff_toNat_lt] at hspan
  rw [← clipToEdge_left hvalid hspan, ← clipToEdge_right hvalid hspan, Option.map_eq_some_iff,
    Option.map_eq_some_iff]
  simp only [clipToView, Option.bind_eq_bind, Option.pure_def, Option.bind_eq_some_iff,
    Option.some.injEq, Prod.mk.injEq]
  constructor
  · rintro ⟨a1, a2, ⟨b1, h1, b2, h2, rfl, rfl⟩, hx, hy⟩
    exact ⟨⟨b1, h1, hx⟩, b2, h2, hy⟩
  · rintro ⟨⟨a1, h1, hx⟩, a2, h2, hy⟩
    exact ⟨a1, a2, ⟨a1, h1, a2, h2, rfl, rfl⟩, hx, hy⟩

/-- A clipped range is in front of the view point and in order. So the two table lookups of
`R_AddLine` stay inside `viewangletox`. -/
theorem clipToView_ordered {angle1 angle2 a1 a2 : UInt32} (hspan : angle1 - angle2 < ANG180)
    (h : clipToView view angle1 angle2 = some (a1, a2)) :
    fromRight a2 ≤ fromRight a1 ∧ fromRight a1 < 2147483648 := by
  obtain ⟨hleft, hright⟩ := (clipToView_iff hvalid hspan _ _).mp ⟨a1, a2, h, rfl, rfl⟩
  have hclip : view.mapping.clipangle.toNat < 1073741824 := hvalid.clip_lt
  have hdiff := fromRight_sub (angle1 - view.viewangle) (angle2 - view.viewangle)
  rw [sub_sub_viewangle] at hdiff
  rw [UInt32.lt_iff_toNat_lt] at hspan
  have h180 : ANG180.toNat = 2147483648 := rfl
  have hL : leftEdge view = 1073741824 + view.mapping.clipangle.toNat := rfl
  have hR : rightEdge view = 1073741824 - view.mapping.clipangle.toNat := rfl
  rw [clipLeft_eq_some] at hleft
  rw [clipRight_eq_some] at hright
  omega

/-- What the view shows of a range is in what it shows of a range around it, or it is a single
angle, which has no columns. -/
theorem clipToView_within {b1 b2 s1 s2 a1 a2 : UInt32} (hspan : b1 - b2 < ANG180)
    (hwithin : Within b1 b2 s1 s2) (h : clipToView view s1 s2 = some (a1, a2)) :
    fromRight a1 = fromRight a2 ∨ ∃ c1 c2, clipToView view b1 b2 = some (c1, c2) ∧
      fromRight c2 ≤ fromRight a2 ∧ fromRight a1 ≤ fromRight c1 := by
  have h180 : ANG180.toNat = 2147483648 := rfl
  unfold Within at hwithin
  have hspan' := hspan
  rw [UInt32.lt_iff_toNat_lt] at hspan'
  have hsub : s1 - s2 < ANG180 := by
    rw [UInt32.lt_iff_toNat_lt]
    omega
  obtain ⟨hleft, hright⟩ := (clipToView_iff hvalid hsub _ _).mp ⟨a1, a2, h, rfl, rfl⟩
  by_cases heq : fromRight a1 = fromRight a2
  · exact .inl heq
  refine .inr ?_
  have hclip : view.mapping.clipangle.toNat < 1073741824 := hvalid.clip_lt
  have hb := fromRight_sub (b1 - view.viewangle) (b2 - view.viewangle)
  have hs := fromRight_sub (s1 - view.viewangle) (s2 - view.viewangle)
  have hbs := fromRight_sub (b1 - view.viewangle) (s1 - view.viewangle)
  rw [sub_sub_viewangle] at hb hs hbs
  have hle : ∀ a, fromRight a < 4294967296 := fun a => (a + ANG90).toNat_lt
  have hle₁ := hle (b1 - view.viewangle)
  have hle₂ := hle (b2 - view.viewangle)
  have hle₃ := hle (s1 - view.viewangle)
  have hle₄ := hle (s2 - view.viewangle)
  have hL : leftEdge view = 1073741824 + view.mapping.clipangle.toNat := rfl
  have hR : rightEdge view = 1073741824 - view.mapping.clipangle.toNat := rfl
  rw [clipLeft_eq_some] at hleft
  rw [clipRight_eq_some] at hright
  obtain ⟨x, hx, hax⟩ : ∃ x, clipLeft view (b1 - b2).toNat (fromRight (b1 - view.viewangle)) =
      some x ∧ fromRight a1 ≤ x := by
    by_cases hout : leftEdge view < fromRight (b1 - view.viewangle)
    · exact ⟨leftEdge view, clipLeft_eq_some.mpr (.inr ⟨hout, by omega, rfl⟩), by omega⟩
    · exact ⟨_, clipLeft_eq_some.mpr (.inl ⟨by omega, by omega, rfl⟩), by omega⟩
  -- The same for the right end, which may be outside on either side.
  obtain ⟨y, hy, hay⟩ : ∃ y, clipRight view (b1 - b2).toNat (fromRight (b2 - view.viewangle)) =
      some y ∧ y ≤ fromRight a2 := by
    by_cases hin : rightEdge view ≤ fromRight (b2 - view.viewangle) ∧
        fromRight (b2 - view.viewangle) ≤ leftEdge view
    · exact ⟨_, clipRight_eq_some.mpr (.inl ⟨hin.1, hin.2, rfl⟩), by omega⟩
    · exact ⟨rightEdge view, clipRight_eq_some.mpr (.inr ⟨by omega, rfl⟩), by omega⟩
  obtain ⟨c1, c2, hc, rfl, rfl⟩ := (clipToView_iff hvalid hspan x y).mpr ⟨hx, hy⟩
  exact ⟨c1, c2, hc, hay, hax⟩

/-! ### Columns -/

omit hvalid in
/-- An angle in front of the view point has an index inside the table. -/
theorem columnOfAngle_eq {angle : UInt32} (h : fromRight angle < 2147483648) :
    columnOfAngle view angle = .ok (view.mapping.viewangletox (fromRight angle / 2 ^ 19)) := by
  have hindex : ((angle + ANG90) >>> ANGLETOFINESHIFT).toNat = fromRight angle / 2 ^ 19 := by
    rw [UInt32.toNat_shiftRight, Nat.shiftRight_eq_div_pow]
    rfl
  have hfine : fromRight angle / 2 ^ 19 < FINEANGLES / 2 := by
    show _ < 4096
    omega
  simp only [columnOfAngle, hindex, if_pos hfine]

/-- The columns of a range of angles come from its clipped ends. Two ends in one column have
none (`x1 == x2` in the code). -/
theorem columnsOfAngles_eq {angle1 angle2 a1 a2 : UInt32} (hspan : angle1 - angle2 < ANG180)
    (h : clipToView view angle1 angle2 = some (a1, a2)) :
    columnsOfAngles view angle1 angle2 =
      .ok (if view.mapping.viewangletox (fromRight a1 / 2 ^ 19) =
          view.mapping.viewangletox (fromRight a2 / 2 ^ 19) then none
        else some (view.mapping.viewangletox (fromRight a1 / 2 ^ 19),
          view.mapping.viewangletox (fromRight a2 / 2 ^ 19))) := by
  obtain ⟨hle, hlt⟩ := clipToView_ordered hvalid hspan h
  simp only [columnsOfAngles, h, columnOfAngle_eq hlt,
    columnOfAngle_eq (lt_of_le_of_lt hle hlt)]
  rfl

/-- A range that faces the view point has no columns, or columns from the left to the right, all
of them on the screen. -/
theorem columnsOfAngles_ordered {angle1 angle2 : UInt32} (hspan : angle1 - angle2 < ANG180) :
    ∃ columns, columnsOfAngles view angle1 angle2 = .ok columns ∧
      ∀ x1 x2, columns = some (x1, x2) → 0 ≤ x1 ∧ x1 < x2 ∧ x2 ≤ view.mapping.viewwidth := by
  cases h : clipToView view angle1 angle2 with
  | none => exact ⟨none, by simp only [columnsOfAngles, h], nofun⟩
  | some ends =>
    obtain ⟨a1, a2⟩ := ends
    have hcolumns := columnsOfAngles_eq hvalid hspan h
    have hle := hvalid.column_antitone _ _
      (Nat.div_le_div_right (c := 2 ^ 19) (clipToView_ordered hvalid hspan h).1)
    have hnonneg := hvalid.column_nonneg (fromRight a1 / 2 ^ 19)
    have hwidth := hvalid.column_le (fromRight a2 / 2 ^ 19)
    refine ⟨_, hcolumns, fun x1 x2 hx => ?_⟩
    split at hx
    · cases hx
    · cases hx
      exact ⟨hnonneg, by omega, hwidth⟩

/-- The columns of a range of angles are in the columns of a range around it. This is what lets
a hidden bounding box stand for everything in it. -/
theorem columnsOfAngles_within {b1 b2 s1 s2 : UInt32} (hspan : b1 - b2 < ANG180)
    (hwithin : Within b1 b2 s1 s2) {y1 y2 : Int}
    (h : columnsOfAngles view s1 s2 = .ok (some (y1, y2))) :
    ∃ x1 x2, columnsOfAngles view b1 b2 = .ok (some (x1, x2)) ∧ x1 ≤ y1 ∧ y2 ≤ x2 := by
  have hsub : s1 - s2 < ANG180 := by
    have := UInt32.lt_iff_toNat_lt.mp hspan
    rw [UInt32.lt_iff_toNat_lt]
    unfold Within at hwithin
    omega
  cases hclip : clipToView view s1 s2 with
  | none =>
    simp only [columnsOfAngles, hclip] at h
    cases h
  | some ends =>
    obtain ⟨a1, a2⟩ := ends
    have hcolumns := columnsOfAngles_eq hvalid hsub hclip
    rw [h] at hcolumns
    split at hcolumns
    · cases hcolumns
    next hne =>
      cases hcolumns
      rcases clipToView_within hvalid hspan hwithin hclip with heq | ⟨c1, c2, hc, h2, h1⟩
      · exact absurd (by rw [heq]) hne
      · have hx1 := hvalid.column_antitone _ _ (Nat.div_le_div_right (c := 2 ^ 19) h1)
        have hx2 := hvalid.column_antitone _ _ (Nat.div_le_div_right (c := 2 ^ 19) h2)
        have hle := hvalid.column_antitone _ _
          (Nat.div_le_div_right (c := 2 ^ 19) (clipToView_ordered hvalid hsub hclip).1)
        refine ⟨_, _, ?_, hx1, hx2⟩
        rw [columnsOfAngles_eq hvalid hspan hc, if_neg (by omega)]

end Clip

end DoomSat.Renderer
