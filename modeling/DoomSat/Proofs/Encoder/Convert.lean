import DoomSat.Proofs.Encoder.Colour
import Mathlib.Data.List.Induction

/-!
# `DoomSat.Proofs.Encoder.Convert`: the conversion of an image

`Converts` says what a conversion must do: every sample of every plane is stored once, inside
its plane, with the value that the integer formulas give for its pixel or for the average of
its block, and nothing else is stored.

The indices are of type `int`. `rgbToYuv420p_converts_iff` states that the conversion is right
exactly when they fit, odd sizes included, and `not_converts_wideRow` is one row of 715,827,884
pixels, where they do not.
-/

set_option autoImplicit false

namespace DoomSat.Encoder

open Support

/-! ### What a conversion must do -/

/-- The width or the height of a plane, for the width or the height of the image. -/
def planeSize : Plane → Nat → Nat
  | .y, n => n
  | .u, n => (n + 1) / 2
  | .v, n => (n + 1) / 2

/-- The distance of the rows of a plane. -/
def Picture.stride (pic : Picture) : Plane → Nat
  | .y => pic.yStride
  | .u => pic.uvStride
  | .v => pic.uvStride

/-- Every plane has room for its rows, and no stride is less than the width of the plane. -/
def Picture.HasRoom (pic : Picture) (width height : Nat) : Prop :=
  ∀ plane, planeSize plane width ≤ pic.stride plane ∧
    (planeSize plane height - 1) * pic.stride plane + planeSize plane width
      ≤ (pic.plane plane).length

/-- The pixel in row `y` and column `x`. -/
def pixelAt (rgb : List UInt8) (width y x : Nat) : Rgb :=
  .ofBytes (rgb.getD ((y * width + x) * 3) 0) (rgb.getD ((y * width + x) * 3 + 1) 0)
    (rgb.getD ((y * width + x) * 3 + 2) 0)

/-- The average of the block of 2×2 pixels in row `y` and column `x` of the blocks, rounded
down. The last column and the last row of the image stand for the ones behind them. -/
def blockAt (rgb : List UInt8) (width height y x : Nat) : Rgb :=
  let right := min (2 * x + 1) (width - 1)
  let below := min (2 * y + 1) (height - 1)
  averageRgb (pixelAt rgb width (2 * y) (2 * x)) (pixelAt rgb width (2 * y) right)
    (pixelAt rgb width below (2 * x)) (pixelAt rgb width below right)

/-- What a sample is made of. -/
def sourceAt (rgb : List UInt8) (width height : Nat) : Plane → Nat → Nat → Rgb
  | .y => pixelAt rgb width
  | .u => blockAt rgb width height
  | .v => blockAt rgb width height

/-- Whether the store goes to this place. -/
def Store.isTo (plane : Plane) (idx : Nat) (store : Store) : Bool :=
  store.plane = plane ∧ store.idx = idx

/-- A sample is stored as it must be. -/
structure SampleStored (pic : Picture) (stores : List Store) (plane : Plane) (idx : Nat)
    (source : Rgb) : Prop where
  inside : idx < (pic.plane plane).length
  /-- It is stored once. -/
  once : stores.filter (Store.isTo plane idx) = [⟨plane, idx, byteOf plane source⟩]
  /-- It is in the picture afterwards. -/
  kept : ((stores.foldl Picture.write pic).plane plane)[idx]? = some (byteOf plane source)
  formula : converted plane source = scaled plane source
  range : 0 ≤ converted plane source ∧ converted plane source ≤ 255
  /-- The clamp and the cast do not change it. -/
  unchanged : ((byteOf plane source).toNat : ℤ) = converted plane source
  near : |(converted plane source : ℚ) - bt601 plane source| < 3 / 2
  grey : source.r = source.g → source.g = source.b →
    converted plane source = greySample plane source.b

/-- The stores are a conversion of the image. -/
structure Converts (rgb : List UInt8) (pic : Picture) (width height : Nat)
    (stores : List Store) : Prop where
  sample : ∀ plane, ∀ y < planeSize plane height, ∀ x < planeSize plane width,
    SampleStored pic stores plane (y * pic.stride plane + x)
      (sourceAt rgb width height plane y x)
  /-- Nothing else is stored. -/
  only : ∀ store ∈ stores, ∃ y < planeSize store.plane height,
    ∃ x < planeSize store.plane width, store.idx = y * pic.stride store.plane + x

/-- The last index of the image and of each plane fits in an `int`. -/
structure IndicesFit (pic : Picture) (width height : Nat) : Prop where
  rgb : width * height * 3 ≤ INT_MAX + 1
  plane : ∀ plane, (planeSize plane height - 1) * pic.stride plane + planeSize plane width
    ≤ INT_MAX + 1

/-! ### Accesses -/

/-- An index that fits is kept. -/
theorem int_eq {n : Nat} (h : n ≤ INT_MAX) : int n = .ok n := if_pos h

/-- An index without an overflow fits. -/
theorem le_of_int {n m : Nat} (h : int n = .ok m) : n ≤ INT_MAX ∧ m = n := by
  unfold int at h
  split at h
  next hle =>
    cases h
    exact ⟨hle, rfl⟩
  next => cases h

/-- A read inside the image gives the byte. -/
theorem readByte_eq {rgb : List UInt8} {idx : Nat} (h : idx < rgb.length) :
    readByte rgb idx = .ok (rgb.getD idx 0) := by
  unfold readByte
  rw [List.getD_eq_getElem?_getD, List.getElem?_eq_getElem h]
  rfl

/-- A pixel whose indices are in the image and fit is read. The code computes the three indices
one after the other, and each is an `int`. -/
theorem readRgb_eq {rgb : List UInt8} {idx : Nat} (hlen : idx + 2 < rgb.length)
    (hfit : idx + 2 ≤ INT_MAX) :
    readRgb rgb idx
      = .ok (.ofBytes (rgb.getD idx 0) (rgb.getD (idx + 1) 0) (rgb.getD (idx + 2) 0)) := by
  unfold readRgb
  rw [int_eq (by omega), ok_bind, readByte_eq (by omega), ok_bind, int_eq (by omega), ok_bind,
    readByte_eq (by omega), ok_bind, int_eq hfit, ok_bind, readByte_eq hlen, ok_bind]
  rfl

/-- A store inside the plane succeeds. -/
theorem storeAt_eq {pic : Picture} {plane : Plane} {idx : Nat} {value : UInt8}
    (h : idx < (pic.plane plane).length) :
    storeAt pic plane idx value = .ok ⟨plane, idx, value⟩ := if_pos h

/-! ### The bodies of the loops -/

section Bodies

variable {rgb : List UInt8} {pic : Picture} {width height : Nat}

/-- The store of a sample, for its place in the plane. -/
def sampleStore (rgb : List UInt8) (pic : Picture) (width height : Nat) (plane : Plane)
    (cell : Nat × Nat) : Store where
  plane := plane
  idx := cell.1 * pic.stride plane + cell.2
  value := byteOf plane (sourceAt rgb width height plane cell.1 cell.2)

/-- The indices of a pixel are in the image. -/
theorem pixel_index_lt {y x : Nat} (hy : y < height) (hx : x < width) :
    (y * width + x) * 3 + 2 < width * height * 3 := by
  have hlt : y * width + x < height * width := by
    have hidx := @index_lt width height width y x hy hx
    have hrows : (height - 1) * width + width = height * width := by
      rw [← Nat.succ_mul, Nat.succ_eq_add_one, Nat.sub_add_cancel (Nat.one_le_of_lt hy)]
    omega
  rw [Nat.mul_comm width height]
  omega

/-- Every pixel of the image is read. -/
theorem read_pixel (hlen : rgb.length = width * height * 3)
    (hfit : width * height * 3 ≤ INT_MAX + 1) {y x : Nat} (hy : y < height) (hx : x < width) :
    int ((y * width + x) * 3) = .ok ((y * width + x) * 3) ∧
      readRgb rgb ((y * width + x) * 3) = .ok (pixelAt rgb width y x) := by
  have hlt := pixel_index_lt hy hx
  exact ⟨int_eq (by omega), readRgb_eq (by omega) (by omega)⟩

/-- Every place of a plane is in the plane, and its index fits. -/
theorem place_index (hroom : pic.HasRoom width height) (hfit : IndicesFit pic width height)
    {plane : Plane} {y x : Nat} (hy : y < planeSize plane height)
    (hx : x < planeSize plane width) :
    y * pic.stride plane + x < (pic.plane plane).length ∧
      y * pic.stride plane + x ≤ INT_MAX := by
  have hlt := @index_lt _ _ (pic.stride plane) _ _ hy hx
  have hroom := (hroom plane).2
  have hfit := hfit.plane plane
  omega

/-- A round of the first pair of loops: one pixel is read, and its Y sample is stored. -/
theorem convertLuma_eq (hlen : rgb.length = width * height * 3)
    (hroom : pic.HasRoom width height) (hfit : IndicesFit pic width height) {y x : Nat}
    (hy : y < height) (hx : x < width) :
    convertLuma rgb pic width y x = .ok [sampleStore rgb pic width height .y (y, x)] := by
  obtain ⟨hidx, hread⟩ := read_pixel hlen hfit.rgb hy hx
  obtain ⟨hinside, hplace⟩ : y * pic.yStride + x < (pic.plane .y).length ∧
      y * pic.yStride + x ≤ INT_MAX := @place_index pic width height hroom hfit .y y x hy hx
  unfold convertLuma
  rw [hidx, ok_bind, hread, ok_bind, int_eq hplace, ok_bind, storeAt_eq hinside]
  rfl

/-- A round of the second pair of loops: four pixels are read, and the two samples of their
average are stored. At the right and at the lower edge of an odd image a pixel is read again. -/
theorem convertChroma_eq (hlen : rgb.length = width * height * 3)
    (hroom : pic.HasRoom width height) (hfit : IndicesFit pic width height) {y x : Nat}
    (hy : y < (height + 1) / 2) (hx : x < (width + 1) / 2) (hwidth : width ≤ INT_MAX)
    (hheight : height ≤ INT_MAX) :
    convertChroma rgb pic width height y x
      = .ok [sampleStore rgb pic width height .u (y, x),
        sampleStore rgb pic width height .v (y, x)] := by
  -- The conditional of the code is the minimum in `blockAt`.
  have hright : (if x * 2 + 1 < width then x * 2 + 1 else x * 2)
      = min (2 * x + 1) (width - 1) := by
    split <;> omega
  have hbelow : (if y * 2 + 1 < height then y * 2 + 1 else y * 2)
      = min (2 * y + 1) (height - 1) := by
    split <;> omega
  have hx0 : x * 2 < width := by omega
  have hy0 : y * 2 < height := by omega
  have hx1 : min (2 * x + 1) (width - 1) < width := by omega
  have hy1 : min (2 * y + 1) (height - 1) < height := by omega
  obtain ⟨hidx00, hread00⟩ := read_pixel hlen hfit.rgb hy0 hx0
  obtain ⟨hidx01, hread01⟩ := read_pixel hlen hfit.rgb hy0 hx1
  obtain ⟨hidx10, hread10⟩ := read_pixel hlen hfit.rgb hy1 hx0
  obtain ⟨hidx11, hread11⟩ := read_pixel hlen hfit.rgb hy1 hx1
  obtain ⟨hinsideU, hplace⟩ : y * pic.uvStride + x < (pic.plane .u).length ∧
      y * pic.uvStride + x ≤ INT_MAX := @place_index pic width height hroom hfit .u y x hy hx
  have hinsideV : y * pic.uvStride + x < (pic.plane .v).length :=
    (@place_index pic width height hroom hfit .v y x hy hx).1
  unfold convertChroma
  rw [int_eq (by omega), ok_bind, int_eq (by omega), ok_bind]
  dsimp only
  rw [hright, hbelow, hidx00, ok_bind, hidx01, ok_bind, hidx10, ok_bind, hidx11, ok_bind,
    hread00, ok_bind, hread01, ok_bind, hread10, ok_bind, hread11, ok_bind, int_eq hplace,
    ok_bind, storeAt_eq hinsideU, ok_bind, storeAt_eq hinsideV]
  simp only [sampleStore, sourceAt, blockAt, byteOf, Nat.mul_comm 2]
  rfl

/-! ### The stores -/

/-- The stores of the whole conversion. -/
def allStores (rgb : List UInt8) (pic : Picture) (width height : Nat) : List Store :=
  ((cells width height).flatMap fun cell => [sampleStore rgb pic width height .y cell])
    ++ (cells ((width + 1) / 2) ((height + 1) / 2)).flatMap fun cell =>
      [sampleStore rgb pic width height .u cell, sampleStore rgb pic width height .v cell]

/-- The conversion of an image whose indices fit. Both pairs of loops are rasters, so a body
without a fault at every place gives all stores in order. -/
theorem rgbToYuv420p_eq (hwidth : 1 ≤ width) (hheight : 1 ≤ height)
    (hlen : rgb.length = width * height * 3) (hroom : pic.HasRoom width height)
    (hfit : IndicesFit pic width height) :
    rgbToYuv420p rgb pic width height = .ok (allStores rgb pic width height) := by
  have hrgb := hfit.rgb
  have hwidth' : width ≤ width * height := Nat.le_mul_of_pos_right width hheight
  have hheight' : height ≤ width * height := Nat.le_mul_of_pos_left height hwidth
  have hmax : (INT_MAX + 1) / 3 + 1 ≤ INT_MAX := by decide
  have hluma : raster width height (fun y x => convertLuma rgb pic width y x)
      = .ok ((cells width height).flatMap fun cell =>
        [sampleStore rgb pic width height .y cell]) :=
    raster_eq_ok fun y hy x hx => convertLuma_eq hlen hroom hfit hy hx
  have hchroma : raster ((width + 1) / 2) ((height + 1) / 2)
      (fun y x => convertChroma rgb pic width height y x)
        = .ok ((cells ((width + 1) / 2) ((height + 1) / 2)).flatMap fun cell =>
          [sampleStore rgb pic width height .u cell,
            sampleStore rgb pic width height .v cell]) :=
    raster_eq_ok fun y hy x hx =>
      convertChroma_eq hlen hroom hfit hy hx (by omega) (by omega)
  unfold rgbToYuv420p
  rw [hluma, ok_bind, int_eq (by omega), ok_bind, int_eq (by omega), ok_bind]
  dsimp only
  rw [hchroma, ok_bind]
  rfl

/-- The stores into one plane are those of its samples, in raster order. -/
theorem filter_plane (plane : Plane) :
    (allStores rgb pic width height).filter (fun store => store.plane = plane)
      = (cells (planeSize plane width) (planeSize plane height)).map
        (sampleStore rgb pic width height plane) := by
  unfold allStores
  rw [List.filter_append, List.filter_flatMap, List.filter_flatMap]
  have hnone : ∀ places : List (Nat × Nat), places.flatMap (fun _ => ([] : List Store)) = [] :=
    fun _ => List.flatMap_eq_nil_iff.mpr fun _ _ => rfl
  -- The first loops store into Y only, the second ones into U and V.
  cases plane with
  | y =>
    show (cells width height).flatMap (fun cell => [sampleStore rgb pic width height .y cell])
      ++ (cells _ _).flatMap (fun _ => []) = _
    rw [hnone, List.append_nil, ← List.map_eq_flatMap]
    rfl
  | u =>
    show (cells width height).flatMap (fun _ => [])
      ++ (cells _ _).flatMap (fun cell => [sampleStore rgb pic width height .u cell]) = _
    rw [hnone, List.nil_append, ← List.map_eq_flatMap]
    rfl
  | v =>
    show (cells width height).flatMap (fun _ => [])
      ++ (cells _ _).flatMap (fun cell => [sampleStore rgb pic width height .v cell]) = _
    rw [hnone, List.nil_append, ← List.map_eq_flatMap]
    rfl

/-- Exactly one store goes to the place of a sample. Two samples of a plane have different
places, since no row is longer than the stride. -/
theorem filter_place {plane : Plane} (hroom : pic.HasRoom width height) {y x : Nat}
    (hy : y < planeSize plane height) (hx : x < planeSize plane width) :
    (allStores rgb pic width height).filter (Store.isTo plane (y * pic.stride plane + x))
      = [sampleStore rgb pic width height plane (y, x)] := by
  have hboth : Store.isTo plane (y * pic.stride plane + x)
      = fun store => decide (store.idx = y * pic.stride plane + x)
        && decide (store.plane = plane) := by
    funext store
    rw [Store.isTo, Bool.decide_and, Bool.and_comm]
  rw [hboth, ← List.filter_filter, filter_plane, List.filter_map]
  show ((cells _ _).filter fun cell => decide (cell.1 * pic.stride plane + cell.2
    = y * pic.stride plane + x)).map _ = _
  rw [filter_index_eq (hroom plane).1 hy hx]
  rfl

/-- Every store is one of a sample, so the padding between the rows stays as it was. -/
theorem place_of_mem {store : Store} (h : store ∈ allStores rgb pic width height) :
    ∃ y < planeSize store.plane height, ∃ x < planeSize store.plane width,
      store.idx = y * pic.stride store.plane + x := by
  have hmem : store ∈ (allStores rgb pic width height).filter
      (fun store' => store'.plane = store.plane) :=
    List.mem_filter.mpr ⟨h, decide_eq_true rfl⟩
  rw [filter_plane] at hmem
  obtain ⟨⟨y, x⟩, hcell, hstore⟩ := List.mem_map.mp hmem
  obtain ⟨hy, hx⟩ := mem_cells.mp hcell
  exact ⟨y, hy, x, hx, (congrArg Store.idx hstore).symm⟩

end Bodies

/-! ### The picture afterwards -/

/-- Stores do not change the size of a plane. -/
theorem length_foldl_write (pic : Picture) (stores : List Store) (plane : Plane) :
    ((stores.foldl Picture.write pic).plane plane).length = (pic.plane plane).length := by
  induction stores generalizing pic with
  | nil => rfl
  | cons store stores ih =>
    rw [List.foldl_cons, ih]
    show (if plane = store.plane then _ else _ : List UInt8).length = _
    split
    · exact List.length_set
    · rfl

/-- A place of a plane has the value of the last store that goes to it. The induction adds one
store at the end. -/
theorem getElem?_foldl_write (pic : Picture) (stores : List Store) {plane : Plane} {idx : Nat}
    (h : idx < (pic.plane plane).length) :
    ((stores.foldl Picture.write pic).plane plane)[idx]?
      = ((stores.filter (Store.isTo plane idx)).getLast?.map Store.value).or
        (pic.plane plane)[idx]? := by
  induction stores using List.reverseRecOn with
  | nil => rfl
  | append_singleton stores store ih =>
    rw [List.foldl_concat, List.filter_append]
    show (if plane = store.plane then
      ((stores.foldl Picture.write pic).plane plane).set store.idx store.value
      else (stores.foldl Picture.write pic).plane plane)[idx]? = _
    -- The store goes to this place, to another place of the plane, or to another plane.
    by_cases hplane : store.plane = plane
    · by_cases hidx : store.idx = idx
      · have hhit : store.isTo plane idx = true := decide_eq_true ⟨hplane, hidx⟩
        rw [if_pos hplane.symm, hidx, List.getElem?_set_self (by rwa [length_foldl_write]),
          List.filter_cons_of_pos hhit, List.filter_nil, List.getLast?_concat]
        rfl
      · have hmiss : ¬ store.isTo plane idx = true := fun hc => hidx (of_decide_eq_true hc).2
        rw [if_pos hplane.symm, List.getElem?_set_ne hidx, List.filter_cons_of_neg hmiss,
          List.filter_nil, List.append_nil]
        exact ih
    · have hmiss : ¬ store.isTo plane idx = true := fun hc => hplane (of_decide_eq_true hc).1
      rw [if_neg fun hc => hplane hc.symm, List.filter_cons_of_neg hmiss, List.filter_nil,
        List.append_nil]
      exact ih

/-- The conversion stores every sample. The values are those of `DoomSat.Proofs.Encoder.Colour`. -/
theorem converts_allStores {rgb : List UInt8} {pic : Picture} {width height : Nat}
    (hroom : pic.HasRoom width height) :
    Converts rgb pic width height (allStores rgb pic width height) := by
  refine ⟨?_, fun store hmem => place_of_mem hmem⟩
  intro plane y hy x hx
  have honce := @filter_place rgb pic width height plane hroom y x hy hx
  have hinside : y * pic.stride plane + x < (pic.plane plane).length :=
    Nat.lt_of_lt_of_le (index_lt hy hx) (hroom plane).2
  refine ⟨hinside, honce, ?_, converted_eq_scaled plane _, converted_range plane _,
    toNat_byteOf plane _, converted_near plane _, converted_grey plane⟩
  rw [getElem?_foldl_write pic _ hinside, honce]
  rfl

/-! ### Images that are too large -/

/-- A pixel that is read has indices that fit. -/
theorem fit_of_readRgb {rgb : List UInt8} {idx : Nat} {p : Rgb} (h : readRgb rgb idx = .ok p) :
    idx + 2 ≤ INT_MAX := by
  unfold readRgb at h
  obtain ⟨_, -, h⟩ := bind_eq_ok.mp h
  obtain ⟨_, -, h⟩ := bind_eq_ok.mp h
  obtain ⟨_, -, h⟩ := bind_eq_ok.mp h
  obtain ⟨_, -, h⟩ := bind_eq_ok.mp h
  obtain ⟨_, hint, -⟩ := bind_eq_ok.mp h
  exact (le_of_int hint).1

/-- A round of the first pair of loops without a fault has indices that fit. -/
theorem fit_of_convertLuma {rgb : List UInt8} {pic : Picture} {width y x : Nat}
    {out : List Store} (h : convertLuma rgb pic width y x = .ok out) :
    (y * width + x) * 3 + 2 ≤ INT_MAX ∧ y * pic.yStride + x ≤ INT_MAX := by
  unfold convertLuma at h
  obtain ⟨rgbIdx, hidx, h⟩ := bind_eq_ok.mp h
  obtain ⟨p, hread, h⟩ := bind_eq_ok.mp h
  obtain ⟨place, hplace, -⟩ := bind_eq_ok.mp h
  obtain ⟨-, rfl⟩ := le_of_int hidx
  exact ⟨fit_of_readRgb hread, (le_of_int hplace).1⟩

/-- A round of the second pair of loops without a fault has a place that fits. -/
theorem fit_of_convertChroma {rgb : List UInt8} {pic : Picture} {width height y x : Nat}
    {out : List Store} (h : convertChroma rgb pic width height y x = .ok out) :
    y * pic.uvStride + x ≤ INT_MAX := by
  unfold convertChroma at h
  -- Two places, four indices and four pixels come before it.
  obtain ⟨_, -, h⟩ := bind_eq_ok.mp h
  obtain ⟨_, -, h⟩ := bind_eq_ok.mp h
  obtain ⟨_, -, h⟩ := bind_eq_ok.mp h
  obtain ⟨_, -, h⟩ := bind_eq_ok.mp h
  obtain ⟨_, -, h⟩ := bind_eq_ok.mp h
  obtain ⟨_, -, h⟩ := bind_eq_ok.mp h
  obtain ⟨_, -, h⟩ := bind_eq_ok.mp h
  obtain ⟨_, -, h⟩ := bind_eq_ok.mp h
  obtain ⟨_, -, h⟩ := bind_eq_ok.mp h
  obtain ⟨_, -, h⟩ := bind_eq_ok.mp h
  obtain ⟨_, hplace, -⟩ := bind_eq_ok.mp h
  exact (le_of_int hplace).1

/-- A conversion without a fault has gone through the last pixel and the last block, so all
indices fit. -/
theorem indicesFit_of_ok {rgb : List UInt8} {pic : Picture} {width height : Nat}
    (hwidth : 1 ≤ width) (hheight : 1 ≤ height) {stores : List Store}
    (h : rgbToYuv420p rgb pic width height = .ok stores) : IndicesFit pic width height := by
  unfold rgbToYuv420p at h
  obtain ⟨luma, hluma, h⟩ := bind_eq_ok.mp h
  obtain ⟨width', hwidth', h⟩ := bind_eq_ok.mp h
  obtain ⟨height', hheight', h⟩ := bind_eq_ok.mp h
  obtain ⟨chroma, hchroma, -⟩ := bind_eq_ok.mp h
  obtain ⟨-, rfl⟩ := le_of_int hwidth'
  obtain ⟨-, rfl⟩ := le_of_int hheight'
  obtain ⟨_, hlastLuma⟩ := body_of_raster hluma (Nat.sub_one_lt_of_lt hheight)
    (Nat.sub_one_lt_of_lt hwidth)
  obtain ⟨_, hlastChroma⟩ := @body_of_raster _ _ _ _ _ _ hchroma ((height + 1) / 2 - 1)
    ((width + 1) / 2 - 1) (by omega) (by omega)
  obtain ⟨hpixel, hplaceY⟩ := fit_of_convertLuma hlastLuma
  have hplaceUV := fit_of_convertChroma hlastChroma
  constructor
  · have hlast : (height - 1) * width + width = width * height := by
      rw [← Nat.succ_mul, Nat.succ_eq_add_one, Nat.sub_add_cancel hheight, Nat.mul_comm]
    omega
  · intro plane
    cases plane with
    | y =>
      show (height - 1) * pic.yStride + width ≤ INT_MAX + 1
      omega
    | u =>
      show ((height + 1) / 2 - 1) * pic.uvStride + (width + 1) / 2 ≤ INT_MAX + 1
      omega
    | v =>
      show ((height + 1) / 2 - 1) * pic.uvStride + (width + 1) / 2 ≤ INT_MAX + 1
      omega

/-- A row of this many black pixels. -/
def blackRow (width : Nat) : List UInt8 := List.replicate (width * 3) 0

/-- A picture for a row of this many pixels. -/
def rowPicture (width : Nat) : Picture where
  plane := fun plane => List.replicate (planeSize plane width) 0
  yStride := width
  uvStride := (width + 1) / 2

/-- The conversion of one row of 715,827,884 pixels runs into an overflow at the last one: three
times its index is 2,147,483,649. -/
theorem not_converts_wideRow :
    (blackRow 715827884).length = 715827884 * 1 * 3 ∧
      (rowPicture 715827884).HasRoom 715827884 1 ∧
      ¬ ∃ stores, rgbToYuv420p (blackRow 715827884) (rowPicture 715827884) 715827884 1
        = .ok stores ∧
        Converts (blackRow 715827884) (rowPicture 715827884) 715827884 1 stores := by
  refine ⟨List.length_replicate, ?_, ?_⟩
  · intro plane
    show _ ∧ _ ≤ (List.replicate (planeSize plane 715827884) (0 : UInt8)).length
    rw [List.length_replicate]
    cases plane <;> decide
  · rintro ⟨stores, hstores, -⟩
    have hfit := (indicesFit_of_ok (by decide) (by decide) hstores).rgb
    exact absurd hfit (by decide)

/-! ### The conversion -/

/-- For every image of at least one pixel and every picture with room for it: the conversion
runs without a fault and is right exactly when the last index of the image and of each plane
fits in an `int`. -/
theorem rgbToYuv420p_converts_iff (rgb : List UInt8) (pic : Picture) (width height : Nat)
    (hwidth : 1 ≤ width) (hheight : 1 ≤ height) (hlen : rgb.length = width * height * 3)
    (hroom : pic.HasRoom width height) :
    (∃ stores, rgbToYuv420p rgb pic width height = .ok stores ∧
      Converts rgb pic width height stores) ↔ IndicesFit pic width height := by
  constructor
  · rintro ⟨stores, hstores, -⟩
    exact indicesFit_of_ok hwidth hheight hstores
  · intro hfit
    exact ⟨_, rgbToYuv420p_eq hwidth hheight hlen hroom hfit, converts_allStores hroom⟩

/-- An image of three rows: the primary colours, white, black and grey, and the other three
colours of full intensity. -/
def ninePixels : List UInt8 :=
  [255, 0, 0, 0, 255, 0, 0, 0, 255,
    255, 255, 255, 0, 0, 0, 128, 128, 128,
    255, 255, 0, 0, 255, 255, 255, 0, 255]

/-- A picture for 3x3 pixels, with one byte of padding in each row of each plane. -/
def paddedPicture : Picture where
  plane := fun plane => match plane with
    | .y => List.replicate 12 0
    | .u | .v => List.replicate 6 0
  yStride := 4
  uvStride := 3

/-- The conversion of an image with an odd width and an odd height. -/
theorem rgbToYuv420p_converts_iff_ninePixels :
    (∃ stores, rgbToYuv420p ninePixels paddedPicture 3 3 = .ok stores ∧
      Converts ninePixels paddedPicture 3 3 stores) ↔ IndicesFit paddedPicture 3 3 :=
  rgbToYuv420p_converts_iff ninePixels paddedPicture 3 3 (by decide) (by decide) rfl
    fun plane => by cases plane <;> decide

-- The last column and the last row of the chroma planes average repeated pixels.
example : rgbToYuv420p ninePixels paddedPicture 3 3
    = .ok [⟨.y, 0, 76⟩, ⟨.y, 1, 149⟩, ⟨.y, 2, 28⟩, ⟨.y, 4, 255⟩, ⟨.y, 5, 0⟩, ⟨.y, 6, 128⟩,
      ⟨.y, 8, 226⟩, ⟨.y, 9, 178⟩, ⟨.y, 10, 105⟩, ⟨.u, 0, 96⟩, ⟨.v, 0, 133⟩, ⟨.u, 1, 191⟩,
      ⟨.v, 1, 117⟩, ⟨.u, 3, 85⟩, ⟨.v, 3, 74⟩, ⟨.u, 4, 212⟩, ⟨.v, 4, 234⟩] := by
  decide +kernel

end DoomSat.Encoder
