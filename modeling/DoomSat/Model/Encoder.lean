import DoomSat.Support.Raster

/-!
# `DoomSat.Model.Encoder`: the colour conversion of `satellite/encoder.c`

`rgb_to_yuv420p` converts an RGB888 image to the planes of an x264 picture. One pair of loops
writes the Y samples, a second one writes the U and V samples of each block of 2×2 pixels.

The model gives the stores of the conversion in order, and `Picture.write` gives what a store
does to the picture. A sum or a product of type `int` that does not fit, a read outside the
image and a store outside a plane are faults. The image and the planes do not overlap.
-/

set_option autoImplicit false

namespace DoomSat.Encoder

open Support

/-! ### The picture -/

/-- The planes of a YUV420p picture: `plane[0]`, `plane[1]` and `plane[2]`. -/
inductive Plane where
  | y
  | u
  | v
  deriving DecidableEq, Repr

/-- What the conversion uses of `x264_picture_t`. -/
structure Picture where
  plane : Plane → List UInt8
  /-- `i_stride[0]`. -/
  yStride : Nat
  /-- `i_stride[1]`. The V plane is written with this stride too. -/
  uvStride : Nat

/-- One store into a plane. -/
structure Store where
  plane : Plane
  idx : Nat
  value : UInt8
  deriving DecidableEq, Repr

/-- The picture after a store. -/
def Picture.write (pic : Picture) (store : Store) : Picture :=
  { pic with plane := fun plane =>
      if plane = store.plane then (pic.plane plane).set store.idx store.value
      else pic.plane plane }

/-- Undefined behaviour of the conversion. -/
inductive Fault where
  /-- A result that does not fit in an `int`. -/
  | overflow
  /-- A read outside the image. -/
  | read (idx : Nat)
  /-- A store outside its plane. -/
  | write (plane : Plane) (idx : Nat)
  deriving DecidableEq, Repr

/-! ### Accesses -/

def INT_MAX : Nat := 2147483647

/-- An expression of type `int`. No part of one here is negative or larger than the whole. -/
def int (n : Nat) : Except Fault Nat := if n ≤ INT_MAX then .ok n else .error .overflow

/-- `rgb[idx]`. -/
def readByte (rgb : List UInt8) (idx : Nat) : Except Fault UInt8 :=
  match rgb[idx]? with
  | some byte => .ok byte
  | none => .error (.read idx)

/-- A pixel, or the average of a block of pixels. -/
structure Rgb where
  r : Nat
  g : Nat
  b : Nat
  r_le : r ≤ 255
  g_le : g ≤ 255
  b_le : b ≤ 255
  deriving DecidableEq

/-- The pixel of three bytes. -/
def Rgb.ofBytes (r g b : UInt8) : Rgb where
  r := r.toNat
  g := g.toNat
  b := b.toNat
  r_le := Nat.le_of_lt_succ r.toNat_lt
  g_le := Nat.le_of_lt_succ g.toNat_lt
  b_le := Nat.le_of_lt_succ b.toNat_lt

/-- The reads of a pixel from `rgb_idx` on. -/
def readRgb (rgb : List UInt8) (rgbIdx : Nat) : Except Fault Rgb := do
  let r ← readByte rgb (← int (rgbIdx + 0))
  let g ← readByte rgb (← int (rgbIdx + 1))
  let b ← readByte rgb (← int (rgbIdx + 2))
  return .ofBytes r g b

/-- `plane[idx] = value`. -/
def storeAt (pic : Picture) (plane : Plane) (idx : Nat) (value : UInt8) :
    Except Fault Store :=
  if idx < (pic.plane plane).length then .ok ⟨plane, idx, value⟩
  else .error (.write plane idx)

/-! ### The formulas -/

/-- `Y` before the cast. The shift of an `int` is arithmetic. -/
def lumaY (p : Rgb) : Int := (77 * p.r + 150 * p.g + 29 * p.b : Int) >>> (8 : Nat)

/-- `U` before the clamp. -/
def chromaU (p : Rgb) : Int := ((-43 * p.r - 85 * p.g + 128 * p.b : Int) >>> (8 : Nat)) + 128

/-- `V` before the clamp. -/
def chromaV (p : Rgb) : Int := ((128 * p.r - 107 * p.g - 21 * p.b : Int) >>> (8 : Nat)) + 128

/-- The clamp to 0..255. -/
def clamp (n : Int) : Int := if n < 0 then 0 else if n > 255 then 255 else n

/-- `(uint8_t)n`. -/
def castByte (n : Int) : UInt8 := UInt8.ofInt n

/-- The average of the four pixels of a block. The divisions cut off. -/
def averageRgb (p00 p01 p10 p11 : Rgb) : Rgb where
  r := (p00.r + p01.r + p10.r + p11.r) / 4
  g := (p00.g + p01.g + p10.g + p11.g) / 4
  b := (p00.b + p01.b + p10.b + p11.b) / 4
  r_le := by
    have := p00.r_le
    have := p01.r_le
    have := p10.r_le
    have := p11.r_le
    omega
  g_le := by
    have := p00.g_le
    have := p01.g_le
    have := p10.g_le
    have := p11.g_le
    omega
  b_le := by
    have := p00.b_le
    have := p01.b_le
    have := p10.b_le
    have := p11.b_le
    omega

/-! ### The loops -/

/-- The body of the first pair of loops: RGB → Y. -/
def convertLuma (rgb : List UInt8) (pic : Picture) (width y x : Nat) :
    Except Fault (List Store) := do
  let rgbIdx ← int ((y * width + x) * 3)
  let p ← readRgb rgb rgbIdx
  let store ← storeAt pic .y (← int (y * pic.yStride + x)) (castByte (lumaY p))
  return [store]

/-- The body of the second pair of loops: RGB → UV. -/
def convertChroma (rgb : List UInt8) (pic : Picture) (width height y x : Nat) :
    Except Fault (List Store) := do
  let x0 ← int (x * 2)
  let y0 ← int (y * 2)
  -- An even `int` is less than `INT_MAX`.
  let x1 := if x0 + 1 < width then x0 + 1 else x0
  let y1 := if y0 + 1 < height then y0 + 1 else y0
  let idx00 ← int ((y0 * width + x0) * 3)
  let idx01 ← int ((y0 * width + x1) * 3)
  let idx10 ← int ((y1 * width + x0) * 3)
  let idx11 ← int ((y1 * width + x1) * 3)
  -- The source reads these colour by colour.
  let p00 ← readRgb rgb idx00
  let p01 ← readRgb rgb idx01
  let p10 ← readRgb rgb idx10
  let p11 ← readRgb rgb idx11
  let p := averageRgb p00 p01 p10 p11
  let idx ← int (y * pic.uvStride + x)
  let storeU ← storeAt pic .u idx (castByte (clamp (chromaU p)))
  let storeV ← storeAt pic .v idx (castByte (clamp (chromaV p)))
  return [storeU, storeV]

/-- `rgb_to_yuv420p`: the stores into the picture, in order. -/
def rgbToYuv420p (rgb : List UInt8) (pic : Picture) (width height : Nat) :
    Except Fault (List Store) := do
  let luma ← raster width height fun y x => convertLuma rgb pic width y x
  let uvWidth := (← int (width + 1)) / 2
  let uvHeight := (← int (height + 1)) / 2
  let chroma ← raster uvWidth uvHeight fun y x => convertChroma rgb pic width height y x
  return luma ++ chroma

end DoomSat.Encoder
