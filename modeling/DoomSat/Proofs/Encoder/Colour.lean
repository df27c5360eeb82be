import DoomSat.Model.Encoder
import Mathlib.Data.Rat.Floor
import Mathlib.Tactic.Linarith
import Mathlib.Tactic.NormNum

/-!
# `DoomSat.Proofs.Encoder.Colour`: the samples of a pixel

The comment of `rgb_to_yuv420p` documents the full-range formulas of BT.601 and the integer
formulas that take their place. `bt601` and `scaled` are these two, with exact arithmetic.

`converted` is what the code computes before it clamps and casts, and `byteOf` is what it
stores. `converted_eq_scaled` says that the shift is the division with the floor,
`converted_range` and `toNat_byteOf` that the clamp and the cast change nothing, and
`converted_near` bounds the distance to BT.601.
-/

set_option autoImplicit false

namespace DoomSat.Encoder

/-! ### The formulas -/

/-- The full-range formulas of BT.601, as the source documents them. -/
def bt601 : Plane → Rgb → ℚ
  | .y, p => 0.299 * p.r + 0.587 * p.g + 0.114 * p.b
  | .u, p => -0.169 * p.r - 0.331 * p.g + 0.500 * p.b + 128
  | .v, p => 0.500 * p.r - 0.419 * p.g - 0.081 * p.b + 128

/-- The integer formulas with the scale 256. -/
def scaled : Plane → Rgb → ℤ
  | .y, p => ⌊(77 * p.r + 150 * p.g + 29 * p.b : ℚ) / 256⌋
  | .u, p => 128 + ⌊(-43 * p.r - 85 * p.g + 128 * p.b : ℚ) / 256⌋
  | .v, p => 128 + ⌊(128 * p.r - 107 * p.g - 21 * p.b : ℚ) / 256⌋

/-- The sample of a grey pixel. -/
def greySample : Plane → Nat → Nat
  | .y, v => v
  | .u, _ => 128
  | .v, _ => 128

/-- What the code computes before the clamp and the cast. -/
def converted : Plane → Rgb → ℤ
  | .y => lumaY
  | .u => chromaU
  | .v => chromaV

/-- What the code stores. -/
def byteOf : Plane → Rgb → UInt8
  | .y, p => castByte (lumaY p)
  | .u, p => castByte (clamp (chromaU p))
  | .v, p => castByte (clamp (chromaV p))

/-! ### The shift -/

/-- The arithmetic shift divides and takes the floor, also for a negative number. A division of
C would round towards zero there. -/
theorem shiftRight_eq_floor (n : ℤ) : n >>> (8 : ℕ) = ⌊(n : ℚ) / 256⌋ := by
  rw [Int.shiftRight_eq_div_pow]
  exact (Rat.floor_intCast_div_natCast n 256).symm

/-- A shifted number is less than 3/2 away from what the unshifted one is within 1/2 of. The
floor takes less than 1 away. -/
theorem shiftRight_near {n : ℤ} {ideal : ℚ} (h : |(n : ℚ) / 256 - ideal| < 1 / 2) :
    |((n >>> (8 : ℕ) : ℤ) : ℚ) - ideal| < 3 / 2 := by
  rw [shiftRight_eq_floor]
  have hle := Int.floor_le ((n : ℚ) / 256)
  have hlt := Int.lt_floor_add_one ((n : ℚ) / 256)
  obtain ⟨hlow, hhigh⟩ := abs_lt.mp h
  rw [abs_lt]
  constructor <;> linarith

/-- The same with the offset of a chroma sample. -/
theorem shiftRight_add_near {n : ℤ} {ideal : ℚ}
    (h : |(n : ℚ) / 256 - (ideal - 128)| < 1 / 2) :
    |((n >>> (8 : ℕ) + 128 : ℤ) : ℚ) - ideal| < 3 / 2 := by
  have hnear := shiftRight_near h
  rw [sub_sub_eq_add_sub] at hnear
  push_cast
  exact hnear

/-! ### The samples -/

/-- The code computes the integer formulas. -/
theorem converted_eq_scaled (plane : Plane) (p : Rgb) :
    converted plane p = scaled plane p := by
  cases plane with
  | y =>
    show (_ : ℤ) >>> (8 : ℕ) = _
    rw [shiftRight_eq_floor]
    push_cast
    rfl
  | u =>
    show (_ : ℤ) >>> (8 : ℕ) + 128 = _
    rw [shiftRight_eq_floor, add_comm]
    push_cast
    rfl
  | v =>
    show (_ : ℤ) >>> (8 : ℕ) + 128 = _
    rw [shiftRight_eq_floor, add_comm]
    push_cast
    rfl

/-- All values are in 0..255 before the clamp and the cast. The weights of Y are positive and
have the sum 256, and those of U and V keep to 128 on both sides. -/
theorem converted_range (plane : Plane) (p : Rgb) :
    0 ≤ converted plane p ∧ converted plane p ≤ 255 := by
  have hr := p.r_le
  have hg := p.g_le
  have hb := p.b_le
  cases plane with
  | y =>
    show 0 ≤ (_ : ℤ) >>> (8 : ℕ) ∧ (_ : ℤ) >>> (8 : ℕ) ≤ 255
    rw [Int.shiftRight_eq_div_pow]
    omega
  | u =>
    show 0 ≤ (_ : ℤ) >>> (8 : ℕ) + 128 ∧ (_ : ℤ) >>> (8 : ℕ) + 128 ≤ 255
    rw [Int.shiftRight_eq_div_pow]
    omega
  | v =>
    show 0 ≤ (_ : ℤ) >>> (8 : ℕ) + 128 ∧ (_ : ℤ) >>> (8 : ℕ) + 128 ≤ 255
    rw [Int.shiftRight_eq_div_pow]
    omega

/-- The clamp does not change a value in its range. -/
theorem clamp_eq_self {n : ℤ} (h : 0 ≤ n ∧ n ≤ 255) : clamp n = n := by
  unfold clamp
  rw [if_neg (by omega), if_neg (by omega)]

/-- The cast does not change a value in the range of a byte. -/
theorem toNat_castByte {n : ℤ} (h : 0 ≤ n ∧ n ≤ 255) : ((castByte n).toNat : ℤ) = n := by
  show ((UInt8.ofNat (n % 2 ^ 8).toNat).toNat : ℤ) = n
  rw [UInt8.toNat_ofNat']
  omega

/-- The clamp and the cast do not change a value in the range of a byte. -/
theorem toNat_castByte_clamp {n : ℤ} (h : 0 ≤ n ∧ n ≤ 255) :
    ((castByte (clamp n)).toNat : ℤ) = n := by
  rw [clamp_eq_self h, toNat_castByte h]

/-- The stored byte is the value before the clamp and the cast. Only the chroma values are
clamped in the code, and no value needs it. -/
theorem toNat_byteOf (plane : Plane) (p : Rgb) :
    ((byteOf plane p).toNat : ℤ) = converted plane p := by
  cases plane with
  | y => exact toNat_castByte (converted_range .y p)
  | u => exact toNat_castByte_clamp (converted_range .u p)
  | v => exact toNat_castByte_clamp (converted_range .v p)

/-- The values are less than 3/2 away from BT.601. The integer weights differ from the exact
ones by less than 1/2 over all pixels, and the floor does the rest. -/
theorem converted_near (plane : Plane) (p : Rgb) :
    |(converted plane p : ℚ) - bt601 plane p| < 3 / 2 := by
  have hr : (p.r : ℚ) ≤ 255 := by exact_mod_cast p.r_le
  have hg : (p.g : ℚ) ≤ 255 := by exact_mod_cast p.g_le
  have hb : (p.b : ℚ) ≤ 255 := by exact_mod_cast p.b_le
  have hr0 : (0 : ℚ) ≤ p.r := Nat.cast_nonneg _
  have hg0 : (0 : ℚ) ≤ p.g := Nat.cast_nonneg _
  have hb0 : (0 : ℚ) ≤ p.b := Nat.cast_nonneg _
  cases plane with
  | y =>
    apply shiftRight_near
    push_cast
    rw [abs_lt, bt601]
    constructor <;> norm_num <;> linarith
  | u =>
    apply shiftRight_add_near
    push_cast
    rw [abs_lt, bt601]
    -- The offset of 128 is in both formulas.
    constructor <;> norm_num <;> linarith
  | v =>
    apply shiftRight_add_near
    push_cast
    rw [abs_lt, bt601]
    constructor <;> norm_num <;> linarith

/-- Grey stays grey: the weights of Y have the sum 256, those of U and V the sum 0. So the shift
is exact for a grey pixel. -/
theorem converted_grey (plane : Plane) {p : Rgb} (hrg : p.r = p.g) (hgb : p.g = p.b) :
    converted plane p = greySample plane p.b := by
  cases plane with
  | y =>
    show (_ : ℤ) >>> (8 : ℕ) = (p.b : ℤ)
    rw [Int.shiftRight_eq_div_pow, hrg, hgb]
    omega
  | u =>
    show (_ : ℤ) >>> (8 : ℕ) + 128 = (128 : ℤ)
    rw [Int.shiftRight_eq_div_pow, hrg, hgb]
    omega
  | v =>
    show (_ : ℤ) >>> (8 : ℕ) + 128 = (128 : ℤ)
    rw [Int.shiftRight_eq_div_pow, hrg, hgb]
    omega

end DoomSat.Encoder
