import Mathlib.Algebra.Ring.Nat

/-!
# `DoomSat.Support.Binary32`: single precision values of at least one

A `Binary32` is a non-negative single precision value, `significand / 2 ^ exponent` with a
significand of 24 bits. Three operations of C on such values are given: the quotient of two
integers, the product with an integer, and the conversion to an integer. The first two round
to the nearest value, ties to even, as IEEE 754 does by default.

Nothing here depends on the program under verification.
-/

set_option autoImplicit false

namespace DoomSat.Support

/-- The integer nearest to `n / d`. A tie goes to the even one. -/
def roundHalfEven (n d : Nat) : Nat :=
  let q := n / d
  let r := n % d
  if 2 * r < d then q else if d < 2 * r then q + 1 else q + q % 2

/-- The value `significand / 2 ^ exponent`. -/
structure Binary32 where
  significand : Nat
  exponent : Nat
  deriving DecidableEq, Repr

namespace Binary32

/-- `(float)n / d` for a quotient of at least one. -/
def ofRatio (n d : Nat) : Binary32 :=
  let exponent := 23 - Nat.log2 (n / d)
  ⟨roundHalfEven (n * 2 ^ exponent) d, exponent⟩

/-- `n * b` for an integer `n` that is converted without rounding. -/
def scale (n : Nat) (b : Binary32) : Binary32 :=
  let product := n * b.significand
  -- The bits of the exact product that the significand has no room for.
  let excess := Nat.log2 product + 1 - 24
  ⟨roundHalfEven product (2 ^ excess), b.exponent - excess⟩

/-- `(int)b`. -/
def trunc (b : Binary32) : Nat := b.significand / 2 ^ b.exponent

/-- The product can round down where the exact product is an integer: 90 * (200 / 144) is
125, and the single precision result is below it. -/
example : trunc (scale 90 (ofRatio 200 144)) = 124 := by decide +kernel

end Binary32

end DoomSat.Support
