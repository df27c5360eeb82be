import Mathlib.Algebra.BigOperators.Group.List.Basic

/-!
# `DoomSat.Support.Meter`: a counter with an interval

A meter adds up amounts, once since the start and once since the last reading. A reading
returns the amount of the interval and starts a new one.

`Conserves` is the invariant: the total is the sum of all amounts, and the readings so far and
the open interval add up to it. It holds of a new meter, and both operations keep it.

Amounts of an arbitrary additive monoid are allowed. Nothing here depends on the program under
verification.
-/

set_option autoImplicit false

namespace DoomSat.Support

/-- The amount since the last reading, and the amount since the start. -/
@[ext]
structure Meter (α : Type) where
  interval : α
  total : α

namespace Meter

variable {α : Type} [AddMonoid α]

/-- A new meter. -/
def zero : Meter α := ⟨0, 0⟩

/-- Adds an amount. -/
def add (meter : Meter α) (amount : α) : Meter α :=
  ⟨meter.interval + amount, meter.total + amount⟩

/-- The meter after a reading. -/
def read (meter : Meter α) : Meter α := ⟨0, meter.total⟩

/-- The meter has added these amounts, and its readings are these. -/
structure Conserves (meter : Meter α) (amounts readings : List α) : Prop where
  total : meter.total = amounts.sum
  interval : readings.sum + meter.interval = meter.total

/-- A fresh meter has counted nothing and shown nothing. -/
theorem Conserves.zero : Conserves (zero : Meter α) [] [] :=
  ⟨rfl, add_zero _⟩

/-- An amount that is added is in the interval until the next reading. -/
theorem Conserves.add {meter : Meter α} {amounts readings : List α}
    (h : Conserves meter amounts readings) (amount : α) :
    Conserves (meter.add amount) (amounts ++ [amount]) readings := by
  constructor
  · rw [List.sum_append, List.sum_singleton, ← h.total]
    rfl
  · show readings.sum + (meter.interval + amount) = meter.total + amount
    rw [← add_assoc, h.interval]

/-- A reading moves the interval into the readings. -/
theorem Conserves.read {meter : Meter α} {amounts readings : List α}
    (h : Conserves meter amounts readings) :
    Conserves meter.read amounts (readings ++ [meter.interval]) := by
  constructor
  · exact h.total
  · show (readings ++ [meter.interval]).sum + 0 = meter.total
    rw [List.sum_append, List.sum_singleton, add_zero, h.interval]

end Meter

end DoomSat.Support
