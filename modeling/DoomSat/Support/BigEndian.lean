import Mathlib.Data.Nat.Bitwise

/-!
# `DoomSat.Support.BigEndian`: words and their big-endian bytes

A C program splits a word into bytes with shifts and masks, and puts it back together with
shifts and ORs. `bytes16` / `bytes32` are the split, `word16` / `word32` the reassembly.

* `toNat_word16` / `toNat_word32`: the reassembled word as a number in base 256.
* `word16_bytes` / `word32_bytes`: the round trips.
* `forall_byte`: a property of every byte by evaluation at the 256 values.

Nothing here depends on the program under verification.
-/

set_option autoImplicit false

namespace DoomSat.Support

/-- A property holds of every byte when it holds of the 256 values. -/
theorem forall_byte {p : UInt8 → Prop} (h : ∀ i : Fin 256, p (UInt8.ofFin i)) (b : UInt8) :
    p b :=
  h b.toFin

/-- The 16-bit word with the big-endian bytes `hi` and `lo`. -/
def word16 (hi lo : UInt8) : UInt16 := (hi.toUInt16 <<< 8) ||| lo.toUInt16

/-- The 32-bit word with the big-endian bytes `b3`, `b2`, `b1` and `b0`. -/
def word32 (b3 b2 b1 b0 : UInt8) : UInt32 :=
  (b3.toUInt32 <<< 24) ||| (b2.toUInt32 <<< 16) ||| (b1.toUInt32 <<< 8) ||| b0.toUInt32

/-- The big-endian bytes of a 16-bit word. -/
def bytes16 (w : UInt16) : List UInt8 :=
  [((w >>> 8) &&& 0xFF).toUInt8, (w &&& 0xFF).toUInt8]

/-- The big-endian bytes of a 32-bit word. -/
def bytes32 (w : UInt32) : List UInt8 :=
  [((w >>> 24) &&& 0xFF).toUInt8, ((w >>> 16) &&& 0xFF).toUInt8,
    ((w >>> 8) &&& 0xFF).toUInt8, (w &&& 0xFF).toUInt8]

/-- A 16-bit value has two bytes. -/
@[simp] theorem length_bytes16 (w : UInt16) : (bytes16 w).length = 2 := rfl

/-- A 32-bit value has four bytes. -/
@[simp] theorem length_bytes32 (w : UInt32) : (bytes32 w).length = 4 := rfl

/-- An OR of a multiple of the power of two `m` and a value below `m` is a sum. -/
theorem mul_or {a b : Nat} (m k : Nat) (hm : m = 2 ^ k) (hb : b < m) :
    a * m ||| b = a * m + b := by
  subst hm
  rw [Nat.mul_comm, Nat.two_pow_add_eq_or_of_lt hb]

/-- Masking with `0xFF` keeps the value modulo 256. -/
theorem and_255 (n : Nat) : n &&& 255 = n % 256 :=
  Nat.and_two_pow_sub_one_eq_mod n 8

/-- The value of a 16-bit word in terms of its bytes. -/
theorem toNat_word16 (hi lo : UInt8) : (word16 hi lo).toNat = hi.toNat * 256 + lo.toNat := by
  have hhi := hi.toNat_lt
  have hlo := lo.toNat_lt
  simp only [word16, UInt16.toNat_or, UInt16.toNat_shiftLeft, UInt8.toNat_toUInt16,
    Nat.shiftLeft_eq]
  rw [Nat.mod_eq_of_lt (by simp; omega)]
  exact mul_or 256 8 rfl hlo

/-- The value of a 32-bit word in terms of its bytes. -/
theorem toNat_word32 (b3 b2 b1 b0 : UInt8) :
    (word32 b3 b2 b1 b0).toNat
      = ((b3.toNat * 256 + b2.toNat) * 256 + b1.toNat) * 256 + b0.toNat := by
  have h3 := b3.toNat_lt
  have h2 := b2.toNat_lt
  have h1 := b1.toNat_lt
  have h0 := b0.toNat_lt
  have s3 : (b3.toUInt32 <<< 24).toNat = b3.toNat * 16777216 := by
    simp [Nat.shiftLeft_eq]; omega
  have s2 : (b2.toUInt32 <<< 16).toNat = b2.toNat * 65536 := by
    simp [Nat.shiftLeft_eq]; omega
  have s1 : (b1.toUInt32 <<< 8).toNat = b1.toNat * 256 := by
    simp [Nat.shiftLeft_eq]; omega
  -- The three ORs, from the top byte down, each over the sum of the bytes above.
  have e1 : b3.toNat * 16777216 ||| b2.toNat * 65536
      = (b3.toNat * 256 + b2.toNat) * 65536 := by
    rw [mul_or 16777216 24 rfl] <;> omega
  have e2 : (b3.toNat * 256 + b2.toNat) * 65536 ||| b1.toNat * 256
      = ((b3.toNat * 256 + b2.toNat) * 256 + b1.toNat) * 256 := by
    rw [mul_or 65536 16 rfl] <;> omega
  simp only [word32, UInt32.toNat_or, s3, s2, s1, UInt8.toNat_toUInt32]
  rw [e1, e2, mul_or 256 8 rfl h0]

/-- One byte of a 16-bit word, as a number. -/
theorem toNat_byte16 (w : UInt16) (k : UInt16) (hk : k.toNat < 16) :
    ((w >>> k) &&& 0xFF).toUInt8.toNat = w.toNat / 2 ^ k.toNat % 256 := by
  simp only [UInt16.toNat_toUInt8, UInt16.toNat_and, UInt16.toNat_shiftRight,
    Nat.mod_eq_of_lt hk, Nat.shiftRight_eq_div_pow]
  rw [show (0xFF : UInt16).toNat = 255 from rfl, and_255]
  omega

/-- One byte of a 32-bit word, as a number. -/
theorem toNat_byte32 (w : UInt32) (k : UInt32) (hk : k.toNat < 32) :
    ((w >>> k) &&& 0xFF).toUInt8.toNat = w.toNat / 2 ^ k.toNat % 256 := by
  simp only [UInt32.toNat_toUInt8, UInt32.toNat_and, UInt32.toNat_shiftRight,
    Nat.mod_eq_of_lt hk, Nat.shiftRight_eq_div_pow]
  rw [show (0xFF : UInt32).toNat = 255 from rfl, and_255]
  omega

/-- A 16-bit word is the word of its own bytes. -/
theorem word16_bytes (w : UInt16) :
    word16 ((w >>> 8) &&& 0xFF).toUInt8 (w &&& 0xFF).toUInt8 = w := by
  have hw := w.toNat_lt
  have h8 := toNat_byte16 w 8 (by decide)
  have h0 := toNat_byte16 w 0 (by decide)
  -- The lowest byte is not shifted in the source.
  simp only [UInt16.shiftRight_zero] at h0
  apply UInt16.toNat_inj.mp
  rw [toNat_word16, h8, h0]
  simp only [UInt16.reduceToNat, Nat.reducePow] at *
  omega

/-- A 32-bit word is the word of its own bytes. -/
theorem word32_bytes (w : UInt32) :
    word32 ((w >>> 24) &&& 0xFF).toUInt8 ((w >>> 16) &&& 0xFF).toUInt8
      ((w >>> 8) &&& 0xFF).toUInt8 (w &&& 0xFF).toUInt8 = w := by
  have hw := w.toNat_lt
  have h24 := toNat_byte32 w 24 (by decide)
  have h16 := toNat_byte32 w 16 (by decide)
  have h8 := toNat_byte32 w 8 (by decide)
  have h0 := toNat_byte32 w 0 (by decide)
  simp only [UInt32.shiftRight_zero] at h0
  apply UInt32.toNat_inj.mp
  rw [toNat_word32, h24, h16, h8, h0]
  simp only [UInt32.reduceToNat, Nat.reducePow] at *
  omega

end DoomSat.Support
