import Tablespace.Bytes

/-!
# Stored integers

A signed integer of `width` bytes is stored in excess of `2 ^ (8 * width - 1)`, so that the stored
numbers are in the order of the integers. Unsigned integers are stored as they are.

Main statements: `Signed.decode_encode` and `Signed.encode_decode`, reading and writing are inverse
to each other up to the width.
-/

namespace Tablespace.Signed

/-- The number that stands for zero. -/
def bias (width : Nat) : Nat := 2 ^ (8 * width - 1)

/-- The integer that a number stands for; only the lowest `width` bytes count. -/
def decode (width raw : Nat) : Int := (raw % 256 ^ width : Nat) - (bias width : Int)

/-- The number that stands for an integer, reduced to `width` bytes. -/
def encode (width : Nat) (value : Int) : Nat := ((value + bias width) % (256 ^ width : Nat)).toNat

/-- The integer that a byte string of one to eight bytes stands for. -/
def ofBytes? (bytes : List UInt8) : Option Int :=
  if 1 ≤ bytes.length ∧ bytes.length ≤ 8 then some (decode bytes.length (bigEndian bytes)) else none

theorem encode_lt (width : Nat) (value : Int) : encode width value < 256 ^ width := by
  have hpos : (0 : Int) < (256 ^ width : Nat) := by exact_mod_cast Nat.pow_pos (by decide)
  have h := Int.emod_lt_of_pos (value + bias width) hpos
  have h0 := Int.emod_nonneg (value + bias width) (Int.ne_of_gt hpos)
  unfold encode
  omega

/-- What was read is written again, but for bytes above the width. -/
theorem encode_decode (width raw : Nat) : encode width (decode width raw) = raw % 256 ^ width := by
  have : (decode width raw + bias width) = ((raw % 256 ^ width : Nat) : Int) := by
    unfold decode
    omega
  rw [encode, this, ← Int.natCast_emod, Int.toNat_natCast, Nat.mod_mod]

/-- What was written is read again, but for multiples of `256 ^ width`. -/
theorem decode_encode (width : Nat) (value : Int) :
    (decode width (encode width value) - value) % (256 ^ width : Nat) = 0 := by
  have hpos : (0 : Int) < (256 ^ width : Nat) := by exact_mod_cast Nat.pow_pos (by decide)
  have h0 := Int.emod_nonneg (value + bias width) (Int.ne_of_gt hpos)
  have hlt := encode_lt width value
  rw [decode, Nat.mod_eq_of_lt hlt, encode, Int.toNat_of_nonneg h0]
  have := Int.emod_add_mul_ediv (value + bias width) (256 ^ width : Nat)
  have hsub : (value + bias width) % (256 ^ width : Nat) - (bias width : Int) - value
      = -(((256 ^ width : Nat) : Int) * ((value + bias width) / (256 ^ width : Nat))) := by
    omega
  rw [hsub]
  simp

end Tablespace.Signed
