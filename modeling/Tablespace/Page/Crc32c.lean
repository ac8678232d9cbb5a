/-!
# CRC-32C

The cyclic redundancy check with the Castagnoli polynomial, bits taken from the least significant
end. The register takes a byte by eight steps of one bit each, starts with all bits set and is
inverted at the end.

Checksums are computed with whatever `Functions` they are given, and `Functions.Castagnoli` says
that these compute this check. The functions of this file, which take bit by bit, are `bitwise`.

Main statement: `resume_check`, the check of two parts joined goes on from where the first ended.
-/

namespace Tablespace.Crc32c

/-- The functions of a library that computes checks. -/
structure Functions where
  /-- The check of a byte string. -/
  check : List UInt8 → UInt32
  /-- The check of a byte string that comes after another one, from the check of that one. -/
  append : UInt32 → List UInt8 → UInt32

/-- The polynomial, with the bit of the highest power at the least significant end. -/
def polynomial : UInt32 := 0x82F63B78

/-- The register after one more bit. -/
def shift (register : UInt32) : UInt32 :=
  if register &&& 1 = 1 then (register >>> 1) ^^^ polynomial else register >>> 1

/-- The register after one more byte. -/
def step (register : UInt32) (b : UInt8) : UInt32 :=
  shift (shift (shift (shift (shift (shift (shift (shift (register ^^^ b.toUInt32))))))))

/-- The register after the bytes. -/
def register (start : UInt32) (bytes : List UInt8) : UInt32 := bytes.foldl step start

/-- The check of a byte string. -/
def check (bytes : List UInt8) : UInt32 := ~~~register 0xFFFFFFFF bytes

/-- The check of a byte string that comes after another one, from the check of that one. -/
def resume (before : UInt32) (bytes : List UInt8) : UInt32 := ~~~register (~~~before) bytes

/-- The register goes on over the second part from where the first part left it. -/
theorem register_append (start : UInt32) (first second : List UInt8) :
    register start (first ++ second) = register (register start first) second :=
  List.foldl_append

/-- Going on from the check of the first part gives the check of both. -/
theorem resume_check (first second : List UInt8) :
    resume (check first) second = check (first ++ second) := by
  rw [resume, check, check, UInt32.not_not, register_append]

/-- The functions compute the check of this file, and go on from the check of one part to that of
two parts joined. -/
structure Functions.Castagnoli (crc : Functions) : Prop where
  check_eq : ∀ bytes, crc.check bytes = Crc32c.check bytes
  append_check : ∀ first second, crc.append (crc.check first) second = crc.check (first ++ second)

/-- The functions of this file. -/
def bitwise : Functions where
  check := check
  append := resume

theorem bitwise_castagnoli : bitwise.Castagnoli where
  check_eq _ := rfl
  append_check := resume_check

/-- The check of the nine digits, which every description of the polynomial gives. -/
example : check [49, 50, 51, 52, 53, 54, 55, 56, 57] = 0xE3069283 := by decide +kernel

end Tablespace.Crc32c
