import Tablespace.Text.Align

/-!
# Hexadecimal text

Bytes are written as two lower-case hexadecimal digits each, without anything between them; `encode`
writes and `decode?` reads. Offsets and 32-bit fields have written forms of their own.

Main statement: `decode?_encode`, reading what was written gives the bytes.
-/

namespace Tablespace.Text.Hex

/-- The lower-case digit of a number below sixteen. -/
def digit (n : Nat) : Char := Nat.digitChar n

/-- The number of a lower-case hexadecimal digit. -/
def digit? (c : Char) : Option Nat :=
  if '0' ≤ c ∧ c ≤ '9' then some (c.toNat - '0'.toNat)
  else if 'a' ≤ c ∧ c ≤ 'f' then some (c.toNat - 'a'.toNat + 10)
  else none

/-- The two digits of a byte. -/
def pair (b : UInt8) : List Char := [digit (b.toNat / 16), digit (b.toNat % 16)]

/-- The digits of a byte string. -/
def encode (bytes : List UInt8) : List Char := bytes.flatMap pair

/-- The byte string that digits spell, if they come in pairs. -/
def decode? : List Char → Option (List UInt8)
  | [] => some []
  | [_] => none
  | high :: low :: rest =>
    match digit? high, digit? low with
    | some h, some l => (decode? rest).map (UInt8.ofNat (16 * h + l) :: ·)
    | _, _ => none

/-- The digits of a byte string as one text. -/
def text (bytes : List UInt8) : String := String.ofList (encode bytes)

/-- A number in hexadecimal, with at least `width` digits. -/
def number (width n : Nat) : List Char := (Nat.toDigits 16 n).leftpad width '0'

/-- An offset in decimal and hexadecimal. -/
def offset (n : Nat) : String := toString n ++ " (0x" ++ String.ofList (number 1 n) ++ ")"

/-- A 32-bit field with all its digits. -/
def word (n : Nat) : String := "0x" ++ String.ofList (number 8 n)

/-- The digits stand for the numbers below sixteen. -/
theorem digit?_digit {n : Nat} (h : n < 16) : digit? (digit n) = some n := by
  have all : ∀ m ∈ List.range 16, digit? (digit m) = some m := by decide
  exact all n (List.mem_range.2 h)

theorem decode?_pair_append (b : UInt8) (rest : List Char) :
    decode? (pair b ++ rest) = (decode? rest).map (b :: ·) := by
  have hb : b.toNat < 256 := b.toNat_lt
  have hsum : 16 * (b.toNat / 16) + b.toNat % 16 = b.toNat := by omega
  simp only [pair, List.cons_append, List.nil_append, decode?,
    digit?_digit (show b.toNat / 16 < 16 by omega), digit?_digit (show b.toNat % 16 < 16 by omega),
    hsum, UInt8.ofNat_toNat]

/-- Reading what was written gives the bytes. -/
theorem decode?_encode (bytes : List UInt8) : decode? (encode bytes) = some bytes := by
  induction bytes with
  | nil => rfl
  | cons b bytes ih =>
    rw [encode, List.flatMap_cons, decode?_pair_append, ← encode, ih, Option.map_some]

end Tablespace.Text.Hex
