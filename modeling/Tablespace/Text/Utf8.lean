/-!
# UTF-8

Bytes are read as UTF-8 by a machine that takes one byte at a time. Between characters it stands at
`start`; inside a character it knows the bits so far, how many bytes are owed, and which bytes the
next one may be. Where the next byte does not fit, what was read of the character is given up as one
unit without a meaning, and the byte is looked at again as the first of a character.

`decode?` accepts text without such units and `decodeLossy` shows a replacement character for each.
-/

namespace Tablespace.Text.Utf8

/-- Where the machine stands between two bytes. -/
inductive State where
  /-- Between characters. -/
  | start
  /-- Inside a character with the bits `value` so far; `owed + 1` bytes are to come, the next of
  them from `low` to `high`. -/
  | inside (value owed low high : Nat)
  deriving DecidableEq, Repr

/-- The state after the first byte of a character, and the unit it completes. -/
def first (b : Nat) : State × List (Option Char) :=
  if b < 0x80 then (.start, [some (Char.ofNat b)])
  else if 0xC2 ≤ b ∧ b ≤ 0xDF then (.inside (b % 32) 0 0x80 0xBF, [])
  else if b = 0xE0 then (.inside 0 1 0xA0 0xBF, [])
  else if b = 0xED then (.inside 13 1 0x80 0x9F, [])
  else if 0xE1 ≤ b ∧ b ≤ 0xEF then (.inside (b % 16) 1 0x80 0xBF, [])
  else if b = 0xF0 then (.inside 0 2 0x90 0xBF, [])
  else if 0xF1 ≤ b ∧ b ≤ 0xF3 then (.inside (b % 8) 2 0x80 0xBF, [])
  else if b = 0xF4 then (.inside 4 2 0x80 0x8F, [])
  else (.start, [none])

/-- The state after one more byte, and the units it completes. -/
def step : State → Nat → State × List (Option Char)
  | .start, b => first b
  | .inside value owed low high, b =>
    if low ≤ b ∧ b ≤ high then
      match owed with
      | 0 => (.start, [some (Char.ofNat (64 * value + b % 64))])
      | owed + 1 => (.inside (64 * value + b % 64) owed 0x80 0xBF, [])
    else
      ((first b).1, none :: (first b).2)

/-- The units of a byte string, read on from a state: characters, and `none` for what is none. -/
def unitsFrom : State → List UInt8 → List (Option Char)
  | .start, [] => []
  | .inside _ _ _ _, [] => [none]
  | state, b :: bytes => (step state b.toNat).2 ++ unitsFrom (step state b.toNat).1 bytes

/-- The units of a byte string. -/
def units (bytes : List UInt8) : List (Option Char) := unitsFrom .start bytes

/-- The text that the bytes spell, if they are UTF-8. -/
def decode? (bytes : List UInt8) : Option (List Char) := (units bytes).mapM id

/-- The text that the bytes spell, with a replacement character for each unit that is none. -/
def decodeLossy (bytes : List UInt8) : List Char := (units bytes).map (·.getD '\ufffd')

end Tablespace.Text.Utf8
