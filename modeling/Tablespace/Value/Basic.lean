import Tablespace.Bytes
import Tablespace.Text.Hex
import Tablespace.Text.Quoted

/-!
# Field values

What a column of a record holds once its bytes are understood. Bytes without an interpretation are
kept as they are and shown in hexadecimal.
-/

namespace Tablespace

/-- The place of the previous version of a record. -/
structure RollPointer where
  /-- Whether the record has no previous version because it was inserted. -/
  isInsert : Bool
  /-- The rollback segment. -/
  segment : Nat
  /-- The page of the undo log. -/
  page : Nat
  /-- The offset on that page. -/
  offset : Nat
  deriving DecidableEq, Repr

namespace RollPointer

/-- The place that a number packs: one bit, seven bits, four bytes and two bytes. -/
def ofNat (n : Nat) : RollPointer where
  isInsert := n.testBit 55
  segment := n / 2 ^ 48 % 2 ^ 7
  page := n / 2 ^ 16 % 2 ^ 32
  offset := n % 2 ^ 16

/-- The number that packs a place. -/
def toNat (p : RollPointer) : Nat :=
  (if p.isInsert then 2 ^ 55 else 0) + p.segment * 2 ^ 48 + p.page * 2 ^ 16 + p.offset

/-- What was packed is read again, where every part fits into its bits. -/
theorem ofNat_toNat {p : RollPointer} (hsegment : p.segment < 2 ^ 7) (hpage : p.page < 2 ^ 32)
    (hoffset : p.offset < 2 ^ 16) : ofNat p.toNat = p := by
  obtain ⟨isInsert, segment, page, offset⟩ := p
  simp only at hsegment hpage hoffset
  cases isInsert <;>
    simp only [toNat, ofNat, Nat.testBit_eq_decide_div_mod_eq, RollPointer.mk.injEq,
      decide_eq_true_eq, decide_eq_false_iff_not, Bool.false_eq_true, if_true, if_false] <;>
    omega

/-- The written form. -/
def text (p : RollPointer) : String :=
  let isInsert := if p.isInsert then "true" else "false"
  s!"(insert={isInsert}, rseg={p.segment}, page={p.page}, offset={p.offset})"

end RollPointer

/-- The value of a column. -/
inductive FieldValue where
  /-- No value. -/
  | null
  /-- A signed integer. -/
  | int (n : Int)
  /-- An unsigned integer. -/
  | uint (n : Nat)
  /-- Text. -/
  | text (s : String)
  /-- The place of a previous version. -/
  | rollPointer (p : RollPointer)
  /-- Bytes without an interpretation. -/
  | raw (bytes : List UInt8)
  deriving DecidableEq, Repr, Inhabited

namespace FieldValue

/-- The shown form. -/
def display : FieldValue → String
  | null => "NULL"
  | int n => toString n
  | uint n => toString n
  | text s => Text.Quoted.text s
  | rollPointer p => p.text
  | raw bytes => "0x" ++ Text.Hex.text bytes

/-- Whether there is no value. -/
def isNull : FieldValue → Bool
  | null => true
  | _ => false

/-- The value as a natural number. -/
def toNat? : FieldValue → Option Nat
  | uint n => some n
  | int n => n.toNat?
  | _ => none

/-- The value as an integer of 64 bits. -/
def toInt? : FieldValue → Option Int
  | int n => some n
  | uint n => if n < 2 ^ 63 then some n else none
  | _ => none

/-- The value as text. -/
def toText? : FieldValue → Option String
  | text s => some s
  | _ => none

end FieldValue

end Tablespace
