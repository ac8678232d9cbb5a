import Tablespace.Numeral

/-!
# Written numbers

A number is written with decimal digits, perhaps after a plus sign, and has to fit into 64 bits.
-/

namespace Tablespace.Text.Number

/-- The value of a decimal digit. -/
def digit? (c : Char) : Option Nat :=
  if '0' ≤ c ∧ c ≤ '9' then some (c.toNat - '0'.toNat) else none

/-- The number that decimal digits spell, read on from `n`. -/
def digitsFrom (n : Nat) : List Char → Option Nat
  | [] => some n
  | c :: cs =>
    match digit? c with
    | some d => digitsFrom (10 * n + d) cs
    | none => none

/-- The number that a non-empty row of decimal digits spells. -/
def digits? : List Char → Option Nat
  | [] => none
  | cs => digitsFrom 0 cs

/-- The number in a text, if it fits into 64 bits. -/
def read? (cs : List Char) : Option Nat :=
  let digits :=
    match cs with
    | '+' :: rest => rest
    | _ => cs
  (digits? digits).filter (· < 2 ^ 64)

end Tablespace.Text.Number
