/-!
# Column types

A column type says how the bytes of a value are to be read and how many there are. Some types have
one width for all values; for the others each record says how long its value is.

Main statement: `isVariable_of_allowsLongLength`, only a variable column has a length of two bytes.
-/

namespace Tablespace

/-- The type of a column, as far as the decoding of records is concerned. -/
inductive DataType where
  /-- An integer of so many bytes. -/
  | integer (width : Nat) (unsigned : Bool)
  /-- Text of a fixed number of bytes. -/
  | char (length : Nat)
  /-- Text of a fixed number of characters that take a varying number of bytes. -/
  | multiByteChar (maxLength : Nat)
  /-- Text of varying length. -/
  | varChar (maxLength : Nat)
  /-- Bytes of a fixed number. -/
  | binary (length : Nat)
  /-- Bytes of varying number. -/
  | varBinary (maxLength : Nat)
  /-- Long text or bytes, possibly stored on pages of its own. -/
  | blob
  /-- The number of the transaction that wrote a record. -/
  | transactionId
  /-- The place of the previous version of a record. -/
  | rollPointer
  /-- The number of a row in a table without primary key. -/
  | rowId
  /-- A type of the catalog that has no meaning here, with its code. -/
  | uninterpreted (code length : Nat)
  deriving DecidableEq, Repr, Inhabited

namespace DataType

/-- The width of a stored value, if it is the same for all values. -/
def fixedWidth : DataType → Option Nat
  | integer width _ => some width
  | char length | binary length | uninterpreted _ length => some length
  | transactionId | rowId => some 6
  | rollPointer => some 7
  | multiByteChar _ | varChar _ | varBinary _ | blob => none

/-- Whether each record says how long its value is. -/
def isVariable (type : DataType) : Bool := type.fixedWidth.isNone

/-- Whether the length of a value may take two bytes in a compact record. -/
def allowsLongLength : DataType → Bool
  | blob => true
  | varChar maxLength | multiByteChar maxLength | varBinary maxLength => decide (255 < maxLength)
  | _ => false

/-- Only a variable column has a length of two bytes. -/
theorem isVariable_of_allowsLongLength {type : DataType} (h : type.allowsLongLength = true) :
    type.isVariable = true := by
  cases type <;> first | rfl | simp [allowsLongLength] at h

end DataType

end Tablespace
