import Tablespace.Column.DataType
import Tablespace.Text.Utf8
import Tablespace.Value.Basic
import Tablespace.Value.Integer

/-!
# Values from bytes

`FieldValue.decode` gives the bytes of a column their meaning, as the type of the column says. Where
the bytes do not fit the type they are kept uninterpreted.
-/

namespace Tablespace

/-- The bytes without the spaces at their end. -/
def trimSpaces (bytes : List UInt8) : List UInt8 :=
  (bytes.reverse.dropWhile (· == 0x20)).reverse

namespace FieldValue

/-- The unsigned integer of one to eight bytes. -/
def uint? (bytes : List UInt8) : Option FieldValue :=
  if 1 ≤ bytes.length ∧ bytes.length ≤ 8 then some (uint (bigEndian bytes)) else none

/-- The value that bytes have under a type, if they fit the type. -/
def decode? (type : DataType) (bytes : List UInt8) : Option FieldValue :=
  match type with
  | .integer _ true => uint? bytes
  | .integer _ false => (Signed.ofBytes? bytes).map int
  | .transactionId | .rowId => uint? bytes
  | .rollPointer =>
    if bytes.length = 7 then some (rollPointer (.ofNat (bigEndian bytes))) else none
  | .char _ | .multiByteChar _ | .varChar _ =>
    some (text (String.ofList (Text.Utf8.decodeLossy (trimSpaces bytes))))
  | .blob => (Text.Utf8.decode? bytes).map fun cs => text (String.ofList cs)
  | .binary _ | .varBinary _ | .uninterpreted _ _ => none

/-- The value that bytes have under a type. -/
def decode (type : DataType) (bytes : List UInt8) : FieldValue :=
  (decode? type bytes).getD (raw bytes)

end FieldValue

end Tablespace
