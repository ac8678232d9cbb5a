import Tablespace.Column.DataType
import Tablespace.Error
import Tablespace.Text.Blank
import Tablespace.Text.Number
import Tablespace.Text.Split

/-!
# Written types

The written form of a type is the one that table definitions use: a name, for some types a size in
brackets, and for integers perhaps the word `UNSIGNED`. `DataType.ofDefinition` reads a written form
and `DataType.name` writes one. Reading takes letters of either case, blanks at the ends and several
names for one type.
-/

namespace Tablespace

namespace DataType

/-- The written form of a type. -/
def name : DataType → String
  | integer width unsigned =>
    let base :=
      match width with
      | 1 => "TINYINT"
      | 2 => "SMALLINT"
      | 3 => "MEDIUMINT"
      | 4 => "INT"
      | 6 => "INT6"
      | _ => "BIGINT"
    if unsigned then base ++ " UNSIGNED" else base
  | char length => s!"CHAR({length})"
  | varChar maxLength => s!"VARCHAR({maxLength})"
  | multiByteChar maxLength => s!"MBCHAR({maxLength})"
  | binary length => s!"BINARY({length})"
  | varBinary maxLength => s!"VARBINARY({maxLength})"
  | blob => "BLOB"
  | transactionId => "TRX_ID"
  | rollPointer => "ROLL_PTR"
  | rowId => "ROW_ID"
  | uninterpreted code length => s!"OPAQUE(mtype={code}, len={length})"

/-- The letters in upper case, other characters as they are. -/
def upper (cs : List Char) : List Char := cs.map Char.toUpper

/-- The width of the integer type of this name. -/
def integerWidth? (base : String) : Option Nat :=
  if base ∈ ["BOOL", "BOOLEAN", "TINYINT"] then some 1
  else if base = "SMALLINT" then some 2
  else if base = "MEDIUMINT" then some 3
  else if base ∈ ["INT", "INTEGER"] then some 4
  else if base = "INT6" then some 6
  else if base = "BIGINT" then some 8
  else none

/-- The type of this name that takes a size. -/
def sized? (base : String) : Option (Nat → DataType) :=
  if base = "CHAR" then some char
  else if base = "VARCHAR" then some varChar
  else if base = "BINARY" then some binary
  else if base = "VARBINARY" then some varBinary
  else none

/-- The type of this name that takes nothing. -/
def plain? (base : String) : Option DataType :=
  if base ∈ ["TINYBLOB", "BLOB", "MEDIUMBLOB", "LONGBLOB", "TINYTEXT", "TEXT", "MEDIUMTEXT",
      "LONGTEXT"] then some blob
  else if base = "TRX_ID" then some transactionId
  else if base = "ROLL_PTR" then some rollPointer
  else if base = "ROW_ID" then some rowId
  else none

/-- The type with the given name, size and further words. -/
def ofParts (base size properties : List Char) : Except Error DataType :=
  let base := String.ofList (upper (Text.trim base))
  let size := Text.trim size
  let unsigned := (Text.words properties).any (upper · = "UNSIGNED".toList)
  match integerWidth? base, sized? base, plain? base with
  | some width, _, _ => .ok (integer width unsigned)
  | none, some type, _ =>
    match Text.Number.read? size with
    | some n => .ok (type n)
    | none => .error (.unknownType (base ++ "(" ++ String.ofList size ++ ")"))
  | none, none, some type => .ok type
  | none, none, none => .error (.unknownType base)

/-- The name and the size in a word such as `CHAR(10)`: the size stands between the first opening
and the last closing bracket. -/
def splitSize (word : List Char) : List Char × List Char :=
  match Text.splitFirst (· == '(') word with
  | (base, some rest) =>
    match Text.splitFirst (· == ')') rest.reverse with
    | (_, some size) => (base, size.reverse)
    | (_, none) => (word, [])
  | (_, none) => (word, [])

/-- The type that a definition describes. -/
def ofDefinition (definition : List Char) : Except Error DataType :=
  let (word, properties) := Text.splitFirst (· == ' ') (Text.trim definition)
  let (base, size) := splitSize word
  ofParts base size (properties.getD [])

end DataType

end Tablespace
