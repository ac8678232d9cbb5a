/-!
# Text of a given width

Numbers and words are put into columns by filling them up on one side. A text that is wider than its
column is left as it is.
-/

namespace Tablespace.Text

/-- The text with spaces before it up to `width` characters. -/
def alignRight (width : Nat) (text : String) : String :=
  String.ofList (text.toList.leftpad width ' ')

/-- The text with spaces after it up to `width` characters. -/
def alignLeft (width : Nat) (text : String) : String :=
  String.ofList (text.toList.rightpad width ' ')

/-- The decimal digits of `n` with zeros before them up to `width` digits. -/
def decimal (width n : Nat) : String :=
  String.ofList ((Nat.toDigits 10 n).leftpad width '0')

end Tablespace.Text
