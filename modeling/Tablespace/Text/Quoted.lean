import Tablespace.Text.Hex
import Tablespace.Text.Unprintable

/-!
# Quoted text

A text is shown between double quotes. The quote, the backslash and the common control characters
are written as a backslash and one character, any other unprintable character by its code point.
-/

namespace Tablespace.Text.Quoted

/-- What stands for a character between the quotes. -/
def escape (c : Char) : List Char :=
  if c = '"' then ['\\', '"']
  else if c = '\\' then ['\\', '\\']
  else if c = '\n' then ['\\', 'n']
  else if c = '\r' then ['\\', 'r']
  else if c = '\t' then ['\\', 't']
  else if c = '\u0000' then ['\\', '0']
  else if isUnprintable c then ['\\', 'u', '{'] ++ Hex.number 1 c.toNat ++ ['}']
  else [c]

/-- The text between quotes. -/
def encode (s : List Char) : List Char := '"' :: s.flatMap escape ++ ['"']

/-- The text between quotes, as one string. -/
def text (s : String) : String := String.ofList (encode s.toList)

end Tablespace.Text.Quoted
