import Tablespace.Json
import Tablespace.Text.Styled

/-!
# Printers

A report says which values stand in its JSON form and which of its texts are in which style. The
text of a JSON value and the characters that put a text in a style come from a printer, whatever it
is. `Printer.Faithful` is what the reports rely on, and `Printer.terminal` the printer of the
program.
-/

namespace Tablespace

open Text (Style)

/-- What the reports are printed with. -/
structure Printer where
  /-- The text of a JSON value over several lines, or why it has none. -/
  json : Json → Except String String
  /-- A text in a style, given whether styling is on. -/
  paint : (styled : Bool) → Text.Painter

namespace Printer

/-- Every JSON value has a text; where styling is off a text stays as it is, and where it is on no
character is lost. -/
structure Faithful (printer : Printer) : Prop where
  json : ∀ value, ∃ text, printer.json value = .ok text
  plain : ∀ style text, printer.paint false style text = text
  styled : ∀ style (text : String), text.toList.Sublist (printer.paint true style text).toList

/-- The printer of the program, which knows the sequences of a terminal. -/
def terminal : Printer where
  json value := .ok value.pretty
  paint styled style text := if styled then style.paint text else text

theorem terminal_faithful : terminal.Faithful where
  json value := ⟨value.pretty, rfl⟩
  plain _ _ := rfl
  styled := Style.sublist_paint

end Printer

end Tablespace
