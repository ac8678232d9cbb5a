/-!
# Styled text

A terminal shows a text in a style between a control sequence that begins the style and one that
ends all styles.
-/

namespace Tablespace.Text

/-- A style of the reports. -/
inductive Style where
  /-- Heavy type, for headings and names. -/
  | bold
  /-- Red, for what is broken. -/
  | red
  /-- Green, for what is in order. -/
  | green
  /-- Yellow, for what deserves a look. -/
  | yellow
  deriving DecidableEq, Repr

namespace Style

/-- The sequence that begins a style. -/
def opening : Style → List Char
  | bold => ['\x1b', '[', '1', 'm']
  | red => ['\x1b', '[', '3', '1', 'm']
  | green => ['\x1b', '[', '3', '2', 'm']
  | yellow => ['\x1b', '[', '3', '3', 'm']

/-- The sequence that ends all styles. -/
def closing : List Char := ['\x1b', '[', '0', 'm']

/-- The characters of a text in a style: the style begins again after every sequence in the text
that ends all styles. -/
def resumed (style : Style) : List Char → List Char
  | '\x1b' :: '[' :: '0' :: 'm' :: rest => closing ++ style.opening ++ resumed style rest
  | c :: rest => c :: resumed style rest
  | [] => []

/-- The text between the sequences of a style. -/
def paint (style : Style) (text : String) : String :=
  String.ofList (style.opening ++ style.resumed text.toList ++ closing)

theorem sublist_resumed (style : Style) (text : List Char) :
    text.Sublist (style.resumed text) := by
  fun_induction resumed style text with
  | case1 rest ih =>
    rw [List.append_assoc]
    exact (List.Sublist.refl closing).append (ih.trans (List.sublist_append_right _ _))
  | case2 c rest _ ih => exact ih.cons_cons c
  | case3 => exact List.Sublist.refl []

/-- No character of the text is lost. -/
theorem sublist_paint (style : Style) (text : String) :
    text.toList.Sublist (style.paint text).toList := by
  rw [paint, String.toList_ofList]
  exact (style.sublist_resumed text.toList).trans
    ((List.sublist_append_right _ _).trans (List.sublist_append_left _ _))

end Style

/-- How the texts of a report are styled. -/
abbrev Painter := Style → String → String

end Tablespace.Text
