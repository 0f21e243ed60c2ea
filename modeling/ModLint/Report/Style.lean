import ModLint.Text.Blank

/-!
# Styled text

Text for a terminal may be styled. A style is written in front of the text and taken back behind
it; without colours a styled text is the text itself.
-/

namespace ModLint

/-- A style of text. -/
inductive Style where
  /-- Bold. -/
  | bold
  /-- Dimmed. -/
  | dimmed
  /-- Red. -/
  | red
  /-- Green. -/
  | green
  /-- Yellow. -/
  | yellow
  /-- Blue. -/
  | blue
  /-- Bold and cyan. -/
  | title
deriving DecidableEq

namespace Style

/-- The codes of a style. -/
def codes : Style → String
  | .bold => "1"
  | .dimmed => "2"
  | .red => "31"
  | .green => "32"
  | .yellow => "33"
  | .blue => "34"
  | .title => "1;36"

/-- The sequence that switches a style on. -/
def opening (style : Style) : String :=
  "\x1b[" ++ style.codes ++ "m"

/-- The sequence that switches every style off. -/
def closing : String :=
  "\x1b[0m"

/-- A styled text. Where the text itself switches all styles off, the style is switched on again. -/
def paint (style : Style) (color : Bool) (text : String) : String :=
  if color then
    let inner := Text.replaceAll closing.toList (closing ++ style.opening).toList text.toList
    style.opening ++ String.ofList inner ++ closing
  else text

end Style

/-- A text with blanks behind it up to a width. -/
def padded (width : Nat) (text : String) : String :=
  text ++ String.ofList (List.replicate (width - text.length) ' ')

end ModLint
