import ModLint.Json.Basic
import ModLint.Text.Bytes
import ModLint.Text.Quoted

/-!
# Edits of source texts
-/

namespace ModLint

/-- The replacement of a range of a text, in bytes. -/
structure TextEdit where
  /-- Where the range starts. -/
  start : Nat
  /-- Where it stops; an insertion stops where it starts. -/
  stop : Nat
  /-- What takes its place. -/
  replacement : String
deriving DecidableEq

namespace TextEdit

/-- The insertion of a text at a position. -/
def insert (position : Nat) (text : String) : TextEdit :=
  { start := position, stop := position, replacement := text }

/-- Edits a text, unless the range is not a range of it or would cut a character. -/
def apply (edit : TextEdit) (text : String) : Option String := do
  if edit.stop < edit.start then none
  else
    let (before, rest) ← Text.splitAtByte? edit.start text.toList
    let (_, after) ← Text.splitAtByte? (edit.stop - edit.start) rest
    return String.ofList (before ++ edit.replacement.toList ++ after)

/-- An edit in words. -/
def display (edit : TextEdit) : String :=
  if edit.start = edit.stop then
    "insert " ++ Text.quoted edit.replacement ++ " at byte " ++ toString edit.start
  else
    "replace bytes " ++ toString edit.start ++ ".." ++ toString edit.stop ++ " with "
      ++ Text.quoted edit.replacement

/-- An edit as an object. -/
def toJson (edit : TextEdit) : Json :=
  .obj
    [("start", .nat edit.start), ("end", .nat edit.stop),
      ("replacement", .str edit.replacement)]

end TextEdit

end ModLint
