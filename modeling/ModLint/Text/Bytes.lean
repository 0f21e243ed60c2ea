/-!
# Positions in bytes

Positions in a text count the bytes of its UTF-8 form. A text can be cut only between characters.
-/

namespace ModLint.Text

/-- Cuts a text after a number of bytes. There is no cut inside a character or behind the end. -/
def splitAtByte? : Nat → List Char → Option (List Char × List Char)
  | 0, cs => some ([], cs)
  | _ + 1, [] => none
  | n + 1, c :: cs =>
    if n + 1 < c.utf8Size then none
    else (splitAtByte? (n + 1 - c.utf8Size) cs).map fun (before, after) => (c :: before, after)

/-- The text between two positions. -/
def slice? (start stop : Nat) (cs : List Char) : Option (List Char) := do
  if stop < start then none
  else
    let (_, rest) ← splitAtByte? start cs
    let (middle, _) ← splitAtByte? (stop - start) rest
    return middle

end ModLint.Text
