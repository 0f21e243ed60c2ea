/-!
# Blank characters, trimming and lines

A character is *blank* when it has the Unicode property `White_Space`. Trimming removes blanks from
both ends of a text. A text is cut into lines at line feeds; a carriage return directly before the
line feed belongs to the line end, and a final line feed opens no further line.
-/

namespace ModLint.Text

/-- The Unicode property `White_Space`. -/
def isBlank (c : Char) : Bool :=
  let n := c.toNat
  (9 ≤ n && n ≤ 13) || n == 32 || n == 0x85 || n == 0xA0 || n == 0x1680
    || (0x2000 ≤ n && n ≤ 0x200A) || n == 0x2028 || n == 0x2029 || n == 0x202F
    || n == 0x205F || n == 0x3000

/-- Drops the blanks at the start. -/
def trimStart (cs : List Char) : List Char :=
  cs.dropWhile isBlank

/-- Drops the blanks at the end. -/
def trimEnd : List Char → List Char
  | [] => []
  | c :: cs =>
    match trimEnd cs with
    | [] => if isBlank c then [] else [c]
    | d :: ds => c :: d :: ds

/-- Drops the blanks at both ends. -/
def trim (cs : List Char) : List Char :=
  trimEnd (trimStart cs)

/-- `trim` on strings. -/
def trimmed (s : String) : String :=
  String.ofList (trim s.toList)

/-- Removes one carriage return at the end of a line. -/
def dropCarriageReturn : List Char → List Char
  | [] => []
  | ['\r'] => []
  | c :: cs => c :: dropCarriageReturn cs

/-- Cuts a text at every occurrence of `sep`; a text without it is one piece. -/
def splitAtEach (sep : Char) : List Char → List (List Char)
  | [] => [[]]
  | c :: cs =>
    if c == sep then [] :: splitAtEach sep cs
    else
      match splitAtEach sep cs with
      | [] => [[c]]
      | piece :: rest => (c :: piece) :: rest

/-- The lines of a text. A line loses its carriage return only if a line feed ends it, and the
piece after the last line feed is a line only if it is not empty. -/
def lines (text : List Char) : List (List Char) :=
  close (splitAtEach '\n' text)
where
  /-- Turns the pieces between line feeds into lines. -/
  close : List (List Char) → List (List Char)
    | [] => []
    | [last] => if last.isEmpty then [] else [last]
    | piece :: rest => dropCarriageReturn piece :: close rest

/-- The text before and after the first `sep`, if there is one. -/
def splitFirst? (sep : Char) : List Char → Option (List Char × List Char)
  | [] => none
  | c :: cs =>
    if c == sep then some ([], cs)
    else (splitFirst? sep cs).map fun (before, after) => (c :: before, after)

/-- The text before and after the last `sep`, if there is one. -/
def splitLast? (sep : Char) : List Char → Option (List Char × List Char)
  | [] => none
  | c :: cs =>
    match splitLast? sep cs with
    | some (before, after) => some (c :: before, after)
    | none => if c == sep then some ([], cs) else none

/-- Replaces every occurrence of a non-empty `pattern`, from the left, by `replacement`. -/
def replaceAll (pattern replacement : List Char) (text : List Char) : List Char :=
  go 0 text
where
  /-- Walks over the text; the next `skip` characters belong to an occurrence already replaced. -/
  go : Nat → List Char → List Char
    | _, [] => []
    | skip + 1, _ :: cs => go skip cs
    | 0, c :: cs =>
      if pattern.isPrefixOf (c :: cs) then replacement ++ go (pattern.length - 1) cs
      else c :: go 0 cs

end ModLint.Text
