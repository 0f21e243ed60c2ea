import ModLint.Diagnostic.Basic
import ModLint.Text.Blank

/-!
# Places of diagnostics on the command line

A place is a path and a line, with a colon between them. The path may leave out leading directories.
-/

namespace ModLint

/-- A place on the command line. -/
structure Place where
  /-- The path, or the end of it. -/
  file : String
  /-- The line. -/
  line : Nat
deriving DecidableEq

namespace Place

/-- The value of a list of decimal digits, if they are all digits. -/
def digits? : Nat → List Char → Option Nat
  | value, [] => some value
  | value, c :: cs =>
    if '0' ≤ c ∧ c ≤ '9' then digits? (10 * value + (c.toNat - 48)) cs else none

/-- A natural number of 64 bits, with or without a plus sign. -/
def number? (text : List Char) : Option Nat := do
  let digits := match text with
    | '+' :: rest => rest
    | _ => text
  if digits.isEmpty then none
  else
    let value ← digits? 0 digits
    if value < Nat.pow 2 64 then return value else none

/-- Reads a place (`parse_location`). The last colon divides it; the path must not be empty and the
line not zero. -/
def parse? (text : String) : Option Place := do
  let (file, line) ← Text.splitLast? ':' text.toList
  let line ← number? (Text.trim line)
  if file.isEmpty || line == 0 then none else return { file := String.ofList file, line }

/-- A path with slashes in place of backslashes. -/
def slashes (path : List Char) : List Char :=
  path.map fun c => if c = '\\' then '/' else c

/-- A path without the current directory in front of it. -/
def dropCurrent : List Char → List Char
  | '.' :: '/' :: rest => dropCurrent rest
  | path => path

/-- Whether a path ends with the given path. -/
def isPathSuffix (path file : List Char) : Bool :=
  path == file || ('/' :: dropCurrent file).isSuffixOf path

/-- Whether a diagnostic stands at a place (`is_at`). -/
def covers (place : Place) (diagnostic : Diagnostic) : Bool :=
  diagnostic.line == place.line
    && isPathSuffix (slashes diagnostic.file.toList) (slashes place.file.toList)

end Place

end ModLint
