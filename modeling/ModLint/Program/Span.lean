/-!
# Positions in source files
-/

namespace ModLint

/-- A range of a source file, in bytes and in lines and columns. -/
structure Span where
  /-- The first byte, counted from zero. -/
  startByte : Nat
  /-- The byte behind the last one. -/
  endByte : Nat
  /-- The first line, counted from one. -/
  startLine : Nat
  /-- The first column, counted from one. -/
  startColumn : Nat
  /-- The last line; zero if it is not known. -/
  endLine : Nat := 0
  /-- The last column; zero if it is not known. -/
  endColumn : Nat := 0
deriving DecidableEq

/-- Whether two spans cover the same bytes (`same_range`). -/
def Span.sameRange (a b : Span) : Bool :=
  a.startByte == b.startByte && a.endByte == b.endByte

/-- How many bytes a span covers. -/
def Span.length (span : Span) : Nat :=
  span.endByte - span.startByte

/-- Whether a span covers no byte. -/
def Span.isEmpty (span : Span) : Bool :=
  span.length == 0

/-- The start of a span as `line:column`. -/
def Span.display (span : Span) : String :=
  toString span.startLine ++ ":" ++ toString span.startColumn

/-- A span in a file. -/
structure Location where
  /-- The path of the file. -/
  file : String
  /-- The range in it. -/
  span : Span
deriving DecidableEq

/-- The line a location starts on. -/
def Location.line (location : Location) : Nat :=
  location.span.startLine

/-- The column a location starts at. -/
def Location.column (location : Location) : Nat :=
  location.span.startColumn

/-- A location as `file:line:column`. -/
def Location.display (location : Location) : String :=
  location.file ++ ":" ++ location.span.display

end ModLint
