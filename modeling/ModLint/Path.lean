/-!
# Paths

A path is a text of names with slashes between them. Slashes that follow each other count as one,
and a dot stands for the directory itself, so it counts only at the start.
-/

namespace ModLint.Path

/-- A part of a path. -/
inductive Component where
  /-- The root, in front of an absolute path. -/
  | root
  /-- The directory itself. -/
  | current
  /-- The directory around it. -/
  | parent
  /-- A name. -/
  | name (text : String)
deriving DecidableEq

/-- The pieces of a text between slashes. -/
def pieces : List Char → List (List Char)
  | [] => [[]]
  | c :: cs =>
    if c = '/' then [] :: pieces cs
    else
      match pieces cs with
      | [] => [[c]]
      | piece :: rest => (c :: piece) :: rest

/-- Whether a path starts at the root. -/
def isAbsolute (path : String) : Bool :=
  path.toList.head? == some '/'

/-- The part that a piece stands for, unless it can be left out. -/
def component? (piece : List Char) : Option Component :=
  if piece.isEmpty || piece = ['.'] then none
  else if piece = ['.', '.'] then some .parent
  else some (.name (String.ofList piece))

/-- The parts of a path. -/
def components (path : String) : List Component :=
  let parts := pieces path.toList
  let start : List Component :=
    if isAbsolute path then [.root] else if parts.head? = some ['.'] then [.current] else []
  start ++ parts.filterMap component?

/-- The name at the end of a path, if it ends with one. -/
def fileName? (path : String) : Option String :=
  match (components path).getLast? with
  | some (.name text) => some text
  | _ => none

/-- The text behind the last dot of the name at the end of a path. A dot at the start of the name
does not count. -/
def extension? (path : String) : Option String := do
  let name ← fileName? path
  let reversed := name.toList.reverse
  let tail := reversed.takeWhile (· != '.')
  match reversed.drop tail.length with
  | [] | [_] => none
  | _ :: _ :: _ => some (String.ofList tail.reverse)

/-- Drops slashes and dots at the end of a reversed path that can be left out. -/
def dropIdle : Nat → List Char → List Char
  | 0, reversed => reversed
  | fuel + 1, reversed =>
    match reversed with
    | ['/'] => ['/']
    | '/' :: rest => dropIdle fuel rest
    | '.' :: '/' :: rest => dropIdle fuel ('/' :: rest)
    | _ => reversed

/-- A path without its last part; none for the root and for the empty path. -/
def parent? (path : String) : Option String :=
  let size := path.length + 1
  match (components path).getLast? with
  | none | some .root => none
  | some _ =>
    let rest := (dropIdle size path.toList.reverse).dropWhile (· != '/')
    some (String.ofList (dropIdle size rest).reverse)

/-- A path seen from a directory; an absolute path stays as it is. -/
def join (directory path : String) : String :=
  if isAbsolute path || directory.isEmpty then path
  else if directory.toList.getLast? == some '/' then directory ++ path
  else directory ++ "/" ++ path

/-- The rank of a part among parts of other kinds. -/
def Component.rank : Component → Nat
  | .root => 0
  | .current => 1
  | .parent => 2
  | .name _ => 3

/-- The text of a part, to compare names. -/
def Component.text : Component → String
  | .name text => text
  | _ => ""

/-- Compares parts: by kind, then by name. -/
def Component.order (a b : Component) : Ordering :=
  (compare a.rank b.rank).then (compare a.text b.text)

/-- Compares lists of parts, the first difference counts. -/
def orderComponents : List Component → List Component → Ordering
  | [], [] => .eq
  | [], _ :: _ => .lt
  | _ :: _, [] => .gt
  | a :: as, b :: bs => (a.order b).then (orderComponents as bs)

/-- Whether one path may stand before another. -/
def le (a b : String) : Bool :=
  (orderComponents (components a) (components b)).isLE

/-- Paths in their order. -/
def sorted (paths : List String) : List String :=
  paths.mergeSort le

end ModLint.Path
