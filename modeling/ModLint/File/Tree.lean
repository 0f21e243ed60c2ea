import ModLint.File.System
import ModLint.Path

/-!
# Trees of files

A tree of files in memory, seen from its root, which is also the working directory. Nothing outside
of it exists.
-/

namespace ModLint

/-- An entry of a tree. -/
inductive FileEntry where
  /-- A file with its bytes. -/
  | file (content : List UInt8)
  /-- A directory. -/
  | directory
deriving DecidableEq

/-- What an entry is. -/
def FileEntry.kind : FileEntry → EntryKind
  | .file _ => .file
  | .directory => .directory

/-- The bytes of a text. -/
def bytesOf (text : String) : List UInt8 :=
  text.toUTF8.toList

/-- The text of bytes, if they are one. -/
def textOf? (bytes : List UInt8) : Option String :=
  String.fromUTF8? ⟨bytes.toArray⟩

/-- A tree: its entries by the names that lead to them. The root is not among them. -/
structure FileTree where
  /-- The entries. -/
  entries : List (List String × FileEntry) := []
deriving DecidableEq

namespace FileTree

/-- The entry that names lead to. -/
def find? (tree : FileTree) (names : List String) : Option FileEntry :=
  if names.isEmpty then some .directory else tree.entries.lookup names

/-- Puts an entry into a list of entries, in place of the one with the same names. -/
def putEntry (names : List String) (entry : FileEntry) :
    List (List String × FileEntry) → List (List String × FileEntry)
  | [] => [(names, entry)]
  | (other, kept) :: rest =>
    if other = names then (names, entry) :: rest else (other, kept) :: putEntry names entry rest

/-- A tree with an entry put into it. -/
def put (tree : FileTree) (names : List String) (entry : FileEntry) : FileTree :=
  { entries := putEntry names entry tree.entries }

/-- Follows the pieces of a path from a directory. Every piece must start in a directory, so the
names at the end need not exist but stand in a directory. -/
def follow (tree : FileTree) : List String → List String → Except FileError (List String)
  | names, [] => .ok names
  | names, piece :: pieces =>
    match tree.find? names with
    | none => .error .notFound
    | some (.file _) => .error .notDirectory
    | some .directory =>
      if piece.isEmpty || piece == "." then tree.follow names pieces
      else if piece == ".." then
        if names.isEmpty then .error .notFound else tree.follow names.dropLast pieces
      else tree.follow (names ++ [piece]) pieces

/-- The names that a path leads to. -/
def resolve (tree : FileTree) (path : String) : Except FileError (List String) :=
  if path.isEmpty || Path.isAbsolute path then .error .notFound
  else tree.follow [] ((Path.pieces path.toList).map String.ofList)

/-- The entry at a path. -/
def lookup (tree : FileTree) (path : String) : Except FileError FileEntry := do
  match tree.find? (← tree.resolve path) with
  | some entry => return entry
  | none => .error .notFound

/-- The text of the file at a path. -/
def read (tree : FileTree) (path : String) : Except FileError String := do
  match ← tree.lookup path with
  | .directory => .error .isDirectory
  | .file content =>
    match textOf? content with
    | some text => return text
    | none => .error .invalidText

/-- A path without slashes at its end. -/
def withoutSlashes (path : String) : String :=
  String.ofList (path.toList.reverse.dropWhile (· == '/')).reverse

/-- The tree after a text was put into the file at a path. A path with a slash at its end is never
the path of a file. -/
def write (tree : FileTree) (path text : String) : Except FileError FileTree := do
  let names ← tree.resolve (withoutSlashes path)
  if withoutSlashes path != path || tree.find? names = some .directory then .error .isDirectory
  else return tree.put names (.file (bytesOf text))

/-- The tree after a directory was made. -/
def makeDirectory (tree : FileTree) (path : String) : Except FileError FileTree := do
  let names ← tree.resolve (withoutSlashes path)
  if (tree.find? names).isSome then .error .alreadyExists
  else return tree.put names .directory

/-- The names behind a beginning. -/
def below? : List String → List String → Option (List String)
  | [], [] => none
  | [], name :: names => some (name :: names)
  | _ :: _, [] => none
  | a :: start, b :: names => if a = b then below? start names else none

/-- All files below the directory at a path. -/
def filesBelow (tree : FileTree) (path : String) : Except FileError (List (List String)) := do
  let start ← tree.resolve path
  return tree.entries.filterMap fun (names, entry) =>
    match entry with
    | .file _ => below? start names
    | .directory => none

/-- A tree with a new entry and all directories that lead to it. -/
def grow (tree : FileTree) (names : List String) (entry : FileEntry) : FileTree :=
  let parents := (List.range names.length).filterMap fun n =>
    if n = 0 then none else some (names.take n)
  let tree := parents.foldl
    (fun tree parent => if (tree.find? parent).isSome then tree else tree.put parent .directory)
    tree
  tree.put names entry

/-- Replaces the tree by the result of an operation, if it succeeds. -/
def attempt (operation : FileTree → Except FileError FileTree) :
    StateM FileTree (Except FileError Unit) := do
  match operation (← get) with
  | .ok tree =>
    set tree
    return .ok ()
  | .error error => return .error error

/-- The operations on a tree in memory. -/
def system : FileSystem (StateM FileTree) where
  kind path := do return ((← get).lookup path).map FileEntry.kind
  read path := do return (← get).read path
  write path text := attempt fun tree => tree.write path text
  makeDirectory path := attempt fun tree => tree.makeDirectory path
  filesBelow path := do return (← get).filesBelow path

end FileTree

end ModLint
