/-!
# Access to files

Commands touch files only through the operations of a `FileSystem`. They can so be run on the real
file system and on a tree of files in memory.
-/

namespace ModLint

/-- What can go wrong with files. -/
inductive FileError where
  /-- There is no such file or directory. -/
  | notFound
  /-- There is such a file already. -/
  | alreadyExists
  /-- A part of the path is not a directory. -/
  | notDirectory
  /-- The path is a directory. -/
  | isDirectory
  /-- The bytes of the file are no text. -/
  | invalidText
  /-- Anything else. -/
  | other (text : String)
deriving DecidableEq

/-- The text of an error. -/
def FileError.message : FileError → String
  | .notFound => "No such file or directory (os error 2)"
  | .alreadyExists => "File exists (os error 17)"
  | .notDirectory => "Not a directory (os error 20)"
  | .isDirectory => "Is a directory (os error 21)"
  | .invalidText => "stream did not contain valid UTF-8"
  | .other text => text

/-- What a path leads to. -/
inductive EntryKind where
  /-- A file. -/
  | file
  /-- A directory. -/
  | directory
deriving DecidableEq

/-- The operations on files. -/
structure FileSystem (m : Type → Type) where
  /-- What a path leads to. -/
  kind : String → m (Except FileError EntryKind)
  /-- The text of a file. -/
  read : String → m (Except FileError String)
  /-- Puts a text into a file, which need not exist. -/
  write : String → String → m (Except FileError Unit)
  /-- Makes a directory. -/
  makeDirectory : String → m (Except FileError Unit)
  /-- All files below a directory, each as the names that lead to it. -/
  filesBelow : String → m (Except FileError (List (List String)))

end ModLint
