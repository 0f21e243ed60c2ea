import ModLint.Command.Run

/-!
# The program

Runs a command on the real file system.
-/

namespace ModLint.Main

/-- An error of the operating system. -/
def fileErrorOf : IO.Error → FileError
  | .noFileOrDirectory .. => .notFound
  | .alreadyExists .. => .alreadyExists
  | .inappropriateType _ code _ =>
    if code = 21 then .isDirectory else if code = 20 then .notDirectory else .other ""
  | error => .other (toString error)

/-- The result of an operation, with its errors as values. -/
def attempt {α : Type} (operation : IO α) : IO (Except FileError α) := do
  match ← operation.toBaseIO with
  | .ok value => return .ok value
  | .error error => return .error (fileErrorOf error)

/-- What a path leads to. -/
def kindOf (path : String) : IO EntryKind := do
  let real ← IO.FS.realPath path
  return if ← real.isDir then .directory else .file

/-- The text of a file. -/
def readText (path : String) : IO (Except FileError String) := do
  match ← attempt (IO.FS.readBinFile path) with
  | .error error => return .error error
  | .ok bytes =>
    match String.fromUTF8? bytes with
    | some text => return .ok text
    | none => return .error .invalidText

/-- All files below a directory, at most `depth` directories deep. -/
def filesUnder : Nat → String → List String → IO (List (List String))
  | 0, _, _ => return []
  | depth + 1, path, names => do
    let entries ← (← IO.FS.realPath path).readDir
    let found ← entries.toList.mapM fun entry => do
      let inner := Path.join path entry.fileName
      let names := names ++ [entry.fileName]
      if ← entry.path.isDir then filesUnder depth inner names else return [names]
    return found.flatten

/-- The real file system. -/
def realSystem : FileSystem IO where
  kind path := attempt (kindOf path)
  read path := readText path
  write path text := attempt (IO.FS.writeFile path text)
  makeDirectory path := attempt (IO.FS.createDir path)
  filesBelow path := attempt (filesUnder 256 path [])

/-- How to use the program. -/
def usage : String :=
  "Usage: celestecheck [-v]... <lint|fix|rules|init|help> [arguments]\n"

/-- What is printed when no command is run. -/
def stopText : UsageStop → String
  | .version => "celestecheck " ++ toolVersion ++ "\n"
  | _ => usage

/-- Prints an outcome; returns the exit code. -/
def finish (outcome : Outcome) : IO UInt32 := do
  IO.print outcome.output
  if let some notice := outcome.notice then IO.eprint notice.text
  match outcome.result with
  | .ok code => return code.toUInt32
  | .error notice =>
    IO.eprint notice.text
    return 2

end ModLint.Main

open ModLint in
/-- Runs the command on the command line. -/
def main (words : List String) : IO UInt32 := do
  match Command.ofWords words with
  | .error stop =>
    if stop.exitCode = 0 then IO.print (Main.stopText stop) else IO.eprint (Main.stopText stop)
    return stop.exitCode.toUInt32
  | .ok invocation =>
    let color := (← (← IO.getStdout).isTty) && (← IO.getEnv "NO_COLOR").isNone
    Main.finish (← Command.run Main.realSystem .wraps color invocation.command)
