import ModLint.Command.Location
import ModLint.Config.Validate
import ModLint.Diagnostic.Catalog
import ModLint.File.System
import ModLint.Fix.Edit
import ModLint.Program.Load
import ModLint.Text.Quoted

/-!
# Outcomes of commands

A command ends with an exit code, or it fails for a reason that the program as a whole reports. What
it printed up to then stays.
-/

namespace ModLint

/-- What a command has to say besides its output. -/
inductive Notice where
  /-- There is no such format of reports. -/
  | badFormat (format : String)
  /-- There is no such severity. -/
  | unknownSeverity (text : String)
  /-- A configuration file cannot be read. -/
  | configFile (path : String) (error : FileError)
  /-- A configuration file is no configuration. -/
  | configSyntax (path : String)
  /-- A configuration has a fault. -/
  | badConfig (error : ConfigError)
  /-- A configuration speaks about a condition that does not exist. -/
  | unknownRule (error : UnknownRule)
  /-- A path cannot be looked at. -/
  | noAccess (path : String) (error : FileError)
  /-- A directory holds no dumps. -/
  | noModels
  /-- A dump cannot be read. -/
  | modelFile (path : String) (error : FileError)
  /-- A dump has no known format. -/
  | modelFormat (path : String)
  /-- A dump is no program. -/
  | badModel (path : String) (error : LoadError)
  /-- A program is not what it should be after loading. -/
  | brokenProgram (fault : Fault)
  /-- A place cannot be read. -/
  | badPlace (text : String)
  /-- There is no fix at a place. -/
  | nothingToFix (place : Place)
  /-- A fix cannot be applied. -/
  | notApplied (title : String)
  /-- A source file cannot be found. -/
  | noSource (path : String)
  /-- A source file is not the one that the dump was made from. -/
  | sourceDiffers (path : String)
  /-- An edit cannot be made in a file. -/
  | editMisfit (edit : TextEdit) (path : String)
  /-- A source file cannot be read. -/
  | sourceUnreadable (path : String) (error : FileError)
  /-- A source file cannot be written. -/
  | sourceUnwritable (error : FileError)
  /-- The file to write exists. -/
  | outputExists (path : String)
  /-- A directory cannot be made. -/
  | noDirectory (error : FileError)
  /-- A configuration file cannot be written. -/
  | outputUnwritable (error : FileError)

namespace Notice

/-- What a file that is no configuration or no program is called, up to the cause. -/
def syntaxLead? : Notice → Option String
  | .configSyntax path => some ("failed to load config " ++ path ++ ": ")
  | .badModel path (.unreadable .json) => some (path ++ ": invalid JSON model: ")
  | .badModel path (.unreadable .yaml) => some (path ++ ": invalid YAML model: ")
  | _ => none

/-- What is wrong, in words. -/
def message : Notice → String
  | .badFormat format =>
    "invalid format " ++ Text.quoted format ++ ", must be 'pretty', 'json', or 'sarif'"
  | .unknownSeverity text =>
    Severity.unknown text ++ ", must be 'error', 'warning', or 'info'"
  | .configFile path error => "failed to load config " ++ path ++ ": " ++ error.message
  | .configSyntax path => "failed to load config " ++ path ++ ": not a configuration"
  | .badConfig error => "invalid config: " ++ error.message
  | .unknownRule error => error.message
  | .noAccess path error =>
    "cannot access path " ++ Text.quotedPath path ++ ": " ++ error.message
  | .noModels => "no model dumps to lint"
  | .modelFile path error => path ++ ": failed to read " ++ path ++ ": " ++ error.message
  | .modelFormat path =>
    path ++ ": unsupported model format for " ++ path ++ " (expected .json, .yaml or .yml)"
  | .badModel path error => path ++ ": " ++ error.message
  | .brokenProgram fault => fault.message
  | .badPlace text => "invalid location " ++ Text.quoted text ++ ", expected <file>:<line>"
  | .nothingToFix place =>
    "no fixable diagnostic at " ++ place.file ++ ":" ++ toString place.line
  | .notApplied title => title ++ " could not be applied"
  | .noSource path => "source of " ++ path ++ " is not available"
  | .sourceDiffers path => path ++ " differs from the model dump, regenerate the dump first"
  | .editMisfit edit path => "edit " ++ edit.display ++ " does not fit " ++ path
  | .sourceUnreadable path error => "cannot read " ++ path ++ ": " ++ error.message
  | .sourceUnwritable error => error.message
  | .outputExists path => "file already exists: " ++ path
  | .noDirectory error => "failed to create directory: " ++ error.message
  | .outputUnwritable error => "failed to write config: " ++ error.message

/-- The lines of a notice: its message under a heading, and advice where there is any. -/
def text (notice : Notice) : String :=
  match notice with
  | .noModels => "Warning: " ++ notice.message ++ "\n"
  | .outputExists _ =>
    "Error: " ++ notice.message
      ++ "\nRemove it or use --output to specify a different path\n"
  | _ => "Error: " ++ notice.message ++ "\n"

end Notice

/-- How a command ended. -/
structure Outcome where
  /-- What it printed. -/
  output : String := ""
  /-- What else it had to say. -/
  notice : Option Notice := none
  /-- Its exit code, or why it failed. -/
  result : Except Notice Nat := .ok 0

/-- Why a command ends early. -/
structure Halt where
  /-- The reason. -/
  notice : Notice
  /-- What was printed before. -/
  output : String := ""
  /-- The exit code; none if the command fails as a whole. -/
  code : Option Nat := some 2

/-- How a command that ends early ended. -/
def Halt.outcome (halt : Halt) : Outcome :=
  match halt.code with
  | some code => { output := halt.output, notice := some halt.notice, result := .ok code }
  | none => { output := halt.output, result := .error halt.notice }

/-- A part of a command; it may end the command early. -/
abbrev Action (m : Type → Type) := ExceptT Halt m

namespace Action

variable {m : Type → Type} [Monad m]

/-- Ends the command with a notice and the exit code for errors. -/
def refuse {α : Type} (notice : Notice) : Action m α :=
  throw { notice }

/-- Lets the command fail as a whole, with what it printed. -/
def fail {α : Type} (output : String) (notice : Notice) : Action m α :=
  throw { notice, output, code := none }

/-- The value of a look-up in a loaded program. -/
def found {α : Type} : Lookup α → Action m α
  | .ok value => return value
  | .error fault => fail "" (.brokenProgram fault)

/-- How a command ended. -/
def outcome (action : Action m Outcome) : m Outcome := do
  match ← action.run with
  | .ok outcome => return outcome
  | .error halt => return halt.outcome

end Action

end ModLint
