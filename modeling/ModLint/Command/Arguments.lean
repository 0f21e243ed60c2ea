/-!
# Command lines

A command line is read word by word. Options start with one dash and a letter or with two dashes
and a name; their value is attached to them or is the next word. All words behind two dashes alone
are taken as they are. An option and its value are settled only when the next option or argument
starts, so a fault of a later word can be reported first.
-/

namespace ModLint

/-- Why reading a command line ends without a command. -/
inductive UsageStop where
  /-- Help is asked for. -/
  | help
  /-- The version is asked for. -/
  | version
  /-- Nothing is asked for. -/
  | nothing
  /-- A command is missing behind the options. -/
  | missingCommand
  /-- There is no such command. -/
  | invalidCommand
  /-- An argument is missing. -/
  | missingArgument
  /-- There is no such option, or there are too many arguments. -/
  | unknownArgument
  /-- The value of an option is missing, or it is an empty path. -/
  | invalidValue
  /-- An option is given twice. -/
  | conflict
  /-- A value is attached to an option that takes none. -/
  | unneededValue
deriving DecidableEq

/-- The exit code when no command is run. -/
def UsageStop.exitCode : UsageStop → Nat
  | .help | .version => 0
  | _ => 2

/-- What an option or argument is for. -/
inductive ArgumentAction where
  /-- It counts how often it is given. -/
  | count
  /-- It is given or not. -/
  | flag
  /-- It has a text as its value. -/
  | text
  /-- It has a path as its value. -/
  | path
  /-- It asks for help. -/
  | help
  /-- It asks for the version. -/
  | version
deriving DecidableEq

/-- Whether an option has a value. -/
def ArgumentAction.takesValue : ArgumentAction → Bool
  | .text | .path => true
  | _ => false

/-- An option. -/
structure OptionSpec where
  /-- Its name behind two dashes. -/
  name : String
  /-- Its letter behind one dash. -/
  letter : Option Char
  /-- What it is for. -/
  action : ArgumentAction
deriving DecidableEq

/-- The words of a command. -/
structure CommandSpec where
  /-- Its options. -/
  options : List OptionSpec
  /-- The name of its only argument, which is a path. -/
  argument : Option String := none
deriving DecidableEq

/-- What has been read of the words of a command. -/
structure ArgumentScan where
  /-- The values given, by name; a flag has an empty value. -/
  values : List (String × String) := []
  /-- How often the counting option was given. -/
  count : Nat := 0
  /-- The option or argument that is not settled yet, and its value if it has been read. -/
  pending : Option (String × ArgumentAction × Option String) := none
  /-- Whether the argument has been read. -/
  hasArgument : Bool := false
  /-- Whether all further words are taken as they are. -/
  literal : Bool := false

namespace ArgumentScan

/-- Settles an option or argument. Counts go up to 255. -/
def settleOne (scan : ArgumentScan) (name : String) (action : ArgumentAction)
    (value : Option String) : Except UsageStop ArgumentScan :=
  match action with
  | .count => .ok { scan with count := min 255 (scan.count + 1) }
  | .help => .error .help
  | .version => .error .version
  | .flag =>
    if (scan.values.lookup name).isSome then .error .conflict
    else .ok { scan with values := (name, "") :: scan.values }
  | .text | .path =>
    match value with
    | none => .error .invalidValue
    | some value =>
      if (scan.values.lookup name).isSome then .error .conflict
      else if action == .path && value.isEmpty then .error .invalidValue
      else .ok { scan with values := (name, value) :: scan.values }

/-- Settles what is pending. -/
def settle (scan : ArgumentScan) : Except UsageStop ArgumentScan :=
  match scan.pending with
  | none => .ok scan
  | some (name, action, value) => { scan with pending := none }.settleOne name action value

/-- An option with the value that is attached to it, or without one. -/
def option (scan : ArgumentScan) (spec : OptionSpec) (attached : Option String) :
    Except UsageStop ArgumentScan := do
  let scan ← scan.settle
  if spec.action.takesValue && attached.isNone then
    return { scan with pending := some (spec.name, spec.action, none) }
  else scan.settleOne spec.name spec.action attached

/-- A word behind two dashes. -/
def longOption (scan : ArgumentScan) (command : CommandSpec) (word : List Char) :
    Except UsageStop ArgumentScan :=
  let name := String.ofList (word.takeWhile (· != '='))
  let attached := match word.dropWhile (· != '=') with
    | [] => none
    | _ :: value => some (String.ofList value)
  match command.options.find? fun spec => spec.name == name with
  | none => .error .unknownArgument
  | some spec =>
    if attached.isSome && !spec.action.takesValue then .error .unneededValue
    else scan.option spec attached

/-- The letters behind one dash. What follows the letter of an option with a value is its value; an
equals sign in front of it does not count. -/
def letters (command : CommandSpec) : ArgumentScan → List Char → Except UsageStop ArgumentScan
  | scan, [] => .ok scan
  | scan, c :: rest =>
    match command.options.find? fun spec => spec.letter == some c with
    | none => .error .unknownArgument
    | some spec =>
      if spec.action.takesValue then
        match rest with
        | [] => scan.option spec none
        | '=' :: value => scan.option spec (some (String.ofList value))
        | value => scan.option spec (some (String.ofList value))
      else do letters command (← scan.option spec none) rest

/-- A word that is the argument of the command. -/
def argument (scan : ArgumentScan) (command : CommandSpec) (word : String) :
    Except UsageStop ArgumentScan :=
  match command.argument with
  | none => .error .unknownArgument
  | some name =>
    if scan.hasArgument then .error .unknownArgument
    else do
      let scan ← scan.settle
      return { scan with pending := some (name, .path, some word), hasArgument := true }

/-- A word that is neither taken as it is nor the sign for that. -/
def word (scan : ArgumentScan) (command : CommandSpec) (text : String) :
    Except UsageStop ArgumentScan :=
  match text.toList with
  | '-' :: '-' :: rest => scan.longOption command rest
  | '-' :: c :: rest => letters command scan (c :: rest)
  | _ =>
    match scan.pending with
    | some (name, action, none) =>
      .ok { scan with pending := some (name, action, some text) }
    | _ => scan.argument command text

/-- Reads all words of a command. -/
def words (command : CommandSpec) : ArgumentScan → List String → Except UsageStop ArgumentScan
  | scan, [] => scan.settle
  | scan, text :: rest =>
    if scan.literal then do words command (← scan.argument command text) rest
    else if text == "--" then words command { scan with literal := true } rest
    else do words command (← scan.word command text) rest

/-- The value of an option or argument. -/
def value? (scan : ArgumentScan) (name : String) : Option String :=
  scan.values.lookup name

/-- The value of an argument that must be there. -/
def required (scan : ArgumentScan) (name : String) : Except UsageStop String :=
  match scan.value? name with
  | some value => .ok value
  | none => .error .missingArgument

/-- Whether a flag is given. -/
def has (scan : ArgumentScan) (name : String) : Bool :=
  (scan.value? name).isSome

end ArgumentScan

/-- The words behind `lint`. -/
structure LintArguments where
  /-- A dump, or a directory of dumps. -/
  path : String
  /-- The configuration file. -/
  config : Option String := none
  /-- The format of the report. -/
  format : String := "pretty"
  /-- The lowest severity that makes the run fail. -/
  failOn : Option String := none
  /-- Whether the diagnostics that were set aside are shown. -/
  showSuppressed : Bool := false
deriving DecidableEq

/-- The words behind `fix`. -/
structure FixArguments where
  /-- A dump. -/
  model : String
  /-- The place of the diagnostic to fix. -/
  at? : Option String := none
  /-- Whether the source file is changed. -/
  write : Bool := false
  /-- The configuration file. -/
  config : Option String := none
deriving DecidableEq

/-- A command. -/
inductive Command where
  /-- Analyses dumps. -/
  | lint (arguments : LintArguments)
  /-- Lists fixes, or applies one. -/
  | fix (arguments : FixArguments)
  /-- Lists the conditions. -/
  | rules (config : Option String)
  /-- Writes a configuration file. -/
  | init (output : String)
deriving DecidableEq

/-- A command and how much it should say. -/
structure Invocation where
  /-- The command. -/
  command : Command
  /-- How often more output was asked for. -/
  verbosity : Nat
deriving DecidableEq

namespace Command

/-- The options of all commands. -/
def commonOptions : List OptionSpec :=
  [⟨"verbose", some 'v', .count⟩, ⟨"help", some 'h', .help⟩]

/-- The option for the configuration file. -/
def configOption : OptionSpec :=
  ⟨"config", some 'c', .path⟩

/-- The words in front of a command. -/
def topSpec : CommandSpec :=
  { options := commonOptions ++ [⟨"version", some 'V', .version⟩] }

/-- The words behind `lint`. -/
def lintSpec : CommandSpec :=
  { options := commonOptions ++
      [configOption, ⟨"format", some 'f', .text⟩, ⟨"fail-on", none, .text⟩,
        ⟨"show-suppressed", none, .flag⟩]
    argument := some "path" }

/-- The words behind `fix`. -/
def fixSpec : CommandSpec :=
  { options := commonOptions ++
      [configOption, ⟨"at", none, .text⟩, ⟨"write", none, .flag⟩]
    argument := some "model" }

/-- The words behind `rules`. -/
def rulesSpec : CommandSpec :=
  { options := commonOptions ++ [configOption] }

/-- The words behind `init`. -/
def initSpec : CommandSpec :=
  { options := commonOptions ++ [⟨"output", some 'o', .path⟩] }

/-- The command that a word names, as the specification of its words and what to make of them. A
file is changed only at a given place. -/
def named? : String → Option (CommandSpec × (ArgumentScan → Except UsageStop Command))
  | "lint" | "check" => some (lintSpec, fun scan => do
    return .lint
      { path := ← scan.required "path", config := scan.value? "config"
        format := (scan.value? "format").getD "pretty", failOn := scan.value? "fail-on"
        showSuppressed := scan.has "show-suppressed" })
  | "fix" => some (fixSpec, fun scan => do
    let model ← scan.required "model"
    if scan.has "write" then discard (scan.required "at")
    return .fix
      { model, at? := scan.value? "at", write := scan.has "write"
        config := scan.value? "config" })
  | "rules" => some (rulesSpec, fun scan => return .rules (scan.value? "config"))
  | "init" => some (initSpec, fun scan =>
    return .init ((scan.value? "output").getD "celestecheck.yaml"))
  | _ => none

/-- Whether a word names a command, help included. -/
def isName (word : String) : Bool :=
  word == "help" || (named? word).isSome

/-- Why `help` with some words ends: help is shown for a command, and commands have no commands of
their own. -/
def helpStop : List String → UsageStop
  | [] => .help
  | [word] => if isName word then .help else .invalidCommand
  | _ :: _ :: _ => .invalidCommand

/-- Reads the words in front of the command, then those behind it. The count behind the command
wins if there is one. -/
def readWords : ArgumentScan → List String → Except UsageStop Invocation
  | scan, [] => .error (if scan.count = 0 then .nothing else .missingCommand)
  | scan, word :: rest =>
    if scan.literal then
      .error (if isName word then .unknownArgument else .invalidCommand)
    else if word == "help" then .error (helpStop rest)
    else
      match named? word with
      | some (spec, make) => do
        let inner ← ArgumentScan.words spec {} rest
        return {
          command := ← make inner
          verbosity := if inner.count = 0 then scan.count else inner.count }
      | none =>
        if word == "--" then readWords { scan with literal := true } rest
        else
          match word.toList with
          | '-' :: '-' :: name => do readWords (← scan.longOption topSpec name) rest
          | '-' :: c :: cs => do readWords (← ArgumentScan.letters topSpec scan (c :: cs)) rest
          | _ => .error .invalidCommand

/-- Reads a command line. -/
def ofWords (words : List String) : Except UsageStop Invocation :=
  readWords {} words

end Command

end ModLint
