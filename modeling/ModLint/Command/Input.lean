import ModLint.Analysis.Run
import ModLint.Command.Outcome
import ModLint.Path

/-!
# What commands read

The configuration, the dumps and the source files that a command works on.
-/

namespace ModLint

/-- The names of configuration files, in the order in which they are looked for. -/
def configFileNames : List String :=
  ["celestecheck.yaml", ".celestecheck.yaml"]

/-- The ends of the names of dumps. -/
def modelSuffixes : List String :=
  [".model.json", ".model.yaml", ".model.yml"]

/-- Whether a path is the path of a dump (`is_model_file`). -/
def isModelFile (path : String) : Bool :=
  match Path.fileName? path with
  | none => false
  | some name => modelSuffixes.any fun suffix => suffix.toList.isSuffixOf name.toList

/-- The directory that the paths in a dump start from (`model_dir`). -/
def modelDirectory (model : String) : String :=
  match Path.parent? model with
  | none => "."
  | some directory => if directory.isEmpty then "." else directory

/-- The format of a dump, by the extension of its path. -/
def dumpFormat? (path : String) : Option DumpFormat :=
  match Path.extension? path with
  | some "json" => some .json
  | some "yaml" | some "yml" => some .yaml
  | _ => none

/-- The path of a file below a directory. -/
def pathBelow (directory : String) (names : List String) : String :=
  names.foldl Path.join directory

/-- Whether a file lies in a hidden directory. -/
def isHidden (names : List String) : Bool :=
  names.dropLast.any fun name => name.toList.head? == some '.'

namespace Command

variable {m : Type → Type} [Monad m]

/-- The first configuration file in the working directory (`discover`). -/
def discoverConfig (fs : FileSystem m) : List String → m (Option String)
  | [] => return none
  | name :: names => do
    let path := Path.join "." name
    match ← fs.kind path with
    | .ok .file => return some path
    | _ => discoverConfig fs names

/-- Reads a configuration file and checks it. -/
def readConfig (fs : FileSystem m) (path : String) : Action m Config := do
  match ← fs.read path with
  | .error error => Action.refuse (.configFile path error)
  | .ok text =>
    match Config.ofYaml? text with
    | none => Action.refuse (.configSyntax path)
    | some config =>
      match config.validate with
      | .error error => Action.refuse (.badConfig error)
      | .ok () => return config

/-- The configuration (`load_config`): the given file, else one that is found, else the defaults. -/
def loadConfig (fs : FileSystem m) (explicit : Option String) :
    Action m (Config × Option String) := do
  let path? ← match explicit with
    | some path => pure (some path)
    | none => liftM (discoverConfig fs configFileNames)
  match path? with
  | none => return ({}, none)
  | some path => return (← readConfig fs path, some path)

/-- The analyzer for a configuration. -/
def analyzerOf (config : Config) : Action m Analyzer :=
  match Analyzer.ofConfig config with
  | .ok analyzer => return analyzer
  | .error error => Action.fail "" (.unknownRule error)

/-- Loads a dump. -/
def loadModel (fs : FileSystem m) (path : String) : Action m Program := do
  match ← fs.read path with
  | .error error => Action.refuse (.modelFile path error)
  | .ok text =>
    match dumpFormat? path with
    | none => Action.refuse (.modelFormat path)
    | some format =>
      match Program.ofText format text with
      | .error error => Action.refuse (.badModel path error)
      | .ok program => return program

/-- The dumps below a directory, ordered by their paths. -/
def modelsBelow (fs : FileSystem m) (directory : String) : Action m (List String) := do
  match ← fs.filesBelow directory with
  | .error error => Action.fail "" (.noAccess directory error)
  | .ok files =>
    let paths := (files.filter fun names => !isHidden names).map (pathBelow directory)
    return Path.sorted (paths.filter isModelFile)

/-- The texts of the source files of a program that can be read. -/
def readSources (fs : FileSystem m) (directory : String) :
    List SourceFile → m (List (String × String))
  | [] => return []
  | file :: files => do
    let found ← readSources fs directory files
    if file.text.isSome then return found
    else
      match ← fs.read (Path.join directory file.path) with
      | .ok text => return (file.path, text) :: found
      | .error _ => return found

/-- The source texts of a program, by path. -/
def sourcesOf (fs : FileSystem m) (directory : String) (p : Program) :
    m (String → Option String) := do
  let texts ← readSources fs directory p.files.toList
  return fun path => texts.lookup path

end Command

end ModLint
