import ModLint.Command.Arguments
import ModLint.Command.Input
import ModLint.Report.Pretty
import ModLint.Report.Sarif

/-!
# The command that analyses dumps
-/

namespace ModLint.Command

variable {m : Type → Type} [Monad m]

/-- The formats of reports. -/
inductive ReportFormat where
  /-- For people. -/
  | pretty
  /-- As JSON. -/
  | json
  /-- As a SARIF log. -/
  | sarif
deriving DecidableEq

/-- The format with a name. -/
def ReportFormat.parse? : String → Option ReportFormat
  | "pretty" => some .pretty
  | "json" => some .json
  | "sarif" => some .sarif
  | _ => none

/-- The dumps that a path stands for (`collect_models`): the file itself, or all dumps below the
directory. -/
def modelsAt (fs : FileSystem m) (path : String) : Action m (List String) := do
  match ← fs.kind path with
  | .error error => Action.refuse (.noAccess path error)
  | .ok .file => return [path]
  | .ok .directory => modelsBelow fs path

/-- Analyses one dump. -/
def lintModel (fs : FileSystem m) (analyzer : Analyzer) (path : String) :
    Action m AnalysisResult := do
  let program ← loadModel fs path
  let disk ← liftM (sourcesOf fs (modelDirectory path) program)
  Action.found (analyzer.run disk program)

/-- Analyses dumps one after the other and puts the results together. -/
def lintModels (fs : FileSystem m) (analyzer : Analyzer) :
    AnalysisResult → List String → Action m AnalysisResult
  | result, [] => return result
  | result, path :: paths => do
    lintModels fs analyzer (result.merge (← lintModel fs analyzer path)) paths

/-- The results of several dumps as one, with the diagnostics in their order. -/
def combined (result : AnalysisResult) : AnalysisResult :=
  { result with diagnostics := Diagnostic.sorted result.diagnostics }

/-- A report in a format. -/
def reportText (color details : Bool) (format : ReportFormat) (catalog : Catalog)
    (context : ReportContext) (result : AnalysisResult) : String :=
  let summary := Summary.ofResult context result
  match format with
  | .pretty => Pretty.report color details summary
  | .json => summary.toJson.pretty ++ "\n"
  | .sarif => (Sarif.Log.ofResult catalog result).toJson.pretty ++ "\n"

/-- The severity given on the command line. -/
def thresholdOf : Option String → Action m (Option Severity)
  | none => return none
  | some text =>
    match Severity.parse? text with
    | some severity => return some severity
    | none => Action.refuse (.unknownSeverity text)

/-- Analyses a dump or all dumps of a directory and reports what was found (`run_lint`). The exit
code is one if a diagnostic is as bad as the threshold. -/
def runLint (fs : FileSystem m) (color : Bool) (arguments : LintArguments) : Action m Outcome := do
  let some format := ReportFormat.parse? arguments.format
    | Action.refuse (.badFormat arguments.format)
  let given ← thresholdOf arguments.failOn
  let (config, configPath) ← loadConfig fs arguments.config
  let failOn := given.getD config.threshold
  let models ← modelsAt fs arguments.path
  if models.isEmpty then return { notice := some .noModels }
  let analyzer ← analyzerOf config
  let result := combined (← lintModels fs analyzer {} models)
  let context := { path := arguments.path, config := configPath, failOn }
  return {
    output :=
      reportText color arguments.showSuppressed format analyzer.catalog context result
    result := .ok (if result.passed failOn then 0 else 1) }

end ModLint.Command
