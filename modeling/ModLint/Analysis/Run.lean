import ModLint.Analysis.Result
import ModLint.Check.Checker
import ModLint.Diagnostic.Catalog

/-!
# Analysing programs

An analysis shows every event of a program to the checkers that want to see it, turns their
findings into diagnostics, and lists these in their order. A run then drops the diagnostics of
excluded paths and sets aside those that comments in the source ask to ignore.
-/

namespace ModLint

/-- The diagnostic for a finding, unless its condition is not reported (`report`). -/
def Finding.diagnostic? (finding : Finding) (catalog : Catalog) (p : Program) :
    Lookup (Option Diagnostic) := do
  let location ← p.location finding.node
  let setting := catalog.setting finding.id
  if setting.enabled then
    return some
      { id := finding.id, severity := setting.severity, location
        message := finding.id.format finding.args, args := finding.args }
  else return none

/-- What an analysis needs besides the program. -/
structure Analyzer where
  /-- The checkers, in the order in which they see an event. -/
  checkers : List Checker := Checker.builtin
  /-- The settings of the conditions. -/
  catalog : Catalog
  /-- The configuration. -/
  config : Config

namespace Analyzer

/-- The analyzer for a configuration, with all checkers. -/
def ofConfig (config : Config) : Except UnknownRule Analyzer := do
  return { catalog := ← Catalog.ofConfig config, config }

/-- What one checker reports at an event. -/
def reportsOf (analyzer : Analyzer) (p : Program) (event : Event) (checker : Checker) :
    Lookup (List Diagnostic) := do
  (← checker.inspect p analyzer.config.framework event).filterMapM fun finding =>
    finding.diagnostic? analyzer.catalog p

/-- What the checkers report at an event. -/
def reports (analyzer : Analyzer) (p : Program) (event : Event) : Lookup (List Diagnostic) := do
  let subscribers := Checker.subscribers analyzer.checkers event.kind
  return (← subscribers.mapM (analyzer.reportsOf p event)).flatten

/-- What the checkers report at all events of a program. -/
def collect (analyzer : Analyzer) (p : Program) : Lookup (List Diagnostic) := do
  return (← (← p.raisedEvents).mapM (analyzer.reports p)).flatten

/-- All diagnostics of a program. -/
def analyze (analyzer : Analyzer) (p : Program) : Lookup (List Diagnostic) := do
  return Diagnostic.canonical (← analyzer.collect p)

end Analyzer

namespace Program

/-- The suppressions of the first file with a path, if its text can be found. -/
def suppressionsAt (p : Program) (disk : String → Option String) (path : String) :
    Lookup (List Suppression) := do
  let some id := p.fileByPath? path | return []
  let some text ← p.sourceText disk id | return []
  return Suppression.parse path text

/-- The paths of diagnostics, in order and without repetitions. -/
def pathsOf (diagnostics : List Diagnostic) : List String :=
  (orderedByKey (diagnostics.map fun diagnostic => (diagnostic.file, ()))).map Prod.fst

/-- The suppressions of all files that diagnostics are about (`collect_suppressions`). -/
def suppressionsFor (p : Program) (disk : String → Option String)
    (diagnostics : List Diagnostic) : Lookup (List Suppression) := do
  return (← (pathsOf diagnostics).mapM (p.suppressionsAt disk)).flatten

end Program

namespace Analyzer

/-- Analyses a program, drops excluded paths and applies the suppressions. The text of files that
the program does not embed comes from `disk`, and `isMatch` says which paths a pattern matches. -/
def runBy (isMatch : String → String → Bool) (analyzer : Analyzer) (disk : String → Option String)
    (p : Program) : Lookup AnalysisResult := do
  let (excluded, kept) := (← analyzer.analyze p).partition fun diagnostic =>
    analyzer.config.isPathExcludedBy isMatch diagnostic.file
  let suppressions ← p.suppressionsFor disk kept
  let (diagnostics, suppressed) := Suppression.apply suppressions kept
  return { diagnostics, suppressed, excluded := excluded.length, models := 1 }

/-- Analyses a program, with the patterns for excluded paths read as globs (`run`). -/
def run (analyzer : Analyzer) (disk : String → Option String) (p : Program) :
    Lookup AnalysisResult :=
  analyzer.runBy Glob.isMatch disk p

end Analyzer

end ModLint
