import ModLint.Analysis.Result

/-!
# Reports as JSON

A report says what was analysed, whether it passed, and what was found, for other programs to read.
-/

namespace ModLint

/-- The version of the program. -/
def toolVersion : String := "0.1.0"

/-- What a report is about. -/
structure ReportContext where
  /-- The path that was given. -/
  path : String
  /-- The configuration file in use. -/
  config : Option String := none
  /-- The lowest severity that makes a run fail. -/
  failOn : Severity
deriving DecidableEq

/-- A report. -/
structure Summary where
  /-- What the report is about. -/
  context : ReportContext
  /-- Whether the run passed. -/
  passed : Bool
  /-- How many programs were analysed. -/
  models : Nat
  /-- How many diagnostics there are of each severity. -/
  counts : Severity → Nat
  /-- The diagnostics that stay. -/
  diagnostics : List Diagnostic
  /-- The diagnostics that were set aside. -/
  suppressed : List SuppressedDiagnostic
  /-- How many diagnostics were dropped because of their path. -/
  excluded : Nat

/-- The report on a result. -/
def Summary.ofResult (context : ReportContext) (result : AnalysisResult) : Summary :=
  { context, passed := result.passed context.failOn, models := result.models
    counts := result.count, diagnostics := result.diagnostics, suppressed := result.suppressed
    excluded := result.excluded }

namespace Summary

/-- A diagnostic in a report. -/
def diagnosticJson (diagnostic : Diagnostic) : Json :=
  .obj
    [("code", .str diagnostic.id.code), ("name", .str diagnostic.id.name),
      ("severity", diagnostic.severity.toJson), ("file", .str diagnostic.file),
      ("line", .nat diagnostic.line), ("column", .nat diagnostic.location.column),
      ("message", .str diagnostic.message)]

/-- A suppression in a report; an empty reason is left out. -/
def suppressionJson (suppression : Suppression) : Json :=
  .obj
    ([("rule", .str suppression.rule)]
      ++ (if suppression.reason.isEmpty then [] else [("reason", .str suppression.reason)])
      ++ [("file", .str suppression.file), ("line", .nat suppression.line),
        ("type", .str suppression.suppressionType.word)])

/-- A diagnostic that was set aside, in a report. -/
def suppressedJson (suppressed : SuppressedDiagnostic) : Json :=
  .obj
    [("diagnostic", diagnosticJson suppressed.diagnostic),
      ("suppression", suppressionJson suppressed.suppression)]

/-- A report as an object (`json_report`). -/
def toJson (summary : Summary) : Json :=
  .obj
    ([("version", .str toolVersion), ("path", .str summary.context.path)]
      ++ (summary.context.config.toList.map fun path => ("config", .str path))
      ++ [("fail_on", summary.context.failOn.toJson), ("passed", .bool summary.passed),
        ("models_scanned", .nat summary.models),
        ("counts", .obj
          [("error", .nat (summary.counts .error)), ("warning", .nat (summary.counts .warning)),
            ("info", .nat (summary.counts .info))]),
        ("diagnostics", Json.ofList diagnosticJson summary.diagnostics)]
      ++ (if summary.suppressed.isEmpty then []
        else [("suppressed", Json.ofList suppressedJson summary.suppressed)])
      ++ [("suppressed_count", .nat summary.suppressed.length),
        ("excluded_count", .nat summary.excluded)])

end Summary

end ModLint
