import ModLint.Analysis.Result
import ModLint.Diagnostic.Catalog
import ModLint.Report.Summary

/-!
# Reports in the SARIF format

A log lists all rules of the catalog and one result per diagnostic, which refers to its rule by its
position.
-/

namespace ModLint.Sarif

/-- The version of the format. -/
def version : String := "2.1.0"

/-- Where the format is described. -/
def schema : String :=
  "https://raw.githubusercontent.com/oasis-tcs/sarif-spec/master/Schemata/sarif-schema-2.1.0.json"

/-- The name of the tool. -/
def toolName : String := "celestecheck"

/-- Where the tool is described. -/
def informationUri : String := "https://github.com/zen-systems/celestecheck"

/-- The level for a severity (`map_severity_to_level`). -/
def level : Severity → String
  | .error => "error"
  | .warning => "warning"
  | .info => "note"

/-- A rule of a log. -/
structure Rule where
  /-- Its code. -/
  id : String
  /-- Its name. -/
  name : String
  /-- Its title. -/
  shortDescription : String
  /-- Its description. -/
  fullDescription : String
  /-- Where it is described. -/
  helpUri : String
  /-- Its level. -/
  level : String
  /-- Whether it is reported. -/
  enabled : Bool
deriving DecidableEq

/-- A result of a log. -/
structure Result where
  /-- The code of its rule. -/
  ruleId : String
  /-- The position of its rule. -/
  ruleIndex : Nat
  /-- Its level. -/
  level : String
  /-- Its message. -/
  message : String
  /-- The file. -/
  uri : String
  /-- The line, at least one. -/
  startLine : Nat
  /-- The column, at least one. -/
  startColumn : Nat
deriving DecidableEq

/-- A log. -/
structure Log where
  /-- The rules. -/
  rules : List Rule
  /-- The results. -/
  results : List Result
deriving DecidableEq

/-- The rule for a condition. -/
def Rule.ofId (catalog : Catalog) (id : DiagnosticId) : Rule :=
  { id := id.code, name := id.name, shortDescription := id.title
    fullDescription := id.description
    helpUri := informationUri ++ "#" ++ String.ofList (id.code.toList.map Severity.lower)
    level := Sarif.level (catalog.setting id).severity
    enabled := (catalog.setting id).enabled }

/-- A path with slashes in place of backslashes. -/
def slashes (path : String) : String :=
  String.ofList (path.toList.map fun c => if c = '\\' then '/' else c)

/-- The result for a diagnostic. -/
def Result.ofDiagnostic (diagnostic : Diagnostic) : Result :=
  { ruleId := diagnostic.id.code, ruleIndex := diagnostic.id.index
    level := Sarif.level diagnostic.severity, message := diagnostic.message
    uri := slashes diagnostic.file, startLine := max diagnostic.line 1
    startColumn := max diagnostic.location.column 1 }

/-- The log of a result of an analysis (`sarif_report`). -/
def Log.ofResult (catalog : Catalog) (result : AnalysisResult) : Log :=
  { rules := DiagnosticId.all.map (Rule.ofId catalog)
    results := result.diagnostics.map Result.ofDiagnostic }

/-- A text as a message. -/
def messageJson (text : String) : Json :=
  .obj [("text", .str text)]

/-- A rule as an object. -/
def Rule.toJson (rule : Rule) : Json :=
  .obj
    [("id", .str rule.id), ("name", .str rule.name),
      ("shortDescription", messageJson rule.shortDescription),
      ("fullDescription", messageJson rule.fullDescription), ("helpUri", .str rule.helpUri),
      ("defaultConfiguration",
        .obj [("level", .str rule.level), ("enabled", .bool rule.enabled)])]

/-- A result as an object. -/
def Result.toJson (result : Result) : Json :=
  .obj
    [("ruleId", .str result.ruleId), ("ruleIndex", .nat result.ruleIndex),
      ("level", .str result.level), ("message", messageJson result.message),
      ("locations", .arr [.obj [("physicalLocation", .obj
        [("artifactLocation", .obj [("uri", .str result.uri)]),
          ("region", .obj [("startLine", .nat result.startLine),
            ("startColumn", .nat result.startColumn)])])]])]

/-- A log as an object. -/
def Log.toJson (log : Log) : Json :=
  let driver : Json := .obj
    [("name", .str toolName), ("version", .str toolVersion),
      ("informationUri", .str informationUri), ("rules", Json.ofList Rule.toJson log.rules)]
  .obj
    [("version", .str version), ("$schema", .str schema),
      ("runs", .arr [.obj [("tool", .obj [("driver", driver)]),
        ("results", Json.ofList Result.toJson log.results)]])]

end ModLint.Sarif
