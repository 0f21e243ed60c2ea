import ModLint.Suppression.Basic

/-!
# Results of an analysis
-/

namespace ModLint

/-- The result of analysing some programs. -/
structure AnalysisResult where
  /-- The diagnostics that stay. -/
  diagnostics : List Diagnostic := []
  /-- The diagnostics that were set aside by comments. -/
  suppressed : List SuppressedDiagnostic := []
  /-- How many diagnostics were dropped because of their path. -/
  excluded : Nat := 0
  /-- How many programs were analysed. -/
  models : Nat := 0
deriving DecidableEq

namespace AnalysisResult

/-- Two results as one. -/
def merge (a b : AnalysisResult) : AnalysisResult :=
  { diagnostics := a.diagnostics ++ b.diagnostics
    suppressed := a.suppressed ++ b.suppressed
    excluded := a.excluded + b.excluded
    models := a.models + b.models }

/-- How many diagnostics have a severity. -/
def count (result : AnalysisResult) (severity : Severity) : Nat :=
  result.diagnostics.countP fun diagnostic => diagnostic.severity = severity

/-- Whether no diagnostic is as bad as a threshold. -/
def passed (result : AnalysisResult) (threshold : Severity) : Bool :=
  !result.diagnostics.any fun diagnostic => diagnostic.severity.atLeast threshold

/-- The members of a result as an object. -/
def members (result : AnalysisResult) : List (String × Json) :=
  [("diagnostics", Json.ofList Diagnostic.toJson result.diagnostics),
    ("suppressed", Json.ofList SuppressedDiagnostic.toJson result.suppressed),
    ("excluded", .nat result.excluded), ("models", .nat result.models)]

/-- A result from a record. -/
def decode : Decoder AnalysisResult :=
  fun rules datum => do
    let fields ← Record.read ["diagnostics", "suppressed", "excluded", "models"] rules datum
    return {
      diagnostics := ← fields.required "diagnostics" Diagnostic.decode.list
      suppressed := ← fields.getD "suppressed" SuppressedDiagnostic.decode.list []
      excluded := ← fields.getD "excluded" Decoder.nat 0
      models := ← fields.required "models" Decoder.nat }

end AnalysisResult

end ModLint
