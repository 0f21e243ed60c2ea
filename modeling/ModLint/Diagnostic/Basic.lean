import ModLint.Diagnostic.Id
import ModLint.Program.Dump
import ModLint.Program.Load
import ModLint.Severity

/-!
# Diagnostics

A diagnostic is a condition that was found at a place. Diagnostics are listed by file, position,
code and message; those that agree in all four are one diagnostic.
-/

namespace ModLint

/-- A condition found at a place. -/
structure Diagnostic where
  /-- The condition. -/
  id : DiagnosticId
  /-- How bad it is. -/
  severity : Severity
  /-- Where it was found. -/
  location : Location
  /-- The message. -/
  message : String
  /-- The arguments of the message. -/
  args : List String := []
deriving DecidableEq

namespace Diagnostic

/-- The path of the file. -/
def file (diagnostic : Diagnostic) : String :=
  diagnostic.location.file

/-- The line it starts on. -/
def line (diagnostic : Diagnostic) : Nat :=
  diagnostic.location.line

/-- A text that tells diagnostics apart. -/
def key (diagnostic : Diagnostic) : String :=
  diagnostic.id.code ++ "|" ++ diagnostic.file ++ "|"
    ++ toString diagnostic.location.span.startByte ++ "|" ++ diagnostic.message

/-- Compares by file, start, code and message, the first difference counts. -/
def order (a b : Diagnostic) : Ordering :=
  (compare a.file b.file).then <|
    (compare a.location.span.startByte b.location.span.startByte).then <|
      (compare a.id.code b.id.code).then (compare a.message b.message)

/-- Whether one diagnostic may stand before another. -/
def le (a b : Diagnostic) : Bool :=
  (order a b).isLE

/-- Diagnostics in their order; those that compare equal keep their places. -/
def sorted (diagnostics : List Diagnostic) : List Diagnostic :=
  diagnostics.mergeSort le

/-- Drops every diagnostic that has the key of the one kept before it. -/
def dropRepeats : List Diagnostic → List Diagnostic
  | [] => []
  | diagnostic :: rest => diagnostic :: go diagnostic rest
where
  /-- Drops repetitions behind the diagnostic `kept`. -/
  go (kept : Diagnostic) : List Diagnostic → List Diagnostic
    | [] => []
    | diagnostic :: rest =>
      if diagnostic.key == kept.key then go kept rest else diagnostic :: go diagnostic rest

/-- Diagnostics in their order and without repetitions (`sort_and_dedup`). -/
def canonical (diagnostics : List Diagnostic) : List Diagnostic :=
  dropRepeats (sorted diagnostics)

/-- A diagnostic as an object. -/
def toJson (diagnostic : Diagnostic) : Json :=
  .obj
    [("id", diagnostic.id.toJson), ("severity", diagnostic.severity.toJson),
      ("location", diagnostic.location.toJson), ("message", .str diagnostic.message),
      ("args", Json.ofList .str diagnostic.args)]

/-- A diagnostic from a record. -/
def decode : Decoder Diagnostic :=
  fun rules datum => do
    let fields ← Record.read ["id", "severity", "location", "message", "args"] rules datum
    return {
      id := ← fields.required "id" DiagnosticId.decode
      severity := ← fields.required "severity" Severity.decode
      location := ← fields.required "location" Location.decode
      message := ← fields.required "message" Decoder.string
      args := ← fields.getD "args" Decoder.string.list [] }

end Diagnostic

end ModLint
