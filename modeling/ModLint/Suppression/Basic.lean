import ModLint.Diagnostic.Basic
import ModLint.Suppression.Directive

/-!
# Suppressions

A suppression is what a directive in a file asks for. It covers a line or the whole file, and the
diagnostics there of its rule are set aside.
-/

namespace ModLint

/-- What a suppression covers. -/
inductive SuppressionType where
  /-- The line it stands on. -/
  | line
  /-- The line behind it. -/
  | nextLine
  /-- The whole file. -/
  | file
deriving DecidableEq

/-- The word for what a suppression covers. -/
def SuppressionType.word : SuppressionType → String
  | .line => "line"
  | .nextLine => "nextline"
  | .file => "file"

/-- A request to set diagnostics aside. -/
structure Suppression where
  /-- The code or name of the rule, or a star for all rules. -/
  rule : String
  /-- The reason. -/
  reason : String
  /-- The file it stands in. -/
  file : String
  /-- The line it stands on; zero if it covers the whole file. -/
  line : Nat
  /-- What it covers. -/
  suppressionType : SuppressionType
deriving DecidableEq

/-- A diagnostic that was set aside, and why. -/
structure SuppressedDiagnostic where
  /-- The diagnostic. -/
  diagnostic : Diagnostic
  /-- The suppression. -/
  suppression : Suppression
deriving DecidableEq

namespace Suppression

/-- The number of lines at the start of a file that always count as its header. -/
def headerLines : Nat := 10

/-- Whether a line, trimmed, belongs to the header of a file: it is empty, a comment or an
instruction to the preprocessor. -/
def isHeaderLine (line : List Char) : Bool :=
  line.isEmpty || "//".toList.isPrefixOf line || "/*".toList.isPrefixOf line
    || "*".toList.isPrefixOf line || "#".toList.isPrefixOf line

/-- What a directive on a line asks for. A directive for the whole file counts only in the header;
a plain one covers the next line if nothing stands in front of it. -/
def ofDirective? (file : String) (inHeader : Bool) (number : Nat) (directive : Directive) :
    Option Suppression :=
  let make (line : Nat) (type : SuppressionType) : Suppression :=
    { rule := String.ofList directive.rule, reason := String.ofList (Text.trim directive.reason)
      file, line, suppressionType := type }
  match directive.word with
  | .ignoreFile =>
    if inHeader || number ≤ headerLines then some (make 0 .file) else none
  | .ignoreNextLine => some (make number .nextLine)
  | .ignore =>
    if (Text.trim directive.before).isEmpty then some (make number .nextLine)
    else some (make number .line)

/-- The suppression on a line: the first of its directives that asks for one. -/
def ofLine? (file : String) (inHeader : Bool) (number : Nat) (line : List Char) :
    Option Suppression :=
  (Directive.ofLine line).findSome? (ofDirective? file inHeader number)

/-- The suppressions of lines. `header` says whether all lines before belong to the header, and
`number` is the number of the first line. -/
def ofLines (file : String) : Bool → Nat → List (List Char) → List Suppression
  | _, _, [] => []
  | header, number, line :: rest =>
    let header := header && isHeaderLine (Text.trim line)
    (ofLine? file header number line).toList ++ ofLines file header (number + 1) rest

/-- The suppressions of a file (`parse_suppressions`). -/
def parse (file content : String) : List Suppression :=
  ofLines file true 1 (Text.lines content.toList)

/-- Whether a suppression is for a condition. -/
def isFor (suppression : Suppression) (id : DiagnosticId) : Bool :=
  suppression.rule == "*" || DiagnosticId.parse? suppression.rule == some id

/-- Whether a suppression covers a line of its file. -/
def coversLine (suppression : Suppression) (line : Nat) : Bool :=
  match suppression.suppressionType with
  | .file => true
  | .line => line == suppression.line
  | .nextLine => line == suppression.line + 1

/-- Whether a suppression sets a diagnostic aside (`matches_suppression`). -/
def covers (suppression : Suppression) (diagnostic : Diagnostic) : Bool :=
  diagnostic.file == suppression.file && suppression.isFor diagnostic.id
    && suppression.coversLine diagnostic.line

/-- Sets aside what is covered (`filter_suppressed`): the diagnostics that stay, and the others with
the first suppression that covers them. -/
def apply (suppressions : List Suppression) (diagnostics : List Diagnostic) :
    List Diagnostic × List SuppressedDiagnostic :=
  (diagnostics.filter fun diagnostic => !suppressions.any fun s => s.covers diagnostic,
    diagnostics.filterMap fun diagnostic =>
      (suppressions.find? fun s => s.covers diagnostic).map fun suppression =>
        { diagnostic, suppression })

/-- A suppression as an object. -/
def toJson (suppression : Suppression) : Json :=
  .obj
    [("rule", .str suppression.rule), ("reason", .str suppression.reason),
      ("file", .str suppression.file), ("line", .nat suppression.line),
      ("suppression_type", .str suppression.suppressionType.word)]

/-- A suppression from a record. -/
def decode : Decoder Suppression :=
  fun rules datum => do
    let fields ← Record.read ["rule", "reason", "file", "line", "suppression_type"] rules datum
    let types := [SuppressionType.line, .nextLine, .file].map fun type => (type.word, type)
    return {
      rule := ← fields.required "rule" Decoder.string
      reason := ← fields.required "reason" Decoder.string
      file := ← fields.required "file" Decoder.string
      line := ← fields.required "line" Decoder.nat
      suppressionType := ← fields.required "suppression_type" (Decoder.oneOf types) }

end Suppression

namespace SuppressedDiagnostic

/-- A diagnostic that was set aside as an object. -/
def toJson (suppressed : SuppressedDiagnostic) : Json :=
  .obj
    [("diagnostic", suppressed.diagnostic.toJson), ("suppression", suppressed.suppression.toJson)]

/-- A diagnostic that was set aside, from a record. -/
def decode : Decoder SuppressedDiagnostic :=
  fun rules datum => do
    let fields ← Record.read ["diagnostic", "suppression"] rules datum
    return {
      diagnostic := ← fields.required "diagnostic" Diagnostic.decode
      suppression := ← fields.required "suppression" Suppression.decode }

end SuppressedDiagnostic

end ModLint
