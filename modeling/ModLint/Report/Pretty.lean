import ModLint.Diagnostic.Catalog
import ModLint.Report.Style
import ModLint.Report.Summary

/-!
# Reports for people
-/

namespace ModLint.Pretty

/-- A line with its line break. -/
def line (text : String) : String :=
  text ++ "\n"

/-- The tag of a severity, with blanks around it. -/
def severityTag (color : Bool) : Severity → String
  | .error => "    " ++ Style.red.paint color "ERROR" ++ " "
  | .warning => "    " ++ Style.yellow.paint color "WARN " ++ " "
  | .info => "    " ++ Style.blue.paint color "INFO " ++ " "

/-- What was analysed. -/
def header (color : Bool) (context : ReportContext) : String :=
  let config := match context.config with
    | some path => path
    | none => Style.dimmed.paint color "(defaults)"
  line ""
    ++ line ("  " ++ Style.title.paint color "celestecheck" ++ " v" ++ toolVersion)
    ++ line ""
    ++ line ("  " ++ Style.dimmed.paint color "Scanning: " ++ context.path)
    ++ line ("  " ++ Style.dimmed.paint color "Config:   " ++ config)
    ++ line ""

/-- Whether the run passed, and how much was found. -/
def verdict (color : Bool) (summary : Summary) : String :=
  let remark (text : String) : String := "  " ++ Style.dimmed.paint color ("(" ++ text ++ ")")
  let count (style : Style) (severity : Severity) : String :=
    style.paint color (toString (summary.counts severity))
  let suppressed := summary.suppressed.length
  line ("  "
    ++ (if summary.passed then Style.green.paint color "✓ PASS"
      else Style.red.paint color "✗ FAIL")
    ++ "  " ++ count .red .error ++ " error(s), " ++ count .yellow .warning ++ " warning(s), "
    ++ count .blue .info ++ " info"
    ++ remark (toString summary.models ++ " model(s)")
    ++ (if suppressed = 0 then "" else remark (toString suppressed ++ " suppressed"))
    ++ (if summary.excluded = 0 then "" else remark (toString summary.excluded ++ " excluded")))

/-- The code of a condition in its column, and the path. -/
def place (color : Bool) (diagnostic : Diagnostic) : String :=
  Style.dimmed.paint color (padded 8 diagnostic.id.code)
    ++ Style.blue.paint color diagnostic.file

/-- A diagnostic. -/
def diagnosticLines (color : Bool) (diagnostic : Diagnostic) : String :=
  let position :=
    ":" ++ toString diagnostic.line ++ ":" ++ toString diagnostic.location.column
  line (severityTag color diagnostic.severity ++ "   " ++ place color diagnostic
      ++ Style.dimmed.paint color position)
    ++ line ("            " ++ diagnostic.message)
    ++ line ("            " ++ Style.dimmed.paint color diagnostic.id.name)
    ++ line ""

/-- The diagnostics that stay. -/
def diagnosticSection (color : Bool) (diagnostics : List Diagnostic) : String :=
  if diagnostics.isEmpty then ""
  else
    line ("  " ++ Style.bold.paint color "Diagnostics" ++ " ("
        ++ toString diagnostics.length ++ "):")
      ++ line "" ++ String.join (diagnostics.map (diagnosticLines color)) ++ line ""

/-- A diagnostic that was set aside. -/
def suppressedLines (color : Bool) (suppressed : SuppressedDiagnostic) : String :=
  let diagnostic := suppressed.diagnostic
  let suppression := suppressed.suppression
  let position :=
    match suppression.suppressionType with
    | .file => ":* (file)"
    | _ => ":" ++ toString diagnostic.line
  line ("    " ++ place color diagnostic ++ Style.dimmed.paint color position)
    ++ if suppression.reason.isEmpty then ""
      else line ("            "
        ++ Style.dimmed.paint color ("reason: " ++ Text.quoted suppression.reason))

/-- The diagnostics that were set aside, in detail if asked for. -/
def suppressedSection (color details : Bool) (suppressed : List SuppressedDiagnostic) : String :=
  if suppressed.isEmpty then ""
  else
    line ("  " ++ Style.dimmed.paint color "Suppressed" ++ " ("
        ++ toString suppressed.length ++ "):")
      ++ (if details then
          line "" ++ String.join (suppressed.map (suppressedLines color))
        else
          line ("    " ++ Style.dimmed.paint color "(use --show-suppressed to see details)"))
      ++ line ""

/-- A report (`write_pretty`). -/
def report (color details : Bool) (summary : Summary) : String :=
  header color summary.context ++ verdict color summary ++ line ""
    ++ diagnosticSection color summary.diagnostics
    ++ suppressedSection color details summary.suppressed

/-- A rule of the catalog. -/
def ruleLine (color : Bool) (catalog : Catalog) (id : DiagnosticId) : String :=
  let setting := catalog.setting id
  line (severityTag color setting.severity ++ Style.bold.paint color id.code ++ "  "
    ++ padded 34 id.name ++ " " ++ Style.dimmed.paint color id.title
    ++ if setting.enabled then "" else " " ++ Style.dimmed.paint color "(disabled)")

/-- The catalog as a table (`write_rules`). -/
def rules (color : Bool) (catalog : Catalog) : String :=
  line "" ++ String.join (DiagnosticId.all.map (ruleLine color catalog)) ++ line ""

end ModLint.Pretty
