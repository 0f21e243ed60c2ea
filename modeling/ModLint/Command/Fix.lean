import ModLint.Command.Arguments
import ModLint.Command.Input
import ModLint.Fix.Action
import ModLint.Report.Style
import ModLint.Text.Bytes

/-!
# The command that fixes diagnostics

Without a place the command lists all diagnostics that can be fixed. With a place it shows the edit
that fixes the diagnostic there, and makes it if asked to. A source file is changed only if it still
is the one that the dump was made from.
-/

namespace ModLint.Command

variable {m : Type → Type} [Monad m]

/-- The diagnostics that can be fixed, with their fixes. -/
def fixable (p : Program) (diagnostics : List Diagnostic) :
    Lookup (List (Diagnostic × CodeAction)) :=
  diagnostics.filterMapM fun diagnostic => do
    return (← CodeAction.offer p diagnostic).map fun action => (diagnostic, action)

/-- The lines about a diagnostic that can be fixed. -/
def fixableLines (color : Bool) : Diagnostic × CodeAction → String
  | (diagnostic, action) =>
    diagnostic.file ++ ":" ++ toString diagnostic.line ++ "  "
      ++ Style.bold.paint color diagnostic.id.code ++ "  " ++ diagnostic.message ++ "\n"
      ++ "    " ++ Style.dimmed.paint color "fix:" ++ " " ++ action.title ++ "\n"

/-- The list of all diagnostics that can be fixed (`list_fixable`). -/
def fixableList (color : Bool) (fixes : List (Diagnostic × CodeAction)) : String :=
  if fixes.isEmpty then "No fixable diagnostics.\n"
  else
    String.join (fixes.map (fixableLines color))
      ++ "\nApply one with: celestecheck fix <model> --at <file>:<line> --write\n"

/-- The text behind the last line break. -/
def lastLine (text : List Char) : List Char :=
  (text.reverse.takeWhile (· != '\n')).reverse

/-- The line of a text that holds a position, without carriage returns at its end (`line_at`). -/
def lineAt (text : String) (position : Nat) : Lookup String :=
  match Text.splitAtByte? position text.toList with
  | none => throw (.cut position)
  | some (before, after) =>
    let line := lastLine before ++ after.takeWhile (· != '\n')
    return String.ofList (line.reverse.dropWhile (· == '\r')).reverse

/-- Whether the modifiers of a node stand in a text where the program says (`source_matches`). -/
def sourceMatches (node : SyntaxNode) (text : String) : Bool :=
  (node.kind.modifiers?.getD []).all fun modifier =>
    Text.slice? modifier.span.startByte modifier.span.endByte text.toList
      == some modifier.text.toList

/-- The lines that show an edit: the line that it changes, before and after it. -/
def editLines (color : Bool) (diagnostic : Diagnostic) (action : CodeAction)
    (before after : String) : String :=
  Style.bold.paint color diagnostic.id.code ++ " " ++ diagnostic.location.display ++ "  "
    ++ action.title ++ "\n"
    ++ "  " ++ Style.red.paint color "-" ++ " " ++ Style.red.paint color before ++ "\n"
    ++ "  " ++ Style.green.paint color "+" ++ " " ++ Style.green.paint color after ++ "\n"

/-- Writes the edited text into the source file, which must hold the text before the edit. -/
def writeSource (fs : FileSystem m) (path text fixed shown : String) : Action m Outcome := do
  match ← fs.read path with
  | .error error => Action.fail shown (.sourceUnreadable path error)
  | .ok current =>
    if current ≠ text then throw { notice := .sourceDiffers path, output := shown }
    match ← fs.write path fixed with
    | .error error => Action.fail shown (.sourceUnwritable error)
    | .ok () => return { output := shown ++ "\nWrote " ++ path ++ "\n" }

/-- Applies a fix: shows the edit, and makes it if asked to. -/
def applyFix (fs : FileSystem m) (overflow : Overflow) (color write : Bool) (directory : String)
    (disk : String → Option String) (p : Program) (diagnostic : Diagnostic)
    (action : CodeAction) : Action m Outcome := do
  let some applied ← Action.found (action.apply overflow p)
    | Action.refuse (.notApplied action.title)
  let node ← Action.found (p.node action.target)
  let source ← Action.found (p.file node.file)
  let path := Path.join directory source.path
  let some text ← Action.found (p.sourceText disk node.file)
    | Action.refuse (.noSource source.path)
  if !sourceMatches node text then Action.refuse (.sourceDiffers path)
  let some fixed := applied.edit.apply text
    | Action.refuse (.editMisfit applied.edit source.path)
  let before ← Action.found (lineAt text applied.edit.start)
  let after ← Action.found (lineAt fixed applied.edit.start)
  let shown := editLines color diagnostic action before after
  if write then writeSource fs path text fixed shown else return { output := shown }

/-- Lists what can be fixed, or fixes the first diagnostic at a place (`run_fix`). -/
def runFix (fs : FileSystem m) (overflow : Overflow) (color : Bool) (arguments : FixArguments) :
    Action m Outcome := do
  let (config, _) ← loadConfig fs arguments.config
  let program ← loadModel fs arguments.model
  let analyzer ← analyzerOf config
  let directory := modelDirectory arguments.model
  let disk ← liftM (sourcesOf fs directory program)
  let result ← Action.found (analyzer.run disk program)
  let fixes ← Action.found (fixable program result.diagnostics)
  match arguments.at? with
  | none => return { output := fixableList color fixes }
  | some text =>
    let some place := Place.parse? text | Action.refuse (.badPlace text)
    match fixes.find? fun (diagnostic, _) => place.covers diagnostic with
    | none => Action.refuse (.nothingToFix place)
    | some (diagnostic, action) =>
      applyFix fs overflow color arguments.write directory disk program diagnostic action

end ModLint.Command
