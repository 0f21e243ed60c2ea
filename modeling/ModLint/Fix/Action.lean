import ModLint.Diagnostic.Basic
import ModLint.Fix.MakeStatic

/-!
# Fixes for diagnostics

A fix is offered for a diagnostic, as an action that can be applied to the program.
-/

namespace ModLint

/-- A fix that is offered. -/
structure CodeAction where
  /-- What it does. -/
  title : String := "Make hook static"
  /-- A key that all fixes of its kind share. -/
  equivalenceKey : String := "MakeHookStatic"
  /-- The file that it edits. -/
  file : String
  /-- The node that it changes. -/
  target : NodeId
deriving DecidableEq

/-- Whether there is a fix for a condition (`is_fixable`). -/
def DiagnosticId.isFixable (id : DiagnosticId) : Bool :=
  id == .hooksShouldBeStatic

namespace CodeAction

/-- Whether a node is a function that a fix can change. -/
def isCandidate : NodeKind → Bool
  | .method .. | .anonymousFunction .. => true
  | _ => false

/-- The first method or anonymous function that covers exactly the range of a diagnostic
(`find_declaration`). -/
def declarationAt? (p : Program) (diagnostic : Diagnostic) : Option NodeId := do
  let file ← p.fileByPath? diagnostic.file
  let index ← p.nodes.findIdx? fun node =>
    node.file == file && node.span.sameRange diagnostic.location.span && isCandidate node.kind
  return ⟨index⟩

/-- Whether there is a place for the keyword in a function that does not have it yet. -/
def isOpen : NodeKind → Bool
  | .method _ modifiers modifiersStart .. =>
    !MakeStatic.isStatic modifiers && (modifiersStart.isSome || !modifiers.isEmpty)
  | .anonymousFunction _ modifiers .. => !MakeStatic.isStatic modifiers
  | _ => false

/-- The fix for a diagnostic (`action_for`). -/
def offer (p : Program) (diagnostic : Diagnostic) : Lookup (Option CodeAction) := do
  if !diagnostic.id.isFixable then return none
  let some target := declarationAt? p diagnostic | return none
  if isOpen (← p.node target).kind then return some { file := diagnostic.file, target }
  else return none

/-- Applies a fix to a program. -/
def apply (action : CodeAction) (overflow : Overflow) (p : Program) : Lookup (Option AppliedFix) :=
  MakeStatic.apply overflow p action.target

/-- An action as an object. -/
def toJson (action : CodeAction) : Json :=
  .obj
    [("title", .str action.title), ("equivalence_key", .str action.equivalenceKey),
      ("file", .str action.file), ("target", action.target.toJson)]

end CodeAction

end ModLint
