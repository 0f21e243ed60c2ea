import ModLint.Check.Event
import ModLint.Program.Query

/-!
# Instruction cursors

A cursor edits the instructions of a method. It should be given static methods to call, not remove
instructions that others may look for, and not be moved by long chains of predicates.
-/

namespace ModLint.Check.Cursor

/-- Whether a method needs an instance (`is_instance_method`). -/
def needsInstance (method : MethodSymbol) : Bool :=
  (method.kind == .ordinary || method.kind == .localFunction) && !method.isStatic

/-- What is found about the argument of the method that emits a call (`check_emitted`). -/
def emitFindings (p : Program) (emit : String) (argument : NodeId) : Lookup (List Finding) := do
  match (← p.node argument).kind with
  | .anonymousFunction .. => return [⟨.dontUseLambdas, argument, [emit]⟩]
  | .identifier name (some (.method method)) =>
    if needsInstance (← p.method method) then
      return [⟨.dontEmitInstanceMethods, argument, [name, emit]⟩]
    else return []
  | _ => return []

/-- What is found about a call of a method of the cursor. -/
def callFindings (p : Program) (methods : CursorMethods) (id : NodeId) (name : String)
    (arguments : List NodeId) : Lookup (List Finding) := do
  if name == methods.emitDelegate then
    match arguments with
    | [argument] => emitFindings p name argument
    | _ => return []
  else if methods.remove.contains name then return [⟨.dontUseCursorRemove, id, [name]⟩]
  else if methods.navigation.contains name
      && methods.chainedPredicateThreshold ≤ arguments.length then
    return [⟨.dontChainPredicatesInCursorGoto, id, [name, toString arguments.length]⟩]
  else return []

/-- What is found at an event. -/
def inspect (p : Program) (names : FrameworkNames) (event : Event) : Lookup (List Finding) := do
  let .invocation id := event | return []
  let .invocation _ arguments (some target) _ := (← p.node id).kind | return []
  let method ← p.method target
  if method.kind ≠ .ordinary then return []
  let some owner := method.containingType | return []
  if (← p.fullTypeName owner) == names.ilCursor then
    callFindings p names.cursor id method.name arguments
  else return []

/-- The conditions that may be found. -/
def conditions : List DiagnosticId :=
  [.dontUseLambdas, .dontEmitInstanceMethods, .dontUseCursorRemove,
    .dontChainPredicatesInCursorGoto]

/-- The kinds of events that are looked at. -/
def eventKinds : List EventKind :=
  [.invocation]

end ModLint.Check.Cursor
