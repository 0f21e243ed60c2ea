import ModLint.Check.Event
import ModLint.Program.Query

/-!
# The tracker

The tracker keeps lists of all entities of the types that are marked as tracked. A type may be
tracked as another one only if it extends that one, the tracker knows nothing about other types,
and looking through all entities is slower than asking the tracker.
-/

namespace ModLint.Check.Tracker

/-- What is found about a declared type (`check_tracked_as`). -/
def typeFindings (p : Program) (names : FrameworkNames) (id : TypeId) :
    Lookup (List Finding) := do
  let some data ← p.findAttribute id names.trackedAsAttribute | return []
  let [.type target] := data.arguments | return []
  if ← p.extendsType id (← p.fullTypeName target) then return []
  let symbol ← p.type id
  let some node := data.site <|> symbol.declaration | return []
  return [⟨.invalidTrackedAs, node, [symbol.name, ← p.typeName target]⟩]

/-- What is found about a call of a method of the type `owner` for the type `used`. -/
def callFindings (p : Program) (names : FrameworkNames) (id : NodeId) (owner : TypeId)
    (name : String) (used : TypeId) : Lookup (List Finding) := do
  let ownerName ← p.fullTypeName owner
  let usedName ← p.typeName used
  if ownerName == names.tracker then
    if names.trackerChecks.contains name then return []
    if ← p.isTracked names used then return []
    return [⟨.trackerUsedOnUntrackedType, id, [usedName, name]⟩]
  else if ownerName == names.entityList && names.entityListScans.contains name then
    if ← p.isTracked names used then return [⟨.dontUseFindAll, id, [name, usedName]⟩]
    if ← p.isSourceLocal (.type used) then return [⟨.dontUseFindAll, id, [name, usedName]⟩]
    return []
  else return []

/-- What is found about a call (`check_invocation`). Calls without type arguments say nothing about
a type. -/
def invocationFindings (p : Program) (names : FrameworkNames) (id : NodeId) :
    Lookup (List Finding) := do
  let .invocation _ _ (some target) typeArguments := (← p.node id).kind | return []
  let method ← p.method target
  if method.kind ≠ .ordinary then return []
  let some owner := method.containingType | return []
  let some used := typeArguments.head? | return []
  callFindings p names id owner method.name used

/-- What is found at an event. -/
def inspect (p : Program) (names : FrameworkNames) (event : Event) : Lookup (List Finding) :=
  match event with
  | .namedType id => typeFindings p names id
  | .invocation id => invocationFindings p names id
  | _ => return []

/-- The conditions that may be found. -/
def conditions : List DiagnosticId :=
  [.dontUseFindAll, .trackerUsedOnUntrackedType, .invalidTrackedAs]

/-- The kinds of events that are looked at. -/
def eventKinds : List EventKind :=
  [.namedType, .invocation]

end ModLint.Check.Tracker
