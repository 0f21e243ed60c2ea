import ModLint.Diagnostic.Id
import ModLint.Program.Basic

/-!
# Events and findings

The checks do not walk a program themselves. They are shown *events*, the places of a program that
can matter to them, and answer each with *findings*.
-/

namespace ModLint

/-- The kinds of events. -/
inductive EventKind where
  /-- A type that is declared in the source. -/
  | namedType
  /-- A call. -/
  | invocation
  /-- The creation of an object. -/
  | objectCreation
  /-- The addition or removal of an event handler. -/
  | eventAssignment
  /-- A name that is bound to a property. -/
  | propertyReference
deriving DecidableEq

/-- The word for a kind of event. -/
def EventKind.word : EventKind → String
  | .namedType => "named_type"
  | .invocation => "invocation"
  | .objectCreation => "object_creation"
  | .eventAssignment => "event_assignment"
  | .propertyReference => "property_reference"

/-- A place that can matter to a check. -/
inductive Event where
  /-- A type that is declared in the source. -/
  | namedType (id : TypeId)
  /-- A call. -/
  | invocation (id : NodeId)
  /-- The creation of an object. -/
  | objectCreation (id : NodeId)
  /-- The addition or removal of an event handler. -/
  | eventAssignment (id : NodeId)
  /-- A name that is bound to a property. -/
  | propertyReference (id : NodeId)
deriving DecidableEq

/-- The kind of an event. -/
def Event.kind : Event → EventKind
  | .namedType _ => .namedType
  | .invocation _ => .invocation
  | .objectCreation _ => .objectCreation
  | .eventAssignment _ => .eventAssignment
  | .propertyReference _ => .propertyReference

/-- The position of the type or node of an event. -/
def Event.index : Event → Nat
  | .namedType id => id.index
  | .invocation id => id.index
  | .objectCreation id => id.index
  | .eventAssignment id => id.index
  | .propertyReference id => id.index

/-- A condition that a check found at a node. -/
structure Finding where
  /-- The condition. -/
  id : DiagnosticId
  /-- The node. -/
  node : NodeId
  /-- The arguments of the message. -/
  args : List String
deriving DecidableEq

namespace Program

/-- The event that an assignment raises which adds or takes away a handler: it is one only if its
left side is bound to an event. -/
def assignmentEvent (p : Program) (id left : NodeId) : Lookup (Option Event) := do
  match (← p.node left).kind.symbol? with
  | some (.event _) => return some (.eventAssignment id)
  | _ => return none

/-- The event that a node raises. -/
def eventOf (p : Program) (id : NodeId) : Lookup (Option Event) := do
  match (← p.node id).kind with
  | .invocation .. => return some (.invocation id)
  | .objectCreation .. => return some (.objectCreation id)
  | .assignment .addAssign left _ | .assignment .subtractAssign left _ =>
    p.assignmentEvent id left
  | .identifier _ (some (.property _)) => return some (.propertyReference id)
  | .memberAccess _ _ (some (.property _)) => return some (.propertyReference id)
  | _ => return none

/-- The event that a type raises. -/
def typeEventOf (p : Program) (id : TypeId) : Lookup (Option Event) := do
  return if (← p.type id).declaration.isSome then some (.namedType id) else none

/-- All events of a program (`collect_events`): those of its types, then those of its nodes, in
order. -/
def raisedEvents (p : Program) : Lookup (List Event) := do
  return (← p.typeIds.filterMapM p.typeEventOf) ++ (← p.nodeIds.filterMapM p.eventOf)

end Program

end ModLint
