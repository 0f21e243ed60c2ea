import ModLint.Check.Cursor
import ModLint.Check.Entity
import ModLint.Check.Hooks
import ModLint.Check.Tracker

/-!
# Checkers

The four checks side by side. A checker says which conditions it may find and which kinds of events
it wants to see; a list of checkers is what an analysis consists of.
-/

namespace ModLint

/-- A check. -/
inductive Checker where
  /-- Replacements of methods. -/
  | hooks
  /-- Instruction cursors. -/
  | ilCursor
  /-- Custom entities. -/
  | entity
  /-- The tracker. -/
  | tracker
deriving DecidableEq

namespace Checker

/-- All checks, in the order in which they see an event. -/
def builtin : List Checker :=
  [.hooks, .ilCursor, .entity, .tracker]

/-- The name of a check. -/
def name : Checker → String
  | .hooks => "hooks"
  | .ilCursor => "il_cursor"
  | .entity => "entity"
  | .tracker => "tracker"

/-- The conditions that a check may find (`supported_diagnostics`). -/
def conditions : Checker → List DiagnosticId
  | .hooks => Check.Hooks.conditions
  | .ilCursor => Check.Cursor.conditions
  | .entity => Check.Entity.conditions
  | .tracker => Check.Tracker.conditions

/-- The kinds of events that a check looks at (`subscriptions`). -/
def eventKinds : Checker → List EventKind
  | .hooks => Check.Hooks.eventKinds
  | .ilCursor => Check.Cursor.eventKinds
  | .entity => Check.Entity.eventKinds
  | .tracker => Check.Tracker.eventKinds

/-- What a check finds at an event. -/
def inspect : Checker → Program → FrameworkNames → Event → Lookup (List Finding)
  | .hooks => Check.Hooks.inspect
  | .ilCursor => Check.Cursor.inspect
  | .entity => Check.Entity.inspect
  | .tracker => Check.Tracker.inspect

/-- Those of some checks that look at a kind of event. -/
def subscribers (checkers : List Checker) (kind : EventKind) : List Checker :=
  checkers.filter fun checker => checker.eventKinds.contains kind

/-- Whether any of some checks looks at a kind of event. -/
def isSubscribed (checkers : List Checker) (kind : EventKind) : Bool :=
  !(subscribers checkers kind).isEmpty

end Checker

end ModLint
