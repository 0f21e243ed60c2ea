import ModLint.Program.Basic

/-!
# Walks along the syntax

Going up from a node to its ancestors and down to its descendants. In a program whose nodes form a
forest both ends are reached; the walks carry a bound on their steps that is never met there, and
report a fault if it is met because the links go in circles.
-/

namespace ModLint.Program

/-- The chain of parents that starts with `id?`, in at most `bound` steps. -/
def parentsFrom (p : Program) : Nat → Option NodeId → Lookup (List NodeId)
  | _, none => .ok []
  | 0, some _ => .error .endless
  | bound + 1, some id => do
    let node ← p.node id
    return id :: (← parentsFrom p bound node.parent)

/-- The parents of a node, innermost first. -/
def ancestors (p : Program) (id : NodeId) : Lookup (List NodeId) := do
  let node ← p.node id
  parentsFrom p p.nodes.size node.parent

/-- A bound on the steps of a walk down: in a program with `n` nodes and no circle a path has fewer
than `n` steps, each of which takes one of the places in the child lists. -/
def walkBound (p : Program) : Nat :=
  Nat.pow ((p.nodes.toList.flatMap fun node => node.kind.children).length + 2) p.nodes.size

/-- Visits the nodes of a stack and what lies below them, children before the rest of the stack.
A node other than the root is left out, with everything below it, if its kind satisfies `stop`. -/
def visit (p : Program) (root : NodeId) (stop : NodeKind → Bool) :
    Nat → List NodeId → Lookup (List NodeId)
  | _, [] => .ok []
  | 0, _ :: _ => .error .endless
  | bound + 1, id :: stack => do
    let node ← p.node id
    if id ≠ root && stop node.kind then visit p root stop bound stack
    else return id :: (← visit p root stop bound (node.kind.children ++ stack))

/-- A node and what lies below it, parents before children and children in order
(`descendants_until`). Nodes that satisfy `stop` are not entered, the first one apart. -/
def descendantsUntil (p : Program) (id : NodeId) (stop : NodeKind → Bool) :
    Lookup (List NodeId) :=
  visit p id stop p.walkBound [id]

/-- A node and everything below it. -/
def descendants (p : Program) (id : NodeId) : Lookup (List NodeId) :=
  p.descendantsUntil id fun _ => false

/-- The text of a name in at most `bound` levels. -/
def nameText (p : Program) : Nat → NodeId → Lookup (Option String)
  | 0, _ => .error .endless
  | bound + 1, id => do
    match (← p.node id).kind with
    | .identifier name _ => return some name
    | .memberAccess expression name _ =>
      return (← nameText p bound expression).map fun text => text ++ "." ++ name
    | .parenthesized expression =>
      return (← nameText p bound expression).map fun text => "(" ++ text ++ ")"
    | _ => return none

/-- The text of an expression made of names, members and parentheses only (`expression_text`). -/
def expressionText (p : Program) (id : NodeId) : Lookup (Option String) :=
  nameText p (p.nodes.size + 1) id

end ModLint.Program
