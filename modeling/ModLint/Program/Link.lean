import ModLint.Program.Check

/-!
# Links to parents

The parent of a node is the node that lists it as a child. `Program.link` computes these links and
succeeds only if the nodes form a forest: no node is listed twice and none is its own ancestor.
-/

namespace ModLint.Program

/-- A node without its parent. -/
def orphan (node : SyntaxNode) : SyntaxNode :=
  { node with parent := none }

/-- The child list of the node at a position. -/
def childrenAt (nodes : Array SyntaxNode) (i : Nat) : List NodeId :=
  (nodes[i]?.map (·.kind.children)).getD []

/-- Replaces the parent of a node. -/
def setParent (nodes : Array SyntaxNode) (child : Nat) (parent : NodeId) : Array SyntaxNode :=
  nodes.modify child fun node => { node with parent := some parent }

/-- Why links could not be computed. -/
inductive LinkFailure where
  /-- The nodes form no forest. -/
  | invalid (error : ProgramError)
  /-- A child is missing from the arena. -/
  | fault (fault : Fault)
deriving DecidableEq

/-- Enters `parent` as the parent of each child in a list. On failure the nodes keep the links
entered so far. -/
def adopt (parent : NodeId) :
    List NodeId → Array SyntaxNode → Array SyntaxNode × Option LinkFailure
  | [], nodes => (nodes, none)
  | child :: children, nodes =>
    match nodes[child.index]? with
    | none => (nodes, some (.fault (.missing child.reference)))
    | some node =>
      match node.parent with
      | some first =>
        (nodes, some (.invalid (.sharedChild child.index first.index parent.index)))
      | none => adopt parent children (setParent nodes child.index parent)

/-- Enters the parents of the children of each node in a list. -/
def adoptAll :
    List NodeId → Array SyntaxNode → Array SyntaxNode × Option LinkFailure
  | [], nodes => (nodes, none)
  | id :: ids, nodes =>
    match adopt id (childrenAt nodes id.index) nodes with
    | (nodes, none) => adoptAll ids nodes
    | (nodes, some failure) => (nodes, some failure)

/-- Whether following the parents from `current` comes to the node at `start`, or does not end
within `steps` steps. -/
def parentsReturn (nodes : Array SyntaxNode) (start : Nat) : Nat → Option NodeId → Bool
  | _, none => false
  | 0, some _ => true
  | steps + 1, some id =>
    id.index == start
      || parentsReturn nodes start steps (nodes[id.index]?.bind (·.parent))

/-- The first node that is its own ancestor. -/
def cycle? (nodes : Array SyntaxNode) : Option Nat :=
  (List.range nodes.size).find? fun i =>
    parentsReturn nodes i nodes.size (nodes[i]?.bind (·.parent))

/-- Recomputes the links to parents. On failure the program keeps the links entered so far. -/
def relink (p : Program) : Program × Option LinkFailure :=
  match adoptAll p.nodeIds (p.nodes.map orphan) with
  | (nodes, some failure) => ({ p with nodes }, some failure)
  | (nodes, none) =>
    ({ p with nodes }, (cycle? nodes).map fun i => .invalid (.cycle i))

/-- A program with its links to parents, if its nodes form a forest. -/
def link (p : Program) : Except LinkFailure Program :=
  match p.relink with
  | (p, none) => .ok p
  | (_, some failure) => .error failure

end ModLint.Program
