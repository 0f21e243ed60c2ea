import ModLint.Program.Basic

/-!
# Names of namespaces and types

The chains of namespaces and containing types are followed for as many steps as there are
namespaces and types, so that a name is found even if a chain goes in circles.
-/

namespace ModLint.Program

/-- The segments of a namespace from the inside out, at most `bound` of them. -/
def segments (p : Program) : Nat → Option NamespaceId → Lookup (List String)
  | _, none => .ok []
  | 0, some _ => .ok []
  | bound + 1, some id => do
    let space ← p.nameSpace id
    return space.name :: (← segments p bound space.parent)

/-- The dotted path of a namespace (`namespace_path`); empty for the global one. -/
def namespacePath (p : Program) (id? : Option NamespaceId) : Lookup String := do
  return ".".intercalate (← segments p (p.namespaces.size + 1) id?).reverse

/-- A type and the types around it, from the inside out, with at most `bound` types around it. -/
def containers (p : Program) : Nat → TypeId → Lookup (List TypeSymbol)
  | 0, id => return [← p.type id]
  | bound + 1, id => do
    let symbol ← p.type id
    match symbol.containingType with
    | none => return [symbol]
    | some outer =>
      if outer = id then return [symbol] else return symbol :: (← containers p bound outer)

/-- The full name of a type (`full_type_name`): its namespace, the types around it and its own name,
with dots. -/
def fullTypeName (p : Program) (id : TypeId) : Lookup String := do
  let chain ← containers p p.types.size id
  let name := ".".intercalate (chain.map (·.name)).reverse
  let path ← p.namespacePath (chain.getLast?.bind (·.nameSpace))
  return if path == "" then name else path ++ "." ++ name

/-- The first type with a full name (`find_type`). -/
def findType (p : Program) (name : String) : Lookup (Option TypeId) :=
  p.typeIds.findM? fun id => do return (← p.fullTypeName id) == name

end ModLint.Program
