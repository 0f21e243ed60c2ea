import ModLint.Proofs.Forest
import ModLint.Proofs.Lookup

/-!
# References of checked programs

`Program.check` goes through lists of references. Here the lists are taken apart again: for every
part of a program it is said, field by field, which ids are below a limit. With the sizes of the
arenas as limits, these are the ids that point into their arenas.
-/

namespace ModLint

namespace AttributeArgument

/-- Arguments built from arguments about which something is known already. -/
@[elab_as_elim]
theorem induction {motive : AttributeArgument → Prop} (string : ∀ value, motive (.string value))
    (type : ∀ value, motive (.type value))
    (array : ∀ items, (∀ item ∈ items, motive item) → motive (.array items))
    (bool : ∀ value, motive (.bool value)) (other : ∀ value, motive (.other value))
    (argument : AttributeArgument) : motive argument :=
  @AttributeArgument.rec motive (fun items => ∀ item ∈ items, motive item) string type array bool
    other (List.forall_mem_nil _)
    (fun _ _ hhead htail => List.forall_mem_cons.mpr ⟨hhead, htail⟩) argument

theorem mem_typesOfItems {id : TypeId} {items : List AttributeArgument} :
    id ∈ typesOfItems items ↔ ∃ item ∈ items, id ∈ item.types := by
  induction items with
  | nil => simp [typesOfItems]
  | cons item items ih =>
    rw [typesOfItems, List.mem_append, ih]
    simp [or_comm]

end AttributeArgument

/-- An id below the limit for its arena. -/
def ItemId.Below {arena : Arena} (limit : Arena → Nat) (id : ItemId arena) : Prop :=
  id.index < limit arena

/-- A bound name whose id is below the limit for its arena. -/
def SymbolRef.Below (limit : Arena → Nat) (symbol : SymbolRef) : Prop :=
  symbol.reference.index < limit symbol.reference.arena

/-- An attribute whose ids are below the limits for their arenas. -/
structure AttributeData.IdsBelow (limit : Arena → Nat) (data : AttributeData) : Prop where
  attributeClass : data.attributeClass.Below limit
  site : ∀ id, data.site = some id → id.Below limit
  types : ∀ id ∈ AttributeArgument.typesOfItems data.arguments, id.Below limit

/-- A type whose ids are below the limits for their arenas. -/
structure TypeSymbol.IdsBelow (limit : Arena → Nat) (symbol : TypeSymbol) : Prop where
  nameSpace : ∀ id, symbol.nameSpace = some id → id.Below limit
  containingType : ∀ id, symbol.containingType = some id → id.Below limit
  base : ∀ id, symbol.base = some id → id.Below limit
  attributes : ∀ data ∈ symbol.attributes, data.IdsBelow limit
  members : ∀ id ∈ symbol.members, id.Below limit
  declaration : ∀ id, symbol.declaration = some id → id.Below limit

/-- A method whose ids are below the limits for their arenas. -/
structure MethodSymbol.IdsBelow (limit : Arena → Nat) (symbol : MethodSymbol) : Prop where
  containingType : ∀ id, symbol.containingType = some id → id.Below limit
  returnType : ∀ id, symbol.returnType = some id → id.Below limit
  parameters : ∀ parameter ∈ symbol.parameters, ∀ id, parameter.type = some id → id.Below limit
  declaration : ∀ id, symbol.declaration = some id → id.Below limit

/-- A node whose ids, that of its parent apart, are below the limits for their arenas. -/
structure SyntaxNode.IdsBelow (limit : Arena → Nat) (node : SyntaxNode) : Prop where
  file : node.file.Below limit
  children : ∀ id ∈ node.kind.children, id.Below limit
  declaredMethod : ∀ id, node.kind.declaredMethod? = some id → id.Below limit
  symbol : ∀ symbol, node.kind.symbol? = some symbol → symbol.Below limit
  declaredType : ∀ name id attributes members,
    node.kind = .typeDeclaration name (some id) attributes members → id.Below limit
  declaredProperty : ∀ name id accessors,
    node.kind = .property name (some id) accessors → id.Below limit
  target : ∀ callee arguments id typeArguments,
    node.kind = .invocation callee arguments (some id) typeArguments → id.Below limit
  typeArguments : ∀ callee arguments target typeArguments,
    node.kind = .invocation callee arguments target typeArguments →
      ∀ id ∈ typeArguments, id.Below limit
  created : ∀ name arguments id,
    node.kind = .objectCreation name arguments (some id) → id.Below limit

/-- A program all of whose ids, those of parents apart, are below the limits for their arenas. -/
structure Program.IdsBelow (limit : Arena → Nat) (p : Program) : Prop where
  namespaces : ∀ space ∈ p.namespaces, ∀ id, space.parent = some id → id.Below limit
  types : ∀ symbol ∈ p.types, symbol.IdsBelow limit
  methods : ∀ symbol ∈ p.methods, symbol.IdsBelow limit
  properties : ∀ symbol ∈ p.properties, symbol.containingType.Below limit
  events : ∀ symbol ∈ p.events, symbol.containingType.Below limit
  nodes : ∀ node ∈ p.nodes, node.IdsBelow limit

/-! ## From lists of references to fields -/

/-- A list of references that are all below the limits for their arenas. -/
def AllBelow (limit : Arena → Nat) (references : List Reference) : Prop :=
  ∀ reference ∈ references, reference.index < limit reference.arena

section

variable {limit : Arena → Nat}

theorem allBelow_append {xs ys : List Reference} :
    AllBelow limit (xs ++ ys) ↔ AllBelow limit xs ∧ AllBelow limit ys := by
  simp only [AllBelow, List.mem_append]
  exact ⟨fun h => ⟨fun r hr => h r (Or.inl hr), fun r hr => h r (Or.inr hr)⟩,
    fun h r hr => hr.elim (h.1 r) (h.2 r)⟩

theorem allBelow_cons {arena : Arena} {id : ItemId arena} {xs : List Reference} :
    AllBelow limit (id.reference :: xs) ↔ id.Below limit ∧ AllBelow limit xs := by
  rw [AllBelow, List.forall_mem_cons]
  rfl

theorem allBelow_nil : AllBelow limit [] := by
  simp [AllBelow]

theorem allBelow_map {arena : Arena} {ids : List (ItemId arena)} :
    AllBelow limit (ids.map ItemId.reference) ↔ ∀ id ∈ ids, id.Below limit := by
  rw [AllBelow, List.forall_mem_map]
  rfl

theorem allBelow_references {arena : Arena} {id? : Option (ItemId arena)} :
    AllBelow limit (ItemId.references id?) ↔ ∀ id, id? = some id → id.Below limit := by
  rw [ItemId.references, allBelow_map]
  cases id? <;> simp

theorem allBelow_flatMap {α : Type} {xs : List α} {f : α → List Reference} :
    AllBelow limit (xs.flatMap f) ↔ ∀ x ∈ xs, AllBelow limit (f x) := by
  simp only [AllBelow, List.mem_flatMap]
  exact ⟨fun h x hx r hr => h r ⟨x, hx, hr⟩, fun h r ⟨x, hx, hr⟩ => h x hx r hr⟩

theorem AttributeData.idsBelow_iff {data : AttributeData} :
    data.IdsBelow limit ↔ AllBelow limit data.references := by
  rw [AttributeData.references, List.cons_append, allBelow_cons, allBelow_append,
    allBelow_references, allBelow_map]
  exact ⟨fun h => ⟨h.attributeClass, h.site, h.types⟩, fun ⟨h₁, h₂, h₃⟩ => ⟨h₁, h₂, h₃⟩⟩

theorem TypeSymbol.idsBelow_iff {symbol : TypeSymbol} :
    symbol.IdsBelow limit ↔ AllBelow limit symbol.references := by
  simp only [TypeSymbol.references, allBelow_append, allBelow_references, allBelow_map,
    allBelow_flatMap, ← AttributeData.idsBelow_iff]
  exact ⟨fun h => ⟨⟨⟨⟨⟨h.nameSpace, h.containingType⟩, h.base⟩, h.attributes⟩, h.members⟩,
      h.declaration⟩,
    fun ⟨⟨⟨⟨⟨h₁, h₂⟩, h₃⟩, h₄⟩, h₅⟩, h₆⟩ => ⟨h₁, h₂, h₃, h₄, h₅, h₆⟩⟩

theorem MethodSymbol.idsBelow_iff {symbol : MethodSymbol} :
    symbol.IdsBelow limit ↔ AllBelow limit symbol.references := by
  simp only [MethodSymbol.references, allBelow_append, allBelow_references, allBelow_flatMap]
  exact ⟨fun h => ⟨⟨⟨h.containingType, h.returnType⟩, h.parameters⟩, h.declaration⟩,
    fun ⟨⟨⟨h₁, h₂⟩, h₃⟩, h₄⟩ => ⟨h₁, h₂, h₃, h₄⟩⟩

theorem allBelow_symbol {symbol? : Option SymbolRef} :
    AllBelow limit (symbol?.toList.map SymbolRef.reference) ↔
      ∀ symbol, symbol? = some symbol → symbol.Below limit := by
  rw [AllBelow, List.forall_mem_map]
  cases symbol? <;> simp [SymbolRef.Below]

theorem SyntaxNode.idsBelow_iff {node : SyntaxNode} :
    node.IdsBelow limit ↔ AllBelow limit node.references := by
  simp only [SyntaxNode.references, List.cons_append, allBelow_append, allBelow_cons,
    allBelow_map, allBelow_references, allBelow_symbol]
  constructor
  · intro h
    refine ⟨h.file, ⟨⟨h.children, h.declaredMethod⟩, h.symbol⟩, ?_⟩
    cases hk : node.kind with
    | typeDeclaration name symbol attributes members =>
      rw [NodeKind.extraReferences, allBelow_references]
      rintro id rfl
      exact h.declaredType _ _ _ _ hk
    | property name symbol accessors =>
      rw [NodeKind.extraReferences, allBelow_references]
      rintro id rfl
      exact h.declaredProperty _ _ _ hk
    | invocation callee arguments target typeArguments =>
      rw [NodeKind.extraReferences, allBelow_append, allBelow_references, allBelow_map]
      refine ⟨?_, h.typeArguments _ _ _ _ hk⟩
      rintro id rfl
      exact h.target _ _ _ _ hk
    | objectCreation name arguments created =>
      rw [NodeKind.extraReferences, allBelow_references]
      rintro id rfl
      exact h.created _ _ _ hk
    | _ => exact allBelow_nil
  · rintro ⟨hfile, ⟨⟨hchildren, hdeclared⟩, hsymbol⟩, hextra⟩
    refine ⟨hfile, hchildren, hdeclared, hsymbol, ?_, ?_, ?_, ?_, ?_⟩
    · intro name id attributes members hk
      rw [hk, NodeKind.extraReferences, allBelow_references] at hextra
      exact hextra id rfl
    · intro name id accessors hk
      rw [hk, NodeKind.extraReferences, allBelow_references] at hextra
      exact hextra id rfl
    · intro callee arguments id typeArguments hk
      rw [hk, NodeKind.extraReferences, allBelow_append, allBelow_references] at hextra
      exact hextra.1 id rfl
    · intro callee arguments target typeArguments hk
      rw [hk, NodeKind.extraReferences, allBelow_append, allBelow_map] at hextra
      exact hextra.2
    · intro name arguments id hk
      rw [hk, NodeKind.extraReferences, allBelow_references] at hextra
      exact hextra id rfl

/-- The parts that `owners` lists for one arena, with what is said of their references. -/
theorem forall_mem_mapIdx {α : Type} {xs : Array α} {f : Nat → α → Owner × List Reference}
    {P : List Reference → Prop} {Q : α → Prop} (h : ∀ i x, P (f i x).2 ↔ Q x) :
    (∀ part ∈ xs.toList.mapIdx f, P part.2) ↔ ∀ x ∈ xs, Q x := by
  constructor
  · intro hall x hx
    obtain ⟨i, hi, rfl⟩ := List.getElem_of_mem (Array.mem_def.mp hx)
    refine (h i _).mp (hall _ ?_)
    rw [List.mem_mapIdx]
    exact ⟨i, hi, rfl⟩
  · intro hall part hpart
    obtain ⟨i, hi, rfl⟩ := List.mem_mapIdx.mp hpart
    exact (h i _).mpr (hall _ (Array.mem_def.mpr (List.getElem_mem hi)))

theorem Program.idsBelow_iff {p : Program} :
    p.IdsBelow limit ↔ ∀ part ∈ p.owners, AllBelow limit part.2 := by
  simp only [owners, List.mem_append, or_imp, forall_and]
  rw [forall_mem_mapIdx (P := AllBelow limit)
      (Q := fun space => ∀ id, space.parent = some id → id.Below limit)
      fun _ _ => allBelow_references,
    forall_mem_mapIdx (P := AllBelow limit) (Q := TypeSymbol.IdsBelow limit)
      fun _ _ => TypeSymbol.idsBelow_iff.symm,
    forall_mem_mapIdx (P := AllBelow limit) (Q := MethodSymbol.IdsBelow limit)
      fun _ _ => MethodSymbol.idsBelow_iff.symm,
    forall_mem_mapIdx (P := AllBelow limit) (Q := fun symbol => symbol.containingType.Below limit)
      fun _ _ => by simp [allBelow_cons, allBelow_nil],
    forall_mem_mapIdx (P := AllBelow limit) (Q := fun symbol => symbol.containingType.Below limit)
      fun _ _ => by simp [allBelow_cons, allBelow_nil],
    forall_mem_mapIdx (P := AllBelow limit) (Q := SyntaxNode.IdsBelow limit)
      fun _ _ => SyntaxNode.idsBelow_iff.symm]
  exact ⟨fun h => ⟨⟨⟨⟨⟨h.namespaces, h.types⟩, h.methods⟩, h.properties⟩, h.events⟩, h.nodes⟩,
    fun ⟨⟨⟨⟨⟨h₁, h₂⟩, h₃⟩, h₄⟩, h₅⟩, h₆⟩ => ⟨h₁, h₂, h₃, h₄, h₅, h₆⟩⟩

end

namespace Program

/-! ## Ids that point into their arenas -/

/-- An id that points into its arena. -/
abbrev Has {arena : Arena} (p : Program) (id : ItemId arena) : Prop :=
  id.Below p.size

/-- A bound name whose symbol exists. -/
abbrev HasSymbol (p : Program) (symbol : SymbolRef) : Prop :=
  symbol.Below p.size

/-- A program all of whose ids, those of parents apart, point into their arenas. -/
abbrev InRange (p : Program) : Prop :=
  p.IdsBelow p.size

/-- The first step of `check` finds nothing exactly if all ids point into their arenas. -/
theorem dangling?_eq_none_iff {p : Program} : p.dangling? = none ↔ p.InRange := by
  rw [InRange, idsBelow_iff]
  simp only [dangling?, List.findSome?_eq_none_iff, Option.map_eq_none_iff, List.find?_eq_none,
    Bool.not_eq_true', Bool.not_eq_false, AllBelow, resolves, decide_eq_true_eq]

end Program

end ModLint
