import ModLint.Proofs.References

/-!
# What a check accepts

`Program.check` goes through lists of references and then along the links of every type for a
bounded number of steps. Here the two halves of its answer are described without lists and without
bounds: by the ids that each part of a program stores, field by field, and by the relations that
containing types and base types form. The check accepts a program exactly if all stored ids point
into their arenas and neither relation has a circle, and an id that it reports is a stored one.
-/

namespace ModLint

open Relation

/-! ## Stored ids -/

/-- A type that an argument mentions, itself or anywhere inside its arrays. -/
inductive AttributeArgument.Mentions (id : TypeId) : AttributeArgument → Prop
  | type : Mentions id (.type id)
  | array {items : List AttributeArgument} {item : AttributeArgument} (hitem : item ∈ items)
      (h : Mentions id item) : Mentions id (.array items)

/-- An id that an attribute stores. -/
inductive AttributeData.Stores (data : AttributeData) : Reference → Prop
  | attributeClass : data.Stores data.attributeClass.reference
  | site {id : NodeId} (h : data.site = some id) : data.Stores id.reference
  | argument {id : TypeId} {argument : AttributeArgument} (hmem : argument ∈ data.arguments)
      (h : argument.Mentions id) : data.Stores id.reference

/-- An id that a type stores. -/
inductive TypeSymbol.Stores (symbol : TypeSymbol) : Reference → Prop
  | nameSpace {id : NamespaceId} (h : symbol.nameSpace = some id) : symbol.Stores id.reference
  | containingType {id : TypeId} (h : symbol.containingType = some id) :
      symbol.Stores id.reference
  | base {id : TypeId} (h : symbol.base = some id) : symbol.Stores id.reference
  | ofAttribute {data : AttributeData} {reference : Reference} (hmem : data ∈ symbol.attributes)
      (h : data.Stores reference) : symbol.Stores reference
  | member {id : MethodId} (h : id ∈ symbol.members) : symbol.Stores id.reference
  | declaration {id : NodeId} (h : symbol.declaration = some id) : symbol.Stores id.reference

/-- An id that a method stores. -/
inductive MethodSymbol.Stores (symbol : MethodSymbol) : Reference → Prop
  | containingType {id : TypeId} (h : symbol.containingType = some id) :
      symbol.Stores id.reference
  | returnType {id : TypeId} (h : symbol.returnType = some id) : symbol.Stores id.reference
  | parameter {parameter : ParameterSymbol} {id : TypeId} (hmem : parameter ∈ symbol.parameters)
      (h : parameter.type = some id) : symbol.Stores id.reference
  | declaration {id : NodeId} (h : symbol.declaration = some id) : symbol.Stores id.reference

/-- An id that a node stores; the link to its parent is computed and not stored. -/
inductive SyntaxNode.Stores (node : SyntaxNode) : Reference → Prop
  | file : node.Stores node.file.reference
  | child {id : NodeId} (h : id ∈ node.kind.children) : node.Stores id.reference
  | declaredMethod {id : MethodId} (h : node.kind.declaredMethod? = some id) :
      node.Stores id.reference
  | symbol {symbol : SymbolRef} (h : node.kind.symbol? = some symbol) :
      node.Stores symbol.reference
  | declaredType {name : String} {id : TypeId} {attributes members : List NodeId}
      (h : node.kind = .typeDeclaration name (some id) attributes members) :
      node.Stores id.reference
  | declaredProperty {name : String} {id : PropertyId} {accessors : List NodeId}
      (h : node.kind = .property name (some id) accessors) : node.Stores id.reference
  | target {callee : NodeId} {arguments : List NodeId} {id : MethodId}
      {typeArguments : List TypeId}
      (h : node.kind = .invocation callee arguments (some id) typeArguments) :
      node.Stores id.reference
  | typeArgument {callee : NodeId} {arguments : List NodeId} {target : Option MethodId}
      {typeArguments : List TypeId} {id : TypeId}
      (h : node.kind = .invocation callee arguments target typeArguments)
      (hmem : id ∈ typeArguments) : node.Stores id.reference
  | created {name : String} {arguments : List NodeId} {id : TypeId}
      (h : node.kind = .objectCreation name arguments (some id)) : node.Stores id.reference

/-- An id that a part of a program stores. -/
inductive Program.Stores (p : Program) : Owner → Reference → Prop
  | nameSpace {i : Nat} {space : Namespace} {id : NamespaceId}
      (hi : p.namespaces[i]? = some space) (h : space.parent = some id) :
      p.Stores (.nameSpace i) id.reference
  | type {i : Nat} {symbol : TypeSymbol} {reference : Reference}
      (hi : p.types[i]? = some symbol) (h : symbol.Stores reference) :
      p.Stores (.type i symbol.name) reference
  | method {i : Nat} {symbol : MethodSymbol} {reference : Reference}
      (hi : p.methods[i]? = some symbol) (h : symbol.Stores reference) :
      p.Stores (.method i symbol.name) reference
  | property {i : Nat} {symbol : PropertySymbol} (hi : p.properties[i]? = some symbol) :
      p.Stores (.property i symbol.name) symbol.containingType.reference
  | event {i : Nat} {symbol : EventSymbol} (hi : p.events[i]? = some symbol) :
      p.Stores (.event i symbol.name) symbol.containingType.reference
  | node {i : Nat} {node : SyntaxNode} {reference : Reference}
      (hi : p.nodes[i]? = some node) (h : node.Stores reference) :
      p.Stores (.node i node.kind.name) reference

/-! ## The lists of references are the stored ids -/

theorem AttributeArgument.mem_types {id : TypeId} {argument : AttributeArgument} :
    id ∈ argument.types ↔ argument.Mentions id := by
  induction argument using AttributeArgument.induction with
  | string value | bool value | other value =>
    simp only [types, List.not_mem_nil, false_iff]
    intro h
    cases h
  | type value =>
    simp only [types, List.mem_singleton]
    constructor
    · rintro rfl
      exact .type
    · intro h
      cases h
      rfl
  | array items ih =>
    rw [types, mem_typesOfItems]
    constructor
    · rintro ⟨item, hitem, h⟩
      exact .array hitem ((ih item hitem).mp h)
    · intro h
      cases h with
      | array hitem h => exact ⟨_, hitem, (ih _ hitem).mpr h⟩

theorem ItemId.mem_references {arena : Arena} {id? : Option (ItemId arena)}
    {reference : Reference} :
    reference ∈ ItemId.references id? ↔ ∃ id, id? = some id ∧ id.reference = reference := by
  simp only [ItemId.references, List.mem_map, Option.mem_toList]

theorem AttributeData.mem_references {data : AttributeData} {reference : Reference} :
    reference ∈ data.references ↔ data.Stores reference := by
  simp only [references, List.cons_append, List.mem_cons, List.mem_append, ItemId.mem_references,
    List.mem_map, AttributeArgument.mem_typesOfItems, AttributeArgument.mem_types]
  constructor
  · rintro (rfl | ⟨id, h, rfl⟩ | ⟨id, ⟨argument, hmem, h⟩, rfl⟩)
    · exact .attributeClass
    · exact .site h
    · exact .argument hmem h
  · intro h
    cases h with
    | attributeClass => exact Or.inl rfl
    | site h => exact Or.inr (Or.inl ⟨_, h, rfl⟩)
    | argument hmem h => exact Or.inr (Or.inr ⟨_, ⟨_, hmem, h⟩, rfl⟩)

theorem TypeSymbol.mem_references {symbol : TypeSymbol} {reference : Reference} :
    reference ∈ symbol.references ↔ symbol.Stores reference := by
  simp only [references, List.mem_append, ItemId.mem_references, List.mem_flatMap, List.mem_map,
    AttributeData.mem_references]
  constructor
  · rintro (((((⟨id, h, rfl⟩ | ⟨id, h, rfl⟩) | ⟨id, h, rfl⟩) | ⟨data, hmem, h⟩) | ⟨id, h, rfl⟩) |
      ⟨id, h, rfl⟩)
    · exact .nameSpace h
    · exact .containingType h
    · exact .base h
    · exact .ofAttribute hmem h
    · exact .member h
    · exact .declaration h
  · intro h
    cases h with
    | nameSpace h => simp [h]
    | containingType h => simp [h]
    | base h => simp [h]
    | ofAttribute hmem h => exact Or.inl (Or.inl (Or.inr ⟨_, hmem, h⟩))
    | member h => exact Or.inl (Or.inr ⟨_, h, rfl⟩)
    | declaration h => simp [h]

theorem MethodSymbol.mem_references {symbol : MethodSymbol} {reference : Reference} :
    reference ∈ symbol.references ↔ symbol.Stores reference := by
  simp only [references, List.mem_append, ItemId.mem_references, List.mem_flatMap]
  constructor
  · rintro (((⟨id, h, rfl⟩ | ⟨id, h, rfl⟩) | ⟨parameter, hmem, id, h, rfl⟩) | ⟨id, h, rfl⟩)
    · exact .containingType h
    · exact .returnType h
    · exact .parameter hmem h
    · exact .declaration h
  · intro h
    cases h with
    | containingType h => simp [h]
    | returnType h => simp [h]
    | parameter hmem h => exact Or.inl (Or.inr ⟨_, hmem, _, h, rfl⟩)
    | declaration h => simp [h]

/-- What a node stores beside its file, its children, the method it declares and the symbol it is
bound to depends on its kind. -/
theorem SyntaxNode.stores_of_mem_extraReferences {node : SyntaxNode} {reference : Reference}
    (h : reference ∈ node.kind.extraReferences) : node.Stores reference := by
  cases hk : node.kind with
  | typeDeclaration name symbol attributes members =>
    rw [hk, NodeKind.extraReferences, ItemId.mem_references] at h
    obtain ⟨id, rfl, rfl⟩ := h
    exact .declaredType hk
  | property name symbol accessors =>
    rw [hk, NodeKind.extraReferences, ItemId.mem_references] at h
    obtain ⟨id, rfl, rfl⟩ := h
    exact .declaredProperty hk
  | invocation callee arguments target typeArguments =>
    rw [hk, NodeKind.extraReferences, List.mem_append, ItemId.mem_references, List.mem_map] at h
    rcases h with ⟨id, rfl, rfl⟩ | ⟨id, hmem, rfl⟩
    · exact .target hk
    · exact .typeArgument hk hmem
  | objectCreation name arguments created =>
    rw [hk, NodeKind.extraReferences, ItemId.mem_references] at h
    obtain ⟨id, rfl, rfl⟩ := h
    exact .created hk
  | _ => simp [hk, NodeKind.extraReferences] at h

theorem SyntaxNode.mem_references {node : SyntaxNode} {reference : Reference} :
    reference ∈ node.references ↔ node.Stores reference := by
  simp only [references, List.cons_append, List.mem_cons, List.mem_append, List.mem_map,
    ItemId.mem_references, Option.mem_toList]
  constructor
  · rintro (rfl | ((⟨id, h, rfl⟩ | ⟨id, h, rfl⟩) | ⟨symbol, h, rfl⟩) | h)
    · exact .file
    · exact .child h
    · exact .declaredMethod h
    · exact .symbol h
    · exact stores_of_mem_extraReferences h
  · intro h
    cases h with
    | file => exact Or.inl rfl
    | child h => exact Or.inr (Or.inl (Or.inl (Or.inl ⟨_, h, rfl⟩)))
    | declaredMethod h => exact Or.inr (Or.inl (Or.inl (Or.inr ⟨_, h, rfl⟩)))
    | symbol h => exact Or.inr (Or.inl (Or.inr ⟨_, h, rfl⟩))
    | declaredType h => simp [h, NodeKind.extraReferences, ItemId.references]
    | declaredProperty h => simp [h, NodeKind.extraReferences, ItemId.references]
    | target h => simp [h, NodeKind.extraReferences, ItemId.references]
    | typeArgument h hmem =>
      refine Or.inr (Or.inr ?_)
      rw [h, NodeKind.extraReferences, List.mem_append]
      exact Or.inr (List.mem_map_of_mem hmem)
    | created h => simp [h, NodeKind.extraReferences, ItemId.references]

namespace Program

theorem mem_mapIdx_toList {α : Type} {xs : Array α} {f : Nat → α → Owner × List Reference}
    {part : Owner × List Reference} :
    part ∈ xs.toList.mapIdx f ↔ ∃ i x, xs[i]? = some x ∧ f i x = part := by
  rw [List.mem_mapIdx]
  constructor
  · rintro ⟨i, hi, rfl⟩
    exact ⟨i, xs.toList[i], by simp, rfl⟩
  · rintro ⟨i, x, hx, rfl⟩
    obtain ⟨hi, rfl⟩ := Array.getElem?_eq_some_iff.mp hx
    exact ⟨i, by simpa using hi, by simp⟩

theorem stores_iff {p : Program} {owner : Owner} {reference : Reference} :
    p.Stores owner reference ↔
      ∃ references, (owner, references) ∈ p.owners ∧ reference ∈ references := by
  simp only [owners, List.mem_append, mem_mapIdx_toList, Prod.mk.injEq]
  constructor
  · intro h
    cases h with
    | nameSpace hi h =>
      refine ⟨_, Or.inl (Or.inl (Or.inl (Or.inl (Or.inl ⟨_, _, hi, rfl, rfl⟩)))), ?_⟩
      exact ItemId.mem_references.mpr ⟨_, h, rfl⟩
    | type hi h =>
      refine ⟨_, Or.inl (Or.inl (Or.inl (Or.inl (Or.inr ⟨_, _, hi, rfl, rfl⟩)))), ?_⟩
      exact TypeSymbol.mem_references.mpr h
    | method hi h =>
      refine ⟨_, Or.inl (Or.inl (Or.inl (Or.inr ⟨_, _, hi, rfl, rfl⟩))), ?_⟩
      exact MethodSymbol.mem_references.mpr h
    | property hi =>
      exact ⟨_, Or.inl (Or.inl (Or.inr ⟨_, _, hi, rfl, rfl⟩)), List.mem_singleton_self _⟩
    | event hi => exact ⟨_, Or.inl (Or.inr ⟨_, _, hi, rfl, rfl⟩), List.mem_singleton_self _⟩
    | node hi h =>
      exact ⟨_, Or.inr ⟨_, _, hi, rfl, rfl⟩, SyntaxNode.mem_references.mpr h⟩
  · rintro ⟨references, hpart, h⟩
    rcases hpart with ((((⟨i, space, hi, rfl, rfl⟩ | ⟨i, symbol, hi, rfl, rfl⟩) |
      ⟨i, symbol, hi, rfl, rfl⟩) | ⟨i, symbol, hi, rfl, rfl⟩) | ⟨i, symbol, hi, rfl, rfl⟩) |
      ⟨i, node, hi, rfl, rfl⟩
    · obtain ⟨id, hid, rfl⟩ := ItemId.mem_references.mp h
      exact .nameSpace hi hid
    · exact .type hi (TypeSymbol.mem_references.mp h)
    · exact .method hi (MethodSymbol.mem_references.mp h)
    · rw [List.mem_singleton.mp h]
      exact .property hi
    · rw [List.mem_singleton.mp h]
      exact .event hi
    · exact .node hi (SyntaxNode.mem_references.mp h)

/-- The search for a dangling id finds one exactly if there is one. -/
theorem dangling?_eq_none_iff_stores {p : Program} :
    p.dangling? = none ↔
      ∀ owner reference, p.Stores owner reference → reference.index < p.size reference.arena := by
  rw [dangling?_eq_none_iff, InRange, idsBelow_iff]
  constructor
  · intro h owner reference hstores
    obtain ⟨references, hpart, hmem⟩ := stores_iff.mp hstores
    exact h _ hpart reference hmem
  · intro h part hpart reference hmem
    exact h part.1 reference (stores_iff.mpr ⟨part.2, hpart, hmem⟩)

/-- What the search finds is a stored id past the end of its arena. -/
theorem stores_of_dangling? {p : Program} {error : ProgramError} (h : p.dangling? = some error) :
    ∃ owner reference, error = .dangling owner reference ∧ p.Stores owner reference ∧
      p.size reference.arena ≤ reference.index := by
  obtain ⟨⟨owner, references⟩, hpart, hfound⟩ := List.exists_of_findSome?_eq_some h
  obtain ⟨reference, hfind, rfl⟩ := Option.map_eq_some_iff.mp hfound
  have hmem : reference ∈ references := List.mem_of_find?_eq_some hfind
  have hpast := List.find?_some hfind
  simp only [resolves, Bool.not_eq_true', decide_eq_false_iff_not, Nat.not_lt] at hpast
  exact ⟨owner, reference, rfl, stores_iff.mpr ⟨references, hpart, hmem⟩, hpast⟩

/-! ## Links between types -/

/-- Whether a link leads from one type to another. -/
def Leads (p : Program) (link : TypeLink) (a b : TypeId) : Prop :=
  ∃ symbol, p.types[a.index]? = some symbol ∧ link.follow symbol = some b

/-- The position that a link leads to from the type at a position. -/
def linkIndex? (p : Program) (link : TypeLink) (i : Nat) : Option Nat :=
  (p.types[i]?.bind link.follow).map (·.index)

theorem linkIndex?_eq_some_iff {p : Program} {link : TypeLink} {i j : Nat} :
    p.linkIndex? link i = some j ↔ p.Leads link ⟨i⟩ ⟨j⟩ := by
  simp only [linkIndex?, Leads, Option.map_eq_some_iff, Option.bind_eq_some_iff]
  constructor
  · rintro ⟨⟨k⟩, hk, rfl⟩
    exact hk
  · intro h
    exact ⟨⟨j⟩, h, rfl⟩

/-- The search for circles is the search along any partial function. -/
theorem linkReturns_eq_chainReturns (p : Program) (link : TypeLink) (start steps : Nat)
    (current : Option TypeId) :
    p.linkReturns link start steps current =
      chainReturns (p.linkIndex? link) start steps (current.map (·.index)) := by
  induction steps generalizing current with
  | zero => cases current <;> rfl
  | succ steps ih =>
    cases current with
    | none => rfl
    | some id =>
      simp only [linkReturns, chainReturns, Option.map_some, linkIndex?]
      cases p.types[id.index]? with
      | none => simp [chainReturns]
      | some symbol => simp only [ih, Option.bind_some]

/-- A circle among types is a circle among their positions. -/
theorem acyclic_linkIndex?_iff {p : Program} {link : TypeLink} :
    (Acyclic fun i j => p.linkIndex? link i = some j) ↔ ∀ id, ¬ TransGen (p.Leads link) id id := by
  constructor
  · intro h id hid
    exact h id.index (hid.lift ItemId.index fun _ _ hab => linkIndex?_eq_some_iff.mpr hab)
  · intro h i hi
    exact h ⟨i⟩ (hi.lift ItemId.mk fun _ _ hab => linkIndex?_eq_some_iff.mp hab)

theorem Leads.stores {p : Program} {link : TypeLink} {a b : TypeId} (h : p.Leads link a b) :
    a.index < p.types.size ∧ ∃ owner, p.Stores owner b.reference := by
  obtain ⟨symbol, ha, hb⟩ := h
  refine ⟨(Array.getElem?_eq_some_iff.mp ha).1, _, .type ha ?_⟩
  cases link with
  | containing => exact .containingType hb
  | base => exact .base hb

/-- The walk that starts at a type is the walk from its position. -/
theorem linkReturns_start {p : Program} {i : Nat} {symbol : TypeSymbol}
    (hi : p.types[i]? = some symbol) (link : TypeLink) (steps : Nat) :
    p.linkReturns link i steps (link.follow symbol) =
      chainReturns (p.linkIndex? link) i steps (p.linkIndex? link i) := by
  rw [linkReturns_eq_chainReturns, linkIndex?, hi]
  rfl

theorem typeCycle?_eq_none_iff_walks {p : Program} :
    p.typeCycle? = none ↔ ∀ link i, i < p.types.size →
      chainReturns (p.linkIndex? link) i p.types.size (p.linkIndex? link i) = false := by
  have hmem : ∀ symbol i, (symbol, i) ∈ p.types.toList.zipIdx ↔ p.types[i]? = some symbol := by
    intro symbol i
    rw [List.mem_zipIdx_iff_getElem?, Array.getElem?_toList]
  simp only [typeCycle?, List.findSome?_eq_none_iff, Prod.forall, hmem]
  constructor
  · intro h link i hi
    have hsymbol := Array.getElem?_eq_getElem hi
    have hlink := h _ i hsymbol link (by cases link <;> simp)
    rw [linkReturns_start hsymbol, ite_eq_right_iff] at hlink
    rw [← Bool.not_eq_true]
    exact fun hreturns => Option.some_ne_none _ (hlink hreturns)
  · intro h symbol i hi link _
    have hfalse := h link i (Array.getElem?_eq_some_iff.mp hi).1
    rw [linkReturns_start hi, hfalse]
    rfl

/-- Where all stored ids point into their arenas, the search for a circle among the types finds one
exactly if there is one. -/
theorem typeCycle?_eq_none_iff {p : Program}
    (hids : ∀ owner reference, p.Stores owner reference →
      reference.index < p.size reference.arena) :
    p.typeCycle? = none ↔ ∀ link id, ¬ TransGen (p.Leads link) id id := by
  have hin : ∀ link, Within p.types.size fun i j => p.linkIndex? link i = some j := by
    intro link i j hij
    obtain ⟨hi, owner, hstores⟩ := (linkIndex?_eq_some_iff.mp hij).stores
    exact ⟨hi, hids owner _ hstores⟩
  rw [typeCycle?_eq_none_iff_walks]
  constructor
  · intro h link
    exact acyclic_linkIndex?_iff.mp ((chainReturns_iff_acyclic (hin link)).mp (h link))
  · intro h link
    exact (chainReturns_iff_acyclic (hin link)).mpr (acyclic_linkIndex?_iff.mpr (h link))

theorem eq_typeCycle_of_typeCycle? {p : Program} {error : ProgramError}
    (h : p.typeCycle? = some error) : ∃ i name link, error = .typeCycle i name link := by
  obtain ⟨⟨symbol, i⟩, -, hlinks⟩ := List.exists_of_findSome?_eq_some h
  obtain ⟨link, -, hlink⟩ := List.exists_of_findSome?_eq_some hlinks
  split at hlink
  · cases hlink
    exact ⟨i, symbol.name, link, rfl⟩
  · cases hlink

/-! ## The whole of `check` -/

theorem check_eq_ok_iff {p : Program} :
    p.check = .ok () ↔ p.dangling? = none ∧ p.typeCycle? = none := by
  rw [check]
  cases p.dangling? with
  | some error => simp
  | none => cases p.typeCycle? <;> simp

theorem dangling?_or_typeCycle?_of_check {p : Program} {error : ProgramError}
    (h : p.check = .error error) : p.dangling? = some error ∨ p.typeCycle? = some error := by
  rw [check] at h
  cases hd : p.dangling? with
  | some found => simp_all
  | none => cases hc : p.typeCycle? <;> simp_all

/-- `check` accepts a program exactly if every id that a part of it stores points into its arena
and neither the containing types nor the base types go in circles. An id that it reports is stored
by the owner it names and lies past the end of the arena it names. -/
theorem check_is_exact (p : Program) :
    (p.check = .ok () ↔
      (∀ owner reference, p.Stores owner reference → reference.index < p.size reference.arena) ∧
      (∀ id, ¬ TransGen (p.Leads .containing) id id) ∧
      ∀ id, ¬ TransGen (p.Leads .base) id id) ∧
    ∀ owner reference, p.check = .error (.dangling owner reference) →
      p.Stores owner reference ∧ p.size reference.arena ≤ reference.index := by
  refine ⟨?_, fun owner reference herror => ?_⟩
  · rw [check_eq_ok_iff, dangling?_eq_none_iff_stores]
    constructor
    · rintro ⟨hids, hcycle⟩
      have hlinks := (typeCycle?_eq_none_iff hids).mp hcycle
      exact ⟨hids, hlinks .containing, hlinks .base⟩
    · rintro ⟨hids, hcontaining, hbase⟩
      refine ⟨hids, (typeCycle?_eq_none_iff hids).mpr fun link => ?_⟩
      cases link with
      | containing => exact hcontaining
      | base => exact hbase
  · rcases dangling?_or_typeCycle?_of_check herror with hdangling | hcycle
    · obtain ⟨owner', reference', heq, hstores⟩ := stores_of_dangling? hdangling
      cases heq
      exact hstores
    · obtain ⟨i, name, link, heq⟩ := eq_typeCycle_of_typeCycle? hcycle
      cases heq

/-- Three types, each of which extends the next one. The first has an attribute that mentions the
type at a position, two arrays deep. -/
def attributedChain (mentioned : Nat) : Program :=
  { assembly := "Mod"
    types := #[
      { name := "Spinner"
        base := some ⟨1⟩
        assembly := "Mod"
        attributes := [
          { attributeClass := ⟨2⟩
            arguments := [.array [.string "Mod/Spinner", .array [.type ⟨mentioned⟩]]] }] },
      { name := "Entity", base := some ⟨2⟩, assembly := "Game" },
      { name := "Object", assembly := "Runtime" }] }

theorem check_attributedChain :
    (attributedChain 2).check = .ok () ∧
      (∀ id, ¬ TransGen ((attributedChain 2).Leads .base) id id) ∧
      (attributedChain 3).check = .error (.dangling (.type 0 "Spinner") ⟨.type, 3⟩) ∧
      (attributedChain 3).Stores (.type 0 "Spinner") ⟨.type, 3⟩ ∧
      (attributedChain 3).size .type ≤ 3 := by
  have haccepted : (attributedChain 2).check = .ok () := by decide
  have hrefused : (attributedChain 3).check =
      .error (.dangling (.type 0 "Spinner") ⟨.type, 3⟩) := by decide
  have hstores := (check_is_exact (attributedChain 3)).2 _ _ hrefused
  exact ⟨haccepted, ((check_is_exact _).1.mp haccepted).2.2, hrefused, hstores.1, hstores.2⟩

end Program

end ModLint
