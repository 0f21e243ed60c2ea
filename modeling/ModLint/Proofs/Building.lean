import ModLint.Build.Builder
import ModLint.Proofs.Loaded
import ModLint.Proofs.Questions
import ModLint.Proofs.StoredIds

/-!
# Programs in the making

What every step of a builder keeps true: all ids point into their arenas, types come after their
base types, and the nodes form a forest. The forest has layers. At the top are the nodes of whole
files, below them the declarations of types, and below those all other nodes, each of which comes
after its children. A *root* is one of these other nodes that is no child yet.
-/

namespace ModLint

/-! ## Ids below growing limits -/

theorem AllBelow.mono {limit limit' : Arena → Nat} {references : List Reference}
    (h : AllBelow limit references) (hle : ∀ arena, limit arena ≤ limit' arena) :
    AllBelow limit' references :=
  fun reference hmem => Nat.lt_of_lt_of_le (h reference hmem) (hle _)

theorem Program.IdsBelow.mono {p : Program} {limit limit' : Arena → Nat} (h : p.IdsBelow limit)
    (hle : ∀ arena, limit arena ≤ limit' arena) : p.IdsBelow limit' :=
  Program.idsBelow_iff.mpr fun part hpart => (Program.idsBelow_iff.mp h part hpart).mono hle

section Arrays

variable {α : Type} {P : α → Prop} {items : Array α}

theorem forall_mem_push {item : α} (h : ∀ x ∈ items, P x) (hitem : P item) :
    ∀ x ∈ items.push item, P x := by
  intro x hx
  rcases Array.mem_push.mp hx with hx | rfl
  · exact h x hx
  · exact hitem

theorem getElem?_modify_eq_some {i j : Nat} {f : α → α} {x : α}
    (h : (items.modify i f)[j]? = some x) :
    ∃ y, items[j]? = some y ∧ x = if i = j then f y else y := by
  rw [Array.getElem?_modify] at h
  split at h
  · rename_i hij
    obtain ⟨y, hy, rfl⟩ := Option.map_eq_some_iff.mp h
    exact ⟨y, hy, by rw [if_pos hij]⟩
  · rename_i hij
    exact ⟨x, h, by rw [if_neg hij]⟩

theorem forall_mem_modify {i : Nat} {f : α → α} (h : ∀ x ∈ items, P x)
    (hf : ∀ x ∈ items, P x → P (f x)) : ∀ x ∈ items.modify i f, P x := by
  intro x hx
  obtain ⟨j, hj⟩ := Array.mem_iff_getElem?.mp hx
  obtain ⟨y, hy, rfl⟩ := getElem?_modify_eq_some hj
  have hmem := Array.mem_of_getElem? hy
  split
  · exact hf y hmem (h y hmem)
  · exact h y hmem

end Arrays

/-- The references of a kind of node, beside those to its children. -/
def NodeKind.symbolReferences (kind : NodeKind) : List Reference :=
  ItemId.references kind.declaredMethod? ++ kind.symbol?.toList.map SymbolRef.reference
    ++ kind.extraReferences

theorem allBelow_node {limit : Arena → Nat} {node : SyntaxNode} (hfile : node.file.Below limit)
    (hchildren : ∀ child ∈ node.kind.children, child.Below limit)
    (hsymbols : AllBelow limit node.kind.symbolReferences) : AllBelow limit node.references := by
  simp only [NodeKind.symbolReferences, allBelow_append] at hsymbols
  simp only [SyntaxNode.references, List.cons_append, allBelow_cons, allBelow_append, allBelow_map]
  exact ⟨hfile, ⟨⟨hchildren, hsymbols.1.1⟩, hsymbols.1.2⟩, hsymbols.2⟩

/-- The types that a signature mentions. -/
def MethodSpec.references (spec : MethodSpec) : List Reference :=
  ItemId.references spec.returnType
    ++ spec.parameters.flatMap fun parameter => ItemId.references parameter.type

/-! ## Child lists -/

namespace Program

open Relation

theorem mem_listedChildren {p : Program} {child : NodeId} :
    child ∈ p.listedChildren ↔ ∃ parent, p.IsChild parent child := by
  rw [← map_snd_edgesOf_nodeIds, List.mem_map]
  constructor
  · rintro ⟨⟨parent, _⟩, hmem, rfl⟩
    exact ⟨parent, mem_edgesOf_nodeIds.mp hmem⟩
  · rintro ⟨parent, h⟩
    exact ⟨(parent, child), mem_edgesOf_nodeIds.mpr h, rfl⟩

/-- A program with a further node. -/
def withNode (p : Program) (node : SyntaxNode) : Program :=
  { p with nodes := p.nodes.push node }

theorem listedChildren_withNode (p : Program) (node : SyntaxNode) :
    (p.withNode node).listedChildren = p.listedChildren ++ node.kind.children := by
  simp [listedChildren, withNode]

theorem isChild_withNode {p : Program} {node : SyntaxNode} {parent child : NodeId}
    (h : (p.withNode node).IsChild parent child) :
    p.IsChild parent child ∨ parent.index = p.nodes.size ∧ child ∈ node.kind.children := by
  unfold IsChild childrenAt withNode at h
  rw [Array.getElem?_push] at h
  split at h
  · rename_i heq
    exact Or.inr ⟨heq, h⟩
  · exact Or.inl h

/-- A change of kinds that adds one child, or none. -/
structure Adds (child : NodeId) (f : NodeKind → NodeKind) : Prop where
  children : ∀ kind, (f kind).children = kind.children ∨
    (f kind).children.Perm (kind.children ++ [child])
  declaredMethod : ∀ kind, (f kind).declaredMethod? = kind.declaredMethod?
  symbol : ∀ kind, (f kind).symbol? = kind.symbol?
  extra : ∀ kind, (f kind).extraReferences = kind.extraReferences

theorem Adds.allBelow {limit : Arena → Nat} {child : NodeId} {f : NodeKind → NodeKind}
    (h : Adds child f) (hchild : child.Below limit) {node : SyntaxNode}
    (hnode : node.IdsBelow limit) :
    AllBelow limit (SyntaxNode.references { node with kind := f node.kind }) := by
  have hbelow := SyntaxNode.idsBelow_iff.mp hnode
  refine allBelow_node hnode.file (fun other hother => ?_) ?_
  · rcases h.children node.kind with heq | hperm
    · exact hnode.children other (heq ▸ hother)
    · rcases List.mem_append.mp (hperm.mem_iff.mp hother) with hold | hnew
      · exact hnode.children other hold
      · rw [List.mem_singleton.mp hnew]
        exact hchild
  · simp only [SyntaxNode.references, List.cons_append, allBelow_cons, allBelow_append] at hbelow
    simp only [NodeKind.symbolReferences, h.declaredMethod, h.symbol, h.extra, allBelow_append]
    exact ⟨⟨hbelow.2.1.1.2, hbelow.2.1.2⟩, hbelow.2.2⟩

/-- A program in which the kind of a node is changed. -/
def withKind (p : Program) (id : NodeId) (f : NodeKind → NodeKind) : Program :=
  { p with nodes := p.nodes.modify id.index fun node => { node with kind := f node.kind } }

section WithKind

variable {p : Program} {id child : NodeId} {f : NodeKind → NodeKind} (hf : Adds child f)

include hf

theorem listedChildren_withKind : (p.withKind id f).listedChildren = p.listedChildren ∨
    (p.withKind id f).listedChildren.Perm (p.listedChildren ++ [child]) := by
  unfold listedChildren withKind
  rw [Array.toList_modify]
  generalize p.nodes.toList = nodes
  generalize id.index = i
  induction nodes generalizing i with
  | nil => exact Or.inl (by simp)
  | cons node nodes ih =>
    cases i with
    | zero =>
      rw [List.modify_zero_cons, List.flatMap_cons, List.flatMap_cons]
      rcases hf.children node.kind with heq | hperm
      · exact Or.inl (by rw [heq])
      · refine Or.inr ((hperm.append_right _).trans ?_)
        rw [List.append_assoc, List.append_assoc]
        exact List.perm_append_comm.append_left _
    | succ i =>
      rw [List.modify_succ_cons, List.flatMap_cons, List.flatMap_cons]
      rcases ih i with heq | hperm
      · exact Or.inl (by rw [heq])
      · refine Or.inr ?_
        rw [List.append_assoc]
        exact hperm.append_left _

theorem isChild_withKind {parent other : NodeId} (h : (p.withKind id f).IsChild parent other) :
    p.IsChild parent other ∨ parent = id ∧ other = child := by
  unfold IsChild childrenAt withKind at h
  rw [Array.getElem?_modify] at h
  unfold IsChild childrenAt
  split at h
  · rename_i heq
    cases hnode : p.nodes[parent.index]? with
    | none =>
      rw [hnode] at h
      exact Or.inl h
    | some node =>
      rw [hnode] at h
      have hother : other ∈ (f node.kind).children := h
      rcases hf.children node.kind with hsame | hperm
      · rw [hsame] at hother
        exact Or.inl hother
      · rcases List.mem_append.mp (hperm.mem_iff.mp hother) with hold | hnew
        · exact Or.inl hold
        · exact Or.inr ⟨by cases parent; cases id; simp_all, List.mem_singleton.mp hnew⟩
  · exact Or.inl h

end WithKind

/-! ## Layers -/

/-- A node that is the declaration of a type. -/
def DeclaresType (p : Program) (id : NodeId) : Prop :=
  ∃ symbol ∈ p.types, symbol.declaration = some id

/-- No node is listed twice, and the nodes stand in layers: the given ones are nobody's children,
declarations of types are children only of those, and all other nodes come after their children. -/
structure Layered (p : Program) (units : Array NodeId) : Prop where
  nodup : p.listedChildren.Nodup
  unit : ∀ parent child, p.IsChild parent child → child ∉ units
  declared : ∀ parent child, p.IsChild parent child → p.DeclaresType child → parent ∈ units
  down : ∀ parent child, p.IsChild parent child →
    parent ∈ units ∨ p.DeclaresType parent ∨ child.index < parent.index

theorem noCircle_of_rank {p : Program} (rank : NodeId → Nat)
    (h : ∀ parent child, p.IsChild parent child → rank child < rank parent) : p.NoCircle := by
  have hpath : ∀ a b, TransGen p.IsChild a b → rank b < rank a := by
    intro a b hab
    induction hab with
    | single hab => exact h _ _ hab
    | tail _ hbc ih => exact Nat.lt_trans (h _ _ hbc) ih
  exact fun id hid => Nat.lt_irrefl _ (hpath id id hid)

/-- Going down the layers, and inside the lowest one to earlier nodes, comes to an end. -/
theorem Layered.noCircle {p : Program} {units : Array NodeId} (h : p.Layered units)
    (hrange : p.ChildrenInRange) : p.NoCircle := by
  classical
  let layer (id : NodeId) : Nat := if id ∈ units then 2 else if p.DeclaresType id then 1 else 0
  refine noCircle_of_rank (fun id => layer id * p.nodes.size + id.index)
    fun parent child hchild => ?_
  have hbound := hrange parent child hchild
  have hlower : layer child < layer parent ∨
      layer child = layer parent ∧ child.index < parent.index := by
    have hunit := h.unit parent child hchild
    have hdeclared := h.declared parent child hchild
    have hdown := h.down parent child hchild
    by_cases hparent : parent ∈ units
    · left
      simp only [layer, hunit, hparent, if_true, if_false]
      split <;> omega
    · have hchild : ¬ p.DeclaresType child := fun hchild => hparent (hdeclared hchild)
      simp only [layer, hunit, hparent, hchild, if_false]
      by_cases hdeclares : p.DeclaresType parent
      · simp [hdeclares]
      · simp_all
  rcases hlower with hlt | ⟨heq, hlt⟩
  · have hle : (layer child + 1) * p.nodes.size ≤ layer parent * p.nodes.size :=
      Nat.mul_le_mul_right _ hlt
    rw [Nat.succ_mul] at hle
    omega
  · rw [heq]
    omega

/-- Types are contained in no type and come after their base types. -/
def TypesOrdered (p : Program) : Prop :=
  ∀ (i : Nat) (symbol : TypeSymbol), p.types[i]? = some symbol →
    symbol.containingType = none ∧ ∀ id, symbol.base = some id → id.index < i

theorem TypesOrdered.check_eq_ok {p : Program} (h : p.TypesOrdered) (hrange : p.InRange) :
    p.check = .ok () := by
  have hdangling := dangling?_eq_none_iff.mpr hrange
  refine check_eq_ok_iff.mpr ⟨hdangling, ?_⟩
  rw [typeCycle?_eq_none_iff (dangling?_eq_none_iff_stores.mp hdangling)]
  have hdown : ∀ link a b, p.Leads link a b → b.index < a.index := by
    rintro link a b ⟨symbol, hsymbol, hfollow⟩
    obtain ⟨hcontaining, hbase⟩ := h a.index symbol hsymbol
    cases link with
    | containing => exact absurd (hcontaining.symm.trans hfollow) (by simp)
    | base => exact hbase b hfollow
  have hpath : ∀ link a b, TransGen (p.Leads link) a b → b.index < a.index := by
    intro link a b hab
    induction hab with
    | single hab => exact hdown link _ _ hab
    | tail _ hbc ih => exact Nat.lt_trans (hdown link _ _ hbc) ih
  exact fun link id hid => Nat.lt_irrefl _ (hpath link id id hid)

/-- A forest of nodes is linked, and links that are computed are right. -/
theorem link_of_nodup {p : Program} (hcheck : p.check = .ok ()) (hnodup : p.listedChildren.Nodup)
    (hcircle : p.NoCircle) : p.link = .ok p.relink.1 ∧ p.relink.1.check = .ok () ∧
      p.relink.1.link = .ok p.relink.1 := by
  have hrange := childrenInRange_of_inRange (inRange_of_check hcheck)
  rcases link_cases hrange with ⟨_, _, _, hclash, -⟩ | ⟨nodes, hadopted, ⟨-, hlink⟩ | ⟨hno, -⟩⟩
  · rw [← map_snd_edgesOf_nodeIds] at hnodup
    exact absurd hnodup hclash.not_nodup
  · have hrelink : p.relink.1 = { p with nodes } := by
      unfold link at hlink
      split at hlink
      · rename_i heq
        cases hlink
        rw [heq]
      · cases hlink
    rw [hrelink, check_with_nodes hadopted.frame, link_with_nodes hadopted.frame]
    exact ⟨hlink, hcheck, hlink⟩
  · exact absurd hcircle hno

/-! ## Further symbols -/

/-- A program with a further namespace. -/
def withNamespace (p : Program) (space : Namespace) : Program :=
  { p with namespaces := p.namespaces.push space }

/-- A program with a further type. -/
def withType (p : Program) (symbol : TypeSymbol) : Program :=
  { p with types := p.types.push symbol }

/-- A program with a further method. -/
def withMethod (p : Program) (symbol : MethodSymbol) : Program :=
  { p with methods := p.methods.push symbol }

/-- A program with a further property. -/
def withProperty (p : Program) (symbol : PropertySymbol) : Program :=
  { p with properties := p.properties.push symbol }

/-- A program with a further event. -/
def withEvent (p : Program) (symbol : EventSymbol) : Program :=
  { p with events := p.events.push symbol }

section Further

variable (p : Program)

theorem size_le_withNamespace (space : Namespace) (arena : Arena) :
    p.size arena ≤ (p.withNamespace space).size arena := by
  cases arena <;> simp [size, withNamespace]

theorem size_le_withType (symbol : TypeSymbol) (arena : Arena) :
    p.size arena ≤ (p.withType symbol).size arena := by
  cases arena <;> simp [size, withType]

theorem size_le_withMethod (symbol : MethodSymbol) (arena : Arena) :
    p.size arena ≤ (p.withMethod symbol).size arena := by
  cases arena <;> simp [size, withMethod]

theorem size_le_withProperty (symbol : PropertySymbol) (arena : Arena) :
    p.size arena ≤ (p.withProperty symbol).size arena := by
  cases arena <;> simp [size, withProperty]

theorem size_le_withEvent (symbol : EventSymbol) (arena : Arena) :
    p.size arena ≤ (p.withEvent symbol).size arena := by
  cases arena <;> simp [size, withEvent]

theorem size_le_withNode (node : SyntaxNode) (arena : Arena) :
    p.size arena ≤ (p.withNode node).size arena := by
  cases arena <;> simp [size, withNode]

end Further

section WithType

variable {p : Program} {symbol : TypeSymbol}

theorem TypesOrdered.withType (h : p.TypesOrdered) (hcontaining : symbol.containingType = none)
    (hbase : ∀ id, symbol.base = some id → p.Has id) : (p.withType symbol).TypesOrdered := by
  intro i symbol' hi
  rw [Program.withType, Array.getElem?_push] at hi
  split at hi
  · rename_i heq
    cases hi
    rw [heq]
    exact ⟨hcontaining, hbase⟩
  · exact h i symbol' hi

theorem declaresType_withType {id : NodeId} (h : p.DeclaresType id) :
    (p.withType symbol).DeclaresType id := by
  obtain ⟨symbol', hmem, hdeclaration⟩ := h
  exact ⟨symbol', Array.mem_push_of_mem _ hmem, hdeclaration⟩

theorem declaresType_of_withType (hnone : symbol.declaration = none) {id : NodeId}
    (h : (p.withType symbol).DeclaresType id) : p.DeclaresType id := by
  obtain ⟨symbol', hmem, hdeclaration⟩ := h
  rcases Array.mem_push.mp hmem with hmem | rfl
  · exact ⟨symbol', hmem, hdeclaration⟩
  · rw [hnone] at hdeclaration
    cases hdeclaration

end WithType

/-- A program in which the symbol of a type is changed. -/
def retype (p : Program) (id : TypeId) (f : TypeSymbol → TypeSymbol) : Program :=
  { p with types := p.types.modify id.index f }

section Retype

variable {p : Program} {id : TypeId} {f : TypeSymbol → TypeSymbol}

theorem size_retype (arena : Arena) : (p.retype id f).size arena = p.size arena := by
  cases arena <;> simp [size, retype]

theorem TypesOrdered.retype (h : p.TypesOrdered)
    (hlinks : ∀ symbol link, TypeLink.follow link (f symbol) = link.follow symbol) :
    (p.retype id f).TypesOrdered := by
  intro i symbol hi
  obtain ⟨old, hold, rfl⟩ := getElem?_modify_eq_some hi
  have hordered := h i old hold
  split
  · have hcontaining : (f old).containingType = old.containingType := hlinks old .containing
    have hbase : (f old).base = old.base := hlinks old .base
    rw [hcontaining, hbase]
    exact hordered
  · exact hordered

theorem declaresType_of_retype {declaration : NodeId}
    (h : (p.retype id f).DeclaresType declaration) :
    p.DeclaresType declaration ∨
      ∃ symbol, p.types[id.index]? = some symbol ∧ (f symbol).declaration = some declaration := by
  obtain ⟨symbol, hmem, hdeclaration⟩ := h
  obtain ⟨i, hi⟩ := Array.mem_iff_getElem?.mp hmem
  obtain ⟨old, hold, rfl⟩ := getElem?_modify_eq_some hi
  split at hdeclaration
  · rename_i heq
    rw [← heq] at hold
    exact Or.inr ⟨old, hold, hdeclaration⟩
  · exact Or.inl ⟨old, Array.mem_of_getElem? hold, hdeclaration⟩

theorem declaresType_retype (hkept : ∀ symbol declaration, p.types[id.index]? = some symbol →
      symbol.declaration = some declaration → (f symbol).declaration = some declaration)
    {declaration : NodeId} (h : p.DeclaresType declaration) :
    (p.retype id f).DeclaresType declaration := by
  obtain ⟨symbol, hmem, hdeclaration⟩ := h
  obtain ⟨i, hi⟩ := Array.mem_iff_getElem?.mp hmem
  refine ⟨if id.index = i then f symbol else symbol, ?_, ?_⟩
  · refine Array.mem_iff_getElem?.mpr ⟨i, ?_⟩
    rw [Program.retype, Array.getElem?_modify, hi]
    split <;> rfl
  · split
    · rename_i heq
      rw [← heq] at hi
      exact hkept symbol declaration hi hdeclaration
    · exact hdeclaration

end Retype

/-- A program in which a method is tied to its declaration. -/
def withDeclaration (p : Program) (id : MethodId) (declaration : NodeId) : Program :=
  { p with
    methods := p.methods.modify id.index
      fun method => { method with declaration := some declaration } }

theorem size_withDeclaration {p : Program} {id : MethodId} {declaration : NodeId} (arena : Arena) :
    (p.withDeclaration id declaration).size arena = p.size arena := by
  cases arena <;> simp [size, withDeclaration]

/-- A program with a further file and the node that stands for all of it. -/
def withFile (p : Program) (source : SourceFile) (span : Span) : Program :=
  Program.withNode { p with files := p.files.push source }
    { file := ⟨p.files.size⟩, span, kind := .compilationUnit [] }

section WithFile

variable {p : Program} {source : SourceFile} {span : Span}

theorem size_le_withFile (arena : Arena) : p.size arena ≤ (p.withFile source span).size arena := by
  cases arena <;> simp [size, withFile, withNode]

theorem listedChildren_withFile : (p.withFile source span).listedChildren = p.listedChildren := by
  rw [withFile, listedChildren_withNode]
  exact List.append_nil _

theorem isChild_of_withFile {parent child : NodeId}
    (h : (p.withFile source span).IsChild parent child) : p.IsChild parent child :=
  (isChild_withNode h).resolve_right fun hnew => List.not_mem_nil hnew.2

end WithFile

theorem size_withKind {p : Program} {id : NodeId} {f : NodeKind → NodeKind} (arena : Arena) :
    (p.withKind id f).size arena = p.size arena := by
  cases arena <;> simp [size, withKind]

namespace InRange

variable {p : Program} (h : p.InRange)

include h

theorem withNamespace {space : Namespace} (hparent : ∀ id, space.parent = some id → p.Has id) :
    (p.withNamespace space).InRange :=
  have hold := h.mono (p.size_le_withNamespace space)
  { hold with
    namespaces := forall_mem_push hold.namespaces fun id hid =>
      Nat.lt_of_lt_of_le (hparent id hid) (p.size_le_withNamespace space _) }

theorem withType {symbol : TypeSymbol} (hsymbol : AllBelow p.size symbol.references) :
    (p.withType symbol).InRange :=
  have hold := h.mono (p.size_le_withType symbol)
  { hold with
    types := forall_mem_push hold.types
      (TypeSymbol.idsBelow_iff.mpr (hsymbol.mono (p.size_le_withType symbol))) }

theorem retype {id : TypeId} {f : TypeSymbol → TypeSymbol}
    (hbelow : ∀ symbol, symbol.IdsBelow p.size → (f symbol).IdsBelow p.size) :
    (p.retype id f).InRange := by
  rw [InRange, funext size_retype]
  exact { h with types := forall_mem_modify h.types fun symbol _ => hbelow symbol }

theorem withMethod {symbol : MethodSymbol} (hsymbol : AllBelow p.size symbol.references) :
    (p.withMethod symbol).InRange :=
  have hold := h.mono (p.size_le_withMethod symbol)
  { hold with
    methods := forall_mem_push hold.methods
      (MethodSymbol.idsBelow_iff.mpr (hsymbol.mono (p.size_le_withMethod symbol))) }

theorem withDeclaration {id : MethodId} {declaration : NodeId} (hdeclaration : p.Has declaration) :
    (p.withDeclaration id declaration).InRange := by
  have hmethods : ∀ symbol ∈ p.methods.modify id.index
      fun method => { method with declaration := some declaration }, symbol.IdsBelow p.size := by
    refine forall_mem_modify h.methods fun symbol _ hsymbol =>
      ⟨hsymbol.containingType, hsymbol.returnType, hsymbol.parameters, ?_⟩
    rintro _ ⟨⟩
    exact hdeclaration
  rw [InRange, funext size_withDeclaration]
  exact { h with methods := hmethods }

theorem withProperty {symbol : PropertySymbol} (howner : p.Has symbol.containingType) :
    (p.withProperty symbol).InRange :=
  have hold := h.mono (p.size_le_withProperty symbol)
  { hold with
    properties := forall_mem_push hold.properties
      (Nat.lt_of_lt_of_le howner (p.size_le_withProperty symbol _)) }

theorem withEvent {symbol : EventSymbol} (howner : p.Has symbol.containingType) :
    (p.withEvent symbol).InRange :=
  have hold := h.mono (p.size_le_withEvent symbol)
  { hold with
    events := forall_mem_push hold.events
      (Nat.lt_of_lt_of_le howner (p.size_le_withEvent symbol _)) }

theorem withNode {node : SyntaxNode} (hnode : AllBelow p.size node.references) :
    (p.withNode node).InRange :=
  have hold := h.mono (p.size_le_withNode node)
  { hold with
    nodes := forall_mem_push hold.nodes
      (SyntaxNode.idsBelow_iff.mpr (hnode.mono (p.size_le_withNode node))) }

theorem withFile {source : SourceFile} {span : Span} : (p.withFile source span).InRange := by
  have hsize : ∀ arena, p.size arena ≤
      ({ p with files := p.files.push source } : Program).size arena := by
    intro arena
    cases arena <;> simp [size]
  have hold := h.mono hsize
  have hfiles : InRange { p with files := p.files.push source } :=
    ⟨hold.namespaces, hold.types, hold.methods, hold.properties, hold.events, hold.nodes⟩
  refine hfiles.withNode (allBelow_node ?_ (by simp [NodeKind.children]) ?_)
  · exact Nat.lt_of_lt_of_eq (Nat.lt_succ_self _) (Array.size_push ..).symm
  · exact fun _ h => absurd h List.not_mem_nil

theorem withKind {id child : NodeId} {f : NodeKind → NodeKind} (hadds : Adds child f)
    (hchild : p.Has child) : (p.withKind id f).InRange := by
  have hnodes : ∀ node ∈ p.nodes.modify id.index fun node => { node with kind := f node.kind },
      node.IdsBelow p.size := by
    refine forall_mem_modify h.nodes fun node _ hnode => SyntaxNode.idsBelow_iff.mpr ?_
    exact hadds.allBelow hchild hnode
  rw [InRange, funext size_withKind]
  exact { h with nodes := hnodes }

end InRange

end Program

/-! ## Builders -/

namespace Builder

/-- What every step of a builder keeps true. -/
structure Sound (b : Builder) : Prop where
  inRange : b.program.InRange
  typesOrdered : b.program.TypesOrdered
  layered : b.program.Layered b.units
  unitsInRange : ∀ id ∈ b.units, b.program.Has id
  size_units : b.units.size = b.program.files.size
  file : ∀ id, b.file = some id → b.program.Has id

/-- The current file has a node that stands for all of it. -/
theorem Sound.exists_unit {b : Builder} (h : b.Sound) {file : FileId} (hfile : b.file = some file) :
    ∃ unit, b.units[file.index]? = some unit ∧ unit ∈ b.units := by
  have hlt : file.index < b.units.size := by
    rw [h.size_units]
    exact h.file file hfile
  exact ⟨_, Array.getElem?_eq_getElem hlt, Array.getElem_mem hlt⟩

/-- A node that may become a child: it is in the lowest layer and not a child yet. -/
structure Root (b : Builder) (id : NodeId) : Prop where
  has : b.program.Has id
  notUnit : id ∉ b.units
  notDeclared : ¬ b.program.DeclaresType id
  notListed : id ∉ b.program.listedChildren

/-- All roots are kept. -/
def All (_ : NodeId) : Prop := True

/-- One builder grew into another: nothing was removed, and the roots to keep are still roots. -/
structure Grows (keep : NodeId → Prop) (b b' : Builder) : Prop where
  size : ∀ arena, b.program.size arena ≤ b'.program.size arena
  root : ∀ id, keep id → b.Root id → b'.Root id

namespace Grows

variable {keep keep' : NodeId → Prop} {b b' b'' : Builder}

theorem refl (b : Builder) : Grows keep b b :=
  ⟨fun _ => Nat.le_refl _, fun _ _ h => h⟩

theorem trans (h : Grows keep b b') (h' : Grows keep b' b'') : Grows keep b b'' :=
  ⟨fun arena => Nat.le_trans (h.size arena) (h'.size arena),
    fun id hid hroot => h'.root id hid (h.root id hid hroot)⟩

theorem mono (h : Grows keep b b') (hsub : ∀ id, keep' id → keep id) : Grows keep' b b' :=
  ⟨h.size, fun id hid => h.root id (hsub id hid)⟩

theorem has (h : Grows keep b b') {arena : Arena} {id : ItemId arena} (hid : b.program.Has id) :
    b'.program.Has id :=
  Nat.lt_of_lt_of_le hid (h.size arena)

theorem allBelow (h : Grows keep b b') {references : List Reference}
    (hbelow : AllBelow b.program.size references) : AllBelow b'.program.size references :=
  hbelow.mono h.size

end Grows

theorem Sound.new (assembly : String) : (Builder.new assembly).Sound where
  inRange := by constructor <;> simp [Builder.new]
  typesOrdered := by simp [Program.TypesOrdered, Builder.new]
  layered := by
    have hchild : ∀ parent child, ¬ (Builder.new assembly).program.IsChild parent child := by
      intro parent child
      simp [Program.IsChild, Program.childrenAt, Builder.new]
    exact ⟨by simp [Program.listedChildren, Builder.new], fun _ _ h => absurd h (hchild _ _),
      fun _ _ h => absurd h (hchild _ _), fun _ _ h => absurd h (hchild _ _)⟩
  unitsInRange := by simp [Builder.new]
  size_units := rfl
  file := by simp [Builder.new]

theorem Sound.loads {b : Builder} (h : b.Sound) : b.program.check = .ok () ∧
    b.program.link = .ok b.finish ∧ b.finish.check = .ok () ∧ b.finish.link = .ok b.finish := by
  have hcheck := h.typesOrdered.check_eq_ok h.inRange
  exact ⟨hcheck, Program.link_of_nodup hcheck h.layered.nodup
    (h.layered.noCircle (Program.childrenInRange_of_inRange h.inRange))⟩

/-- A change of symbols. Nodes may become declarations of types only if they are no children. -/
theorem Sound.of_same_nodes {b b' : Builder} (h : b.Sound) (hrange : b'.program.InRange)
    (hordered : b'.program.TypesOrdered) (hnodes : b'.program.nodes = b.program.nodes)
    (hfiles : b'.program.files = b.program.files) (hunits : b'.units = b.units)
    (hfile : b'.file = b.file)
    (hkept : ∀ id, b.program.DeclaresType id → b'.program.DeclaresType id)
    (hnew : ∀ id, b'.program.DeclaresType id →
      b.program.DeclaresType id ∨ id ∉ b.program.listedChildren) :
    b'.Sound := by
  have hchild : ∀ parent child, b'.program.IsChild parent child →
      b.program.IsChild parent child := by
    intro parent child hchild
    unfold Program.IsChild at hchild ⊢
    rwa [← hnodes]
  have hhas : ∀ id : NodeId, b.program.Has id → b'.program.Has id := by
    intro id hid
    have hsize : b'.program.nodes.size = b.program.nodes.size := by rw [hnodes]
    exact Nat.lt_of_lt_of_eq hid hsize.symm
  refine ⟨hrange, hordered, ⟨?_, fun parent child hedge => ?_,
    fun parent child hedge hdeclares => ?_, fun parent child hedge => ?_⟩, fun id hid => ?_, ?_,
    fun id hid => ?_⟩
  · rw [Program.listedChildren, hnodes]
    exact h.layered.nodup
  · rw [hunits]
    exact h.layered.unit parent child (hchild parent child hedge)
  · rw [hunits]
    rcases hnew child hdeclares with hdeclares | hnot
    · exact h.layered.declared parent child (hchild parent child hedge) hdeclares
    · exact absurd (Program.mem_listedChildren.mpr ⟨parent, hchild parent child hedge⟩) hnot
  · rw [hunits]
    exact (h.layered.down parent child (hchild parent child hedge)).imp_right
      fun hor => hor.imp_left (hkept parent)
  · rw [hunits] at hid
    exact hhas id (h.unitsInRange id hid)
  · rw [hunits, hfiles]
    exact h.size_units
  · rw [hfile] at hid
    have hsize : b'.program.files.size = b.program.files.size := by rw [hfiles]
    exact Nat.lt_of_lt_of_eq (h.file id hid) hsize.symm

theorem Root.of_same_nodes {b b' : Builder} {id : NodeId} (h : b.Root id)
    (hnodes : b'.program.nodes = b.program.nodes) (hunits : b'.units = b.units)
    (hnew : b'.program.DeclaresType id → b.program.DeclaresType id) : b'.Root id := by
  have hsize : b'.program.nodes.size = b.program.nodes.size := by rw [hnodes]
  refine ⟨Nat.lt_of_lt_of_eq h.has hsize.symm, ?_, fun hdeclares => h.notDeclared (hnew hdeclares),
    ?_⟩
  · rw [hunits]
    exact h.notUnit
  · rw [Program.listedChildren, hnodes]
    exact h.notListed

namespace Sound

variable {b : Builder} (h : b.Sound)

include h

theorem has_of_declaresType {id : NodeId} (hid : b.program.DeclaresType id) : b.program.Has id := by
  obtain ⟨symbol, hmem, hdeclaration⟩ := hid
  exact (h.inRange.types symbol hmem).declaration id hdeclaration

theorem has_of_listed {id : NodeId} (hid : id ∈ b.program.listedChildren) : b.program.Has id := by
  obtain ⟨parent, hchild⟩ := Program.mem_listedChildren.mp hid
  exact Program.childrenInRange_of_inRange h.inRange parent id hchild

section WithNode

variable {node : SyntaxNode} (hchildren : ∀ child ∈ node.kind.children, b.Root child)

include hchildren

/-- Roots become children of a new node. -/
theorem withNode (hnode : AllBelow b.program.size node.references)
    (hnodup : node.kind.children.Nodup) :
    Sound { b with program := b.program.withNode node } where
  inRange := h.inRange.withNode hnode
  typesOrdered := h.typesOrdered
  layered :=
    { nodup := by
        rw [Program.listedChildren_withNode]
        refine List.nodup_append.mpr ⟨h.layered.nodup, hnodup, ?_⟩
        rintro id hid _ hchild rfl
        exact (hchildren id hchild).notListed hid
      unit := fun parent child hedge => by
        rcases Program.isChild_withNode hedge with hold | ⟨-, hnew⟩
        · exact h.layered.unit parent child hold
        · exact (hchildren child hnew).notUnit
      declared := fun parent child hedge hdeclares => by
        rcases Program.isChild_withNode hedge with hold | ⟨-, hnew⟩
        · exact h.layered.declared parent child hold hdeclares
        · exact absurd hdeclares (hchildren child hnew).notDeclared
      down := fun parent child hedge => by
        rcases Program.isChild_withNode hedge with hold | ⟨hparent, hnew⟩
        · exact h.layered.down parent child hold
        · exact Or.inr (Or.inr (Nat.lt_of_lt_of_eq (hchildren child hnew).has hparent.symm)) }
  unitsInRange id hid :=
    Nat.lt_of_lt_of_le (h.unitsInRange id hid) (b.program.size_le_withNode node _)
  size_units := h.size_units
  file := h.file

/-- The new node is a root. -/
theorem root_withNode :
    Root { b with program := b.program.withNode node } ⟨b.program.nodes.size⟩ := by
  have hnot : ¬ b.program.Has (⟨b.program.nodes.size⟩ : NodeId) := Nat.lt_irrefl _
  refine ⟨?_, fun hunit => hnot (h.unitsInRange _ hunit),
    fun hdeclares => hnot (h.has_of_declaresType hdeclares), fun hlisted => ?_⟩
  · exact Nat.lt_of_lt_of_eq (Nat.lt_succ_self _) (Array.size_push ..).symm
  · rw [Program.listedChildren_withNode, List.mem_append] at hlisted
    rcases hlisted with hold | hnew
    · exact hnot (h.has_of_listed hold)
    · exact hnot (hchildren _ hnew).has

end WithNode

/-- A file is started, and its node is the node of a whole file. -/
theorem withFile {b' : Builder} {source : SourceFile} {span : Span}
    (hprogram : b'.program = b.program.withFile source span)
    (hunits : b'.units = b.units.push ⟨b.program.nodes.size⟩)
    (hfile : b'.file = some ⟨b.program.files.size⟩) : b'.Sound ∧ b.Grows All b' := by
  have hfresh : ∀ id : NodeId, b.program.Has id → id ∉ b.units → id ∉ b'.units := by
    intro id hid hunit hmem
    rw [hunits] at hmem
    rcases Array.mem_push.mp hmem with hmem | rfl
    · exact hunit hmem
    · exact Nat.lt_irrefl _ hid
  have hkept : ∀ id ∈ b.units, id ∈ b'.units := by
    intro id hid
    rw [hunits]
    exact Array.mem_push_of_mem _ hid
  have hchild : ∀ parent child, b'.program.IsChild parent child →
      b.program.IsChild parent child := by
    intro parent child hedge
    rw [hprogram] at hedge
    exact Program.isChild_of_withFile hedge
  have hdeclares : ∀ id, b'.program.DeclaresType id ↔ b.program.DeclaresType id := by
    intro id
    rw [hprogram]
    rfl
  have hlisted : b'.program.listedChildren = b.program.listedChildren := by
    rw [hprogram, Program.listedChildren_withFile]
  have hsize : ∀ arena, b.program.size arena ≤ b'.program.size arena := by
    rw [hprogram]
    exact Program.size_le_withFile
  refine ⟨⟨?_, ?_, ⟨?_, fun parent child hedge => ?_, fun parent child hedge hdeclared => ?_,
    fun parent child hedge => ?_⟩, fun id hid => ?_, ?_, fun id hid => ?_⟩, hsize,
    fun id _ hroot => ?_⟩
  · rw [hprogram]
    exact h.inRange.withFile
  · rw [hprogram]
    exact h.typesOrdered
  · rw [hlisted]
    exact h.layered.nodup
  · have hold := hchild parent child hedge
    exact hfresh child (h.has_of_listed (Program.mem_listedChildren.mpr ⟨parent, hold⟩))
      (h.layered.unit parent child hold)
  · exact hkept parent (h.layered.declared parent child (hchild parent child hedge)
      ((hdeclares child).mp hdeclared))
  · exact (h.layered.down parent child (hchild parent child hedge)).imp (hkept parent)
      fun hor => hor.imp_left (hdeclares parent).mpr
  · rw [hunits] at hid
    rcases Array.mem_push.mp hid with hid | rfl
    · exact Nat.lt_of_lt_of_le (h.unitsInRange id hid) (hsize _)
    · rw [hprogram]
      exact Nat.lt_of_lt_of_eq (Nat.lt_succ_self _) (Array.size_push ..).symm
  · rw [hunits, hprogram, Array.size_push, h.size_units]
    exact (Array.size_push ..).symm
  · rw [hfile] at hid
    cases hid
    rw [hprogram]
    exact Nat.lt_of_lt_of_eq (Nat.lt_succ_self _) (Array.size_push ..).symm
  · refine ⟨Nat.lt_of_lt_of_le hroot.has (hsize _), hfresh id hroot.has hroot.notUnit,
      fun hdeclared => hroot.notDeclared ((hdeclares id).mp hdeclared), ?_⟩
    rw [hlisted]
    exact hroot.notListed

section WithKind

variable {id child : NodeId} {f : NodeKind → NodeKind} (hadds : Program.Adds child f)

include hadds

/-- A node becomes a child of a node in a higher layer. -/
theorem withKind
    (hlayer : id ∈ b.units ∨ b.program.DeclaresType id ∧ ¬ b.program.DeclaresType child)
    (hchild : b.program.Has child) (hunit : child ∉ b.units)
    (hlisted : child ∉ b.program.listedChildren) :
    Sound { b with program := b.program.withKind id f } where
  inRange := h.inRange.withKind hadds hchild
  typesOrdered := h.typesOrdered
  layered :=
    { nodup := by
        rcases Program.listedChildren_withKind hadds with heq | hperm
        · rw [heq]
          exact h.layered.nodup
        · refine hperm.nodup_iff.mpr (List.nodup_append.mpr ⟨h.layered.nodup, by simp, ?_⟩)
          rintro other hother _ hmem rfl
          exact hlisted (List.mem_singleton.mp hmem ▸ hother)
      unit := fun parent other hedge => by
        rcases Program.isChild_withKind hadds hedge with hold | ⟨-, rfl⟩
        · exact h.layered.unit parent other hold
        · exact hunit
      declared := fun parent other hedge hdeclares => by
        rcases Program.isChild_withKind hadds hedge with hold | ⟨rfl, rfl⟩
        · exact h.layered.declared parent other hold hdeclares
        · exact hlayer.resolve_right fun hnot => hnot.2 hdeclares
      down := fun parent other hedge => by
        rcases Program.isChild_withKind hadds hedge with hold | ⟨rfl, rfl⟩
        · exact h.layered.down parent other hold
        · exact hlayer.imp_right fun hdeclares => Or.inl hdeclares.1 }
  unitsInRange other hother :=
    Nat.lt_of_lt_of_eq (h.unitsInRange other hother) (Program.size_withKind .node).symm
  size_units := h.size_units
  file := h.file

omit h in
theorem root_withKind {root : NodeId} (hroot : b.Root root) (hne : root ≠ child) :
    Root { b with program := b.program.withKind id f } root := by
  refine ⟨Nat.lt_of_lt_of_eq hroot.has (Program.size_withKind .node).symm, hroot.notUnit,
    hroot.notDeclared, fun hmem => ?_⟩
  rcases Program.listedChildren_withKind hadds with heq | hperm
  · exact hroot.notListed (heq ▸ hmem)
  · rcases List.mem_append.mp (hperm.mem_iff.mp hmem) with hold | hnew
    · exact hroot.notListed hold
    · exact hne (List.mem_singleton.mp hnew)

end WithKind

end Sound

theorem Root.withNode {b : Builder} {node : SyntaxNode} {id : NodeId} (h : b.Root id)
    (hid : id ∉ node.kind.children) : Root { b with program := b.program.withNode node } id := by
  refine ⟨Nat.lt_of_lt_of_le h.has (b.program.size_le_withNode node _), h.notUnit, h.notDeclared,
    ?_⟩
  rw [Program.listedChildren_withNode, List.mem_append]
  exact fun hlisted => hlisted.elim h.notListed hid

end Builder

end ModLint
