import Mathlib.Data.List.FinRange
import ModLint.Proofs.Resemblance
import ModLint.Proofs.StoredIds

/-!
# Programs with other node numbers

The numbers of the nodes are chosen by whoever writes a program down. Here all node ids of a
program are replaced according to a permutation of its arena, and the result is shown to be checked
and linked if the program was: a forest stays a forest whatever its nodes are called. The texts of
its files have no part in this, so the relation between the two programs leaves them open.
-/

namespace ModLint

open Relation

/-! ## Renumbered programs -/

/-- A permutation of the first ids as one of all ids; the others stay. -/
def NodeId.renumbering {n : Nat} (σ : Equiv.Perm (Fin n)) : Equiv.Perm NodeId where
  toFun id := ⟨σ.extendDomain Fin.equivSubtype id.index⟩
  invFun id := ⟨(σ.extendDomain Fin.equivSubtype).symm id.index⟩
  left_inv id := congrArg ItemId.mk (Equiv.symm_apply_apply _ id.index)
  right_inv id := congrArg ItemId.mk (Equiv.apply_symm_apply _ id.index)

theorem NodeId.renumbering_of_lt {n : Nat} (σ : Equiv.Perm (Fin n)) {id : NodeId}
    (h : id.index < n) : renumbering σ id = ⟨σ ⟨id.index, h⟩⟩ := by
  have hvalue := σ.extendDomain_apply_subtype Fin.equivSubtype h
  exact congrArg ItemId.mk hvalue

theorem NodeId.renumbering_of_not_lt {n : Nat} (σ : Equiv.Perm (Fin n)) {id : NodeId}
    (h : ¬ id.index < n) : renumbering σ id = id := by
  have hvalue := σ.extendDomain_apply_not_subtype Fin.equivSubtype h
  exact congrArg ItemId.mk hvalue

namespace Program

/-- The program in which the node at position `i` has moved to position `σ i`, and everything that
refers to a node follows it. -/
def renumber (p : Program) (σ : Equiv.Perm (Fin p.nodes.size)) : Program :=
  { p with
    types := p.types.map (TypeSymbol.mapNodes (NodeId.renumbering σ))
    methods := p.methods.map (MethodSymbol.mapNodes (NodeId.renumbering σ))
    nodes := Array.ofFn fun i => (p.nodes[σ.symm i]).mapNodes (NodeId.renumbering σ) }

/-- The second program is the first one with its node ids replaced by `f`, and perhaps with other
texts in its files. -/
structure AlikeUnder (f : Equiv.Perm NodeId) (p q : Program) : Prop where
  rest : q = { p with
    files := q.files
    types := p.types.map (TypeSymbol.mapNodes f)
    methods := p.methods.map (MethodSymbol.mapNodes f)
    nodes := q.nodes }
  paths : q.files.map SourceFile.path = p.files.map SourceFile.path
  nodes : ∀ id : NodeId,
    q.nodes[(f id).index]? = p.nodes[id.index]?.map (SyntaxNode.mapNodes f)
  perm : q.nodes.toList.Perm (p.nodes.toList.map (SyntaxNode.mapNodes f))
  outside : ∀ id : NodeId, p.nodes.size ≤ id.index → f id = id

theorem renumber_alikeUnder (p : Program) (σ : Equiv.Perm (Fin p.nodes.size)) :
    p.AlikeUnder (NodeId.renumbering σ) (p.renumber σ) := by
  refine ⟨rfl, rfl, fun id => ?_, ?_, fun id hid => ?_⟩
  · by_cases hid : id.index < p.nodes.size
    · rw [NodeId.renumbering_of_lt σ hid, Array.getElem?_eq_getElem hid]
      simp [renumber]
    · have hle := Nat.le_of_not_lt hid
      rw [NodeId.renumbering_of_not_lt σ hid, Array.getElem?_eq_none hle,
        Array.getElem?_eq_none (by simpa [renumber] using hle), Option.map_none]
  · have hperm := Equiv.Perm.ofFn_comp_perm σ.symm fun i =>
      (p.nodes[i]).mapNodes (NodeId.renumbering σ)
    have hmap : List.ofFn (fun i : Fin p.nodes.size =>
          (p.nodes[i]).mapNodes (NodeId.renumbering σ)) =
        p.nodes.toList.map (SyntaxNode.mapNodes (NodeId.renumbering σ)) := by
      apply List.ext_getElem
      · simp
      · intro i h₁ h₂
        simp
    rw [hmap] at hperm
    simpa [renumber, Function.comp_def] using hperm
  · exact NodeId.renumbering_of_not_lt σ (Nat.not_lt.mpr hid)

namespace AlikeUnder

variable {f : Equiv.Perm NodeId} {p q : Program} (h : p.AlikeUnder f q)

include h

theorem types_eq : q.types = p.types.map (TypeSymbol.mapNodes f) := by
  rw [h.rest]

theorem methods_eq : q.methods = p.methods.map (MethodSymbol.mapNodes f) := by
  rw [h.rest]

theorem nodes_size : q.nodes.size = p.nodes.size := by
  simpa using h.perm.length_eq

theorem size_eq : q.size = p.size := by
  funext arena
  cases arena with
  | file => simpa [size] using congrArg Array.size h.paths
  | node => exact h.nodes_size
  | type => rw [size, size, h.types_eq, Array.size_map]
  | method => rw [size, size, h.methods_eq, Array.size_map]
  | _ => rw [h.rest]; rfl

theorem index_lt_iff (id : NodeId) : (f id).index < q.nodes.size ↔ id.index < p.nodes.size := by
  have hnone : q.nodes.size ≤ (f id).index ↔ p.nodes.size ≤ id.index := by
    rw [← Array.getElem?_eq_none_iff, h.nodes, Option.map_eq_none_iff, Array.getElem?_eq_none_iff]
  omega

/-- The ids of the second program are those of the first one, replaced. -/
theorem nodeIds_perm : q.nodeIds.Perm (p.nodeIds.map f) := by
  have hnodup : ∀ r : Program, r.nodeIds.Nodup := fun r =>
    List.nodup_range.map fun a b hab => by simpa using hab
  rw [List.perm_ext_iff_of_nodup (hnodup q) ((hnodup p).map f.injective)]
  intro id
  obtain ⟨old, rfl⟩ := f.surjective id
  rw [List.mem_map_of_injective f.injective, mem_nodeIds, mem_nodeIds, h.index_lt_iff]

/-! ## Loading -/

theorem inRange (hp : p.InRange) : q.InRange := by
  have hbelow : ∀ id : NodeId, id.Below p.size → (f id).Below p.size := by
    intro id hid
    have hlt := (h.index_lt_iff id).mpr hid
    rwa [h.nodes_size] at hlt
  have hoption : ∀ id? : Option NodeId, (∀ id, id? = some id → id.Below p.size) →
      ∀ id, id?.map f = some id → id.Below p.size := by
    intro id? hid? id hid
    obtain ⟨old, hold, rfl⟩ := Option.map_eq_some_iff.mp hid
    exact hbelow old (hid? old hold)
  rw [InRange, h.size_eq]
  refine ⟨?_, ?_, ?_, ?_, ?_, ?_⟩
  · rw [h.rest]
    exact hp.namespaces
  · rw [h.types_eq]
    intro symbol hsymbol
    obtain ⟨old, hold, rfl⟩ := Array.mem_map.mp hsymbol
    have hids := hp.types old hold
    refine ⟨hids.nameSpace, hids.containingType, hids.base, fun data hdata => ?_, hids.members,
      hoption _ hids.declaration⟩
    obtain ⟨data', hdata', rfl⟩ := List.mem_map.mp hdata
    have hattribute := hids.attributes data' hdata'
    exact ⟨hattribute.attributeClass, hoption _ hattribute.site, hattribute.types⟩
  · rw [h.methods_eq]
    intro symbol hsymbol
    obtain ⟨old, hold, rfl⟩ := Array.mem_map.mp hsymbol
    have hids := hp.methods old hold
    exact ⟨hids.containingType, hids.returnType, hids.parameters, hoption _ hids.declaration⟩
  · rw [h.rest]
    exact hp.properties
  · rw [h.rest]
    exact hp.events
  · intro node hnode
    obtain ⟨old, hold, rfl⟩ := List.mem_map.mp (h.perm.mem_iff.mp (Array.mem_def.mp hnode))
    have hids := SyntaxNode.idsBelow_iff.mp (hp.nodes old (Array.mem_def.mpr hold))
    rw [SyntaxNode.idsBelow_iff]
    -- of the references of a node only those to its children change
    simp only [SyntaxNode.references, SyntaxNode.mapNodes, NodeKind.children_mapNodes,
      NodeKind.declaredMethod?_mapNodes, NodeKind.symbol?_mapNodes,
      NodeKind.extraReferences_mapNodes, List.cons_append, allBelow_append, allBelow_cons,
      allBelow_map, List.forall_mem_map] at hids ⊢
    obtain ⟨hfile, ⟨⟨hchildren, hmethod⟩, hsymbol⟩, hextra⟩ := hids
    exact ⟨hfile, ⟨⟨fun id hid => hbelow id (hchildren id hid), hmethod⟩, hsymbol⟩, hextra⟩

theorem linkIndex?_eq (link : TypeLink) : q.linkIndex? link = p.linkIndex? link := by
  funext i
  rw [linkIndex?, linkIndex?, h.types_eq, Array.getElem?_map]
  cases p.types[i]? with
  | none => rfl
  | some symbol => cases link <;> rfl

theorem check_eq_ok (hcheck : p.check = .ok ()) : q.check = .ok () := by
  obtain ⟨hdangling, hcycle⟩ := check_eq_ok_iff.mp hcheck
  have hrange := h.inRange (dangling?_eq_none_iff.mp hdangling)
  have hsize : q.types.size = p.types.size := congrFun h.size_eq .type
  rw [typeCycle?_eq_none_iff_walks] at hcycle
  refine check_eq_ok_iff.mpr ⟨dangling?_eq_none_iff.mpr hrange, ?_⟩
  rw [typeCycle?_eq_none_iff_walks]
  intro link i hi
  rw [h.linkIndex?_eq, hsize]
  exact hcycle link i (by rwa [hsize] at hi)

theorem childrenAt_eq (id : NodeId) :
    childrenAt q.nodes (f id).index = (childrenAt p.nodes id.index).map f := by
  rw [childrenAt, childrenAt, h.nodes id]
  cases p.nodes[id.index]? with
  | none => rfl
  | some node => simp [SyntaxNode.mapNodes]

theorem parentAt_eq (id : NodeId) :
    parentAt q.nodes (f id).index = (parentAt p.nodes id.index).map f := by
  rw [parentAt, parentAt, h.nodes id]
  cases p.nodes[id.index]? <;> rfl

theorem isChild_iff (parent child : NodeId) :
    q.IsChild (f parent) (f child) ↔ p.IsChild parent child := by
  rw [IsChild, IsChild, h.childrenAt_eq, List.mem_map_of_injective f.injective]

theorem listedChildren_perm : q.listedChildren.Perm (p.listedChildren.map f) := by
  have hperm := h.perm.flatMap_right fun node => node.kind.children
  have hmap : (p.nodes.toList.map (SyntaxNode.mapNodes f)).flatMap
        (fun node => node.kind.children) =
      p.listedChildren.map f := by
    simp [listedChildren, List.flatMap_map, List.map_flatMap, SyntaxNode.mapNodes]
  rwa [hmap] at hperm

/-- A renumbered program is loaded if the first one was. -/
theorem loaded (hp : p.Loaded) : q.Loaded := by
  refine ⟨h.inRange hp.inRange, fun parent child => ?_, fun id hid => ?_⟩
  · obtain ⟨parent, rfl⟩ := f.surjective parent
    obtain ⟨child, rfl⟩ := f.surjective child
    rw [h.parentAt_eq, h.isChild_iff, ← hp.parent_iff, Option.map_eq_some_iff]
    constructor
    · rintro ⟨other, hother, heq⟩
      rwa [f.injective heq] at hother
    · intro hparent
      exact ⟨parent, hparent, rfl⟩
  · -- a circle can be followed backwards along `f`
    refine hp.noCircle (f.symm id) (hid.lift f.symm fun a b hab => ?_)
    refine (h.isChild_iff _ _).mp ?_
    rwa [f.apply_symm_apply, f.apply_symm_apply]

end AlikeUnder

/-! ## Linking -/

/-- Links that are right already are computed again. -/
theorem Loaded.link_eq_self {p : Program} (h : p.Loaded) (hnodup : p.listedChildren.Nodup) :
    p.link = .ok p := by
  have hedges := map_snd_edgesOf_nodeIds p
  rcases link_cases (childrenInRange_of_inRange h.inRange) with
    ⟨_, _, _, hclash, -⟩ | ⟨nodes, hadopted, ⟨-, hlink⟩ | ⟨hcircle, -⟩⟩
  · rw [← hedges] at hnodup
    exact absurd hnodup hclash.not_nodup
  · have hparents : ∀ i, parentAt nodes i = parentAt p.nodes i := by
      intro i
      apply Option.ext
      intro parent
      rw [hadopted.parent_iff parent ⟨i⟩, mem_edgesOf_nodeIds, ← h.parent_iff]
    have hnodes : nodes = p.nodes := by
      apply Array.ext_getElem?
      intro i
      have hframe := congrArg (fun items => items[i]?) hadopted.frame
      have hparent := hparents i
      simp only [Array.getElem?_map] at hframe
      unfold parentAt at hparent
      cases hn : nodes[i]? with
      | none =>
        rw [hn] at hframe
        exact (Option.map_eq_none_iff.mp hframe.symm).symm
      | some node =>
        rw [hn] at hframe hparent
        obtain ⟨node', hn', heq⟩ := Option.map_eq_some_iff.mp hframe.symm
        rw [hn'] at hparent ⊢
        cases node
        cases node'
        simp_all [orphan]
    rw [hlink, hnodes]
  · exact absurd h.noCircle hcircle

/-- A checked and linked program passes both steps again, and so does it under all numberings of
its nodes. -/
theorem AlikeUnder.loads {f : Equiv.Perm NodeId} {s p q : Program} (h : p.AlikeUnder f q)
    (hcheck : s.check = .ok ()) (hlink : s.link = .ok p) :
    q.check = .ok () ∧ q.link = .ok q := by
  have hp : p.Loaded := loaded_of_link hcheck hlink
  have hrange := childrenInRange_of_inRange (inRange_of_check hcheck)
  obtain ⟨nodes, hadopted, -, rfl⟩ := adopted_of_link hrange hlink
  have hagain : ({ s with nodes } : Program).link = .ok { s with nodes } := by
    rw [link_with_nodes hadopted.frame, hlink]
  have hlisted : ({ s with nodes } : Program).listedChildren.Nodup := by
    obtain ⟨_, hadopted', -, -⟩ :=
      adopted_of_link (childrenInRange_of_inRange hp.inRange) hagain
    rw [← map_snd_edgesOf_nodeIds]
    exact hadopted'.nodup
  refine ⟨h.check_eq_ok (by rw [check_with_nodes hadopted.frame, hcheck]), ?_⟩
  refine (h.loaded hp).link_eq_self ?_
  rw [h.listedChildren_perm.nodup_iff]
  exact hlisted.map f.injective

end Program

end ModLint
