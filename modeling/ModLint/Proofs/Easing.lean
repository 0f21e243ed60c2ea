import ModLint.Proofs.FoundAgain
import ModLint.Proofs.Reports

/-!
# Programs in which more methods are static

A program is *eased* to another one if some of its methods become static and the modifiers of some
functions and the blanks in front of nodes change; everything else stays. The two programs resemble
each other, so the checks find in the eased program what they found before, less some findings of
three conditions that a static method does not meet.
-/

namespace ModLint

/-! ## Eased programs -/

/-- Methods of which the second is static if the first is, and which agree in everything else. -/
def MethodSymbol.Eased (a b : MethodSymbol) : Prop :=
  ∃ isStatic, b = { a with isStatic } ∧ (a.isStatic = true → isStatic = true)

/-- The second program is the first one with more static methods and other modifiers. -/
structure Program.EasedTo (p q : Program) : Prop where
  rest : q = { p with methods := q.methods, nodes := q.nodes }
  methods : ∀ i : Nat, Option.Rel MethodSymbol.Eased p.methods[i]? q.methods[i]?
  nodes : ∀ i : Nat, Option.Rel SyntaxNode.Remodified p.nodes[i]? q.nodes[i]?

namespace Program.EasedTo

variable {p q : Program} (h : p.EasedTo q)

include h

theorem types_eq : q.types = p.types := by
  rw [h.rest]

theorem node (id : NodeId) : Alike SyntaxNode.Remodified (p.node id) (q.node id) :=
  fetch_alike h.nodes id

theorem file_eq (id : FileId) : q.file id = p.file id := by
  rw [h.rest]
  rfl

/-- The child lists are the same. -/
theorem map_children_eq :
    q.nodes.map (fun node => node.kind.children) = p.nodes.map fun node => node.kind.children := by
  apply Array.ext_getElem?
  intro i
  rw [Array.getElem?_map, Array.getElem?_map]
  have hi := h.nodes i
  generalize p.nodes[i]? = a at hi ⊢
  generalize q.nodes[i]? = b at hi ⊢
  cases hi with
  | none => rfl
  | some hab => obtain ⟨_ | _ | _⟩ := hab <;> rfl

theorem walkBound_eq : q.walkBound = p.walkBound := by
  have hlists : q.nodes.toList.flatMap (fun node => node.kind.children) =
      p.nodes.toList.flatMap fun node => node.kind.children := by
    rw [List.flatMap_def, List.flatMap_def, ← Array.toList_map, ← Array.toList_map,
      h.map_children_eq]
  rw [walkBound, walkBound, hlists, size_eq_of_rel h.nodes]

theorem resembles : p.Resembles id true q where
  injective := Function.injective_id
  sameNaming := by
    rw [h.rest]
    exact ⟨rfl, rfl, rfl, rfl, rfl, fun _ => Alike.refl (fun _ => ⟨rfl, rfl, rfl, rfl, rfl⟩) _⟩
  file id := by
    rw [h.file_eq]
    exact Alike.refl (R := fun a b : SourceFile => b.path = a.path) (fun _ => rfl) _
  type id := by
    rw [Program.type, Program.type, h.types_eq]
    exact .refl (fun symbol => ⟨symbol.members, by rw [TypeSymbol.mapNodes_id]; rfl⟩) _
  method id := by
    refine (fetch_alike h.methods id).mono ?_
    rintro a _ ⟨isStatic, rfl, hkept⟩
    exact ⟨isStatic, by rw [MethodSymbol.mapNodes_id]; rfl, hkept, fun _ => Or.inr rfl⟩
  node id := by
    refine (h.node id).mono fun a b hab => ?_
    rwa [SyntaxNode.Resembles, SyntaxNode.mapNodes_id]
  nodes_size := size_eq_of_rel h.nodes
  walkBound_eq := h.walkBound_eq

theorem location_eq (id : NodeId) : q.location id = p.location id :=
  h.resembles.location_eq id

theorem siteOf_eq (names : FrameworkNames) (event : Event) :
    Check.Hooks.siteOf q names event = Check.Hooks.siteOf p names event := by
  have halike := h.resembles.siteOf_alike names event
  rw [Event.mapNodes_id] at halike
  refine halike.eq fun site? site?' hsite => ?_
  rw [hsite]
  cases site? <;> rfl

/-! ## Reports -/

/-- A checker finds in the eased program what it found before, less some findings that a static
method does not give. -/
theorem inspect (names : FrameworkNames) (checker : Checker) (event : Event) :
    Alike (FoundAgain id true) (checker.inspect p names event)
      (checker.inspect q names event) := by
  have hmembers : ∀ id a b, p.type id = .ok a → q.type id = .ok b → b.members = a.members := by
    intro id a b ha hb
    rw [Program.type, h.types_eq] at hb
    rw [lookup_unique hb ha]
  have hinspect := h.resembles.inspect names hmembers checker event
  rwa [Event.mapNodes_id] at hinspect

theorem diagnostic?_eq (finding : Finding) (catalog : Catalog) :
    finding.diagnostic? catalog q = finding.diagnostic? catalog p := by
  simp only [Finding.diagnostic?, h.location_eq]

/-- What is reported in the eased program was reported before, at the same node. -/
theorem reportedAt_before {analyzer : Analyzer} {diagnostic : Diagnostic} {node : NodeId}
    (hreported : analyzer.ReportedAt q diagnostic node) :
    analyzer.ReportedAt p diagnostic node := by
  obtain ⟨events, event, checker, findings, finding, hevents, hevent, hchecker, hinspect, hfinding,
    hreport, hnode⟩ := hreported
  obtain ⟨before, hbefore, hagain⟩ := (h.inspect _ checker event).ok_left hinspect
  obtain ⟨old, hold, rfl⟩ := hagain.exists_of_mem hfinding
  rw [h.resembles.raisedEvents_eq] at hevents
  rw [h.diagnostic?_eq] at hreport
  exact ⟨events, event, checker, before, old, hevents, hevent, hchecker, hbefore, hold, hreport,
    hnode⟩

/-- What was reported before is still reported, unless a static method does not meet its
condition. -/
theorem reportedAt_after {analyzer : Analyzer} {diagnostic : Diagnostic} {node : NodeId}
    (hreported : analyzer.ReportedAt p diagnostic node) (hid : diagnostic.id ∉ easedConditions) :
    analyzer.ReportedAt q diagnostic node := by
  obtain ⟨events, event, checker, findings, finding, hevents, hevent, hchecker, hinspect, hfinding,
    hreport, hnode⟩ := hreported
  obtain ⟨after, hafter, hagain⟩ := (h.inspect _ checker event).ok_right hinspect
  rw [(Finding.diagnostic?_eq_some hreport).1] at hid
  rw [← h.resembles.raisedEvents_eq] at hevents
  rw [← h.diagnostic?_eq] at hreport
  exact ⟨events, event, checker, after, finding, hevents, hevent, hchecker, hafter,
    hagain.mem_of_mem hfinding hid, hreport, hnode⟩

/-! ## Loading -/

theorem size_eq : q.size = p.size := by
  funext arena
  cases arena with
  | method => exact size_eq_of_rel h.methods
  | node => exact size_eq_of_rel h.nodes
  | _ => rw [h.rest]; rfl

omit h in
theorem idsBelow_of_eased {limit : Arena → Nat} {a b : MethodSymbol} (ha : a.IdsBelow limit)
    (hab : a.Eased b) : b.IdsBelow limit := by
  obtain ⟨isStatic, rfl, -⟩ := hab
  exact ⟨ha.containingType, ha.returnType, ha.parameters, ha.declaration⟩

omit h in
theorem idsBelow_of_remodified {limit : Arena → Nat} {a b : SyntaxNode} (ha : a.IdsBelow limit)
    (hab : a.Remodified b) : b.IdsBelow limit := by
  rw [SyntaxNode.idsBelow_iff] at ha ⊢
  obtain ⟨_ | _ | _⟩ := hab <;> exact ha

theorem inRange (hp : p.InRange) : q.InRange := by
  rw [InRange, h.size_eq]
  refine ⟨?_, ?_, ?_, ?_, ?_, ?_⟩
  · rw [h.resembles.sameNaming.namespaces]
    exact hp.namespaces
  · rw [h.types_eq]
    exact hp.types
  · exact forall_mem_of_rel h.methods (fun _ _ => idsBelow_of_eased) hp.methods
  · rw [h.resembles.sameNaming.properties]
    exact hp.properties
  · rw [h.resembles.sameNaming.events]
    exact hp.events
  · exact forall_mem_of_rel h.nodes (fun _ _ => idsBelow_of_remodified) hp.nodes

theorem isChild_iff (parent child : NodeId) : q.IsChild parent child ↔ p.IsChild parent child := by
  have hchildren := congrArg (fun lists => lists[parent.index]?) h.map_children_eq
  simp only [Array.getElem?_map] at hchildren
  rw [IsChild, IsChild, childrenAt, childrenAt, hchildren]

theorem parentAt_eq (i : Nat) : parentAt q.nodes i = parentAt p.nodes i := by
  have hi := h.nodes i
  unfold parentAt
  generalize p.nodes[i]? = a at hi ⊢
  generalize q.nodes[i]? = b at hi ⊢
  cases hi with
  | none => rfl
  | some hab => obtain ⟨_⟩ := hab; rfl

/-- An eased program is loaded if the first one was. -/
theorem loaded (hp : p.Loaded) : q.Loaded := by
  refine ⟨h.inRange hp.inRange, fun parent child => ?_, fun id hid => hp.noCircle id ?_⟩
  · rw [h.parentAt_eq, h.isChild_iff]
    exact hp.parent_iff parent child
  · exact Relation.TransGen.mono (fun a b => (h.isChild_iff a b).mp) _ _ hid

end Program.EasedTo

end ModLint
