import ModLint.Proofs.FoundAgain
import ModLint.Proofs.Reports
import ModLint.Proofs.StoredIds

/-!
# Programs with members in another order

A program is *reordered* to another one if the lists of members of some types are permuted;
everything else stays. The two programs resemble each other, and members are looked up in the check
of custom entities only, so all other checks find the same in both programs.
-/

namespace ModLint

/-! ## Reordered programs -/

/-- Types of which the second lists the members of the first in another order. -/
def TypeSymbol.Reordered (a b : TypeSymbol) : Prop :=
  ∃ members, a.members.Perm members ∧ b = { a with members }

/-- The second program is the first one with the members of types in another order. -/
structure Program.Reordered (p q : Program) : Prop where
  rest : q = { p with types := q.types }
  types : ∀ i : Nat, Option.Rel TypeSymbol.Reordered p.types[i]? q.types[i]?

namespace Program.Reordered

theorem refl (p : Program) : p.Reordered p := by
  refine ⟨rfl, fun i => ?_⟩
  cases p.types[i]? with
  | none => exact .none
  | some symbol => exact .some ⟨symbol.members, .refl _, rfl⟩

variable {p q : Program} (h : p.Reordered q)

include h

theorem type (id : TypeId) : Alike TypeSymbol.Reordered (p.type id) (q.type id) :=
  fetch_alike h.types id

theorem sameNaming : p.SameNaming q := by
  refine ⟨?_, ?_, ?_, ?_, size_eq_of_rel h.types, fun id => (h.type id).mono ?_⟩
  · rw [h.rest]
  · rw [h.rest]
  · rw [h.rest]
  · rw [h.rest]
  · rintro a _ ⟨members, -, rfl⟩
    exact ⟨rfl, rfl, rfl, rfl, rfl⟩

theorem resembles : p.Resembles id false q where
  injective := Function.injective_id
  sameNaming := h.sameNaming
  file id := by
    rw [h.rest]
    exact Alike.refl (R := fun a b : SourceFile => b.path = a.path) (fun _ => rfl) _
  type id := by
    refine (h.type id).mono ?_
    rintro a _ ⟨members, -, rfl⟩
    exact ⟨members, by rw [TypeSymbol.mapNodes_id]; rfl⟩
  method id := by
    rw [h.rest]
    refine .refl (fun method => ?_) _
    exact ⟨method.isStatic, by rw [MethodSymbol.mapNodes_id]; rfl, fun hstatic => hstatic, Or.inl⟩
  node id := by
    rw [h.rest]
    refine .refl (fun node => ?_) _
    rw [SyntaxNode.Resembles, SyntaxNode.mapNodes_id]
    exact .mk (.same _)
  nodes_size := by rw [h.rest]
  walkBound_eq := by
    rw [h.rest]
    rfl

theorem findAttribute_eq (id : TypeId) (className : String) :
    q.findAttribute id className = p.findAttribute id className := by
  refine (h.resembles.findAttribute_alike id className).eq fun data? data?' hdata => ?_
  rw [hdata, AttributeData.mapNodes_id, Option.map_id]
  rfl

/-! ## Checks that do not look at members -/

omit h in
theorem eq_of_foundAgain {x y : Lookup (List Finding)} (halike : Alike (FoundAgain id false) x y) :
    y = x := by
  refine halike.eq fun found found' hagain => ?_
  have hsame : Finding.mapNodes id = id := rfl
  rw [hagain.eq_map, hsame, List.map_id]

variable (names : FrameworkNames)

theorem inspect_eq {checker : Checker} (hchecker : checker ≠ .entity) (event : Event) :
    checker.inspect q names event = checker.inspect p names event := by
  have hagain : Alike (FoundAgain id false) (checker.inspect p names event)
      (checker.inspect q names (event.mapNodes id)) := by
    cases checker with
    | hooks => exact h.resembles.inspect_hooks names event
    | ilCursor => exact h.resembles.inspect_ilCursor names event
    | entity => exact absurd rfl hchecker
    | tracker => exact h.resembles.inspect_tracker names event
  rw [Event.mapNodes_id] at hagain
  exact eq_of_foundAgain hagain

theorem propertyFindings_eq (id : NodeId) :
    Check.Entity.propertyFindings q names id = Check.Entity.propertyFindings p names id :=
  eq_of_foundAgain (h.resembles.propertyFindings_again names id)

theorem idFindings_eq (symbol : TypeSymbol) (declaration : NodeId) (data : AttributeData) :
    Check.Entity.idFindings q names symbol declaration data =
      Check.Entity.idFindings p names symbol declaration data := by
  have hagain := h.resembles.idFindings_again names symbol declaration data
  rw [TypeSymbol.mapNodes_id, AttributeData.mapNodes_id] at hagain
  exact eq_of_foundAgain hagain

theorem raisedEvents_eq : q.raisedEvents = p.raisedEvents :=
  h.resembles.raisedEvents_eq

theorem report?_eq (finding : Finding) (catalog : Catalog) :
    finding.report? catalog q = finding.report? catalog p := by
  have hlocation : q.location finding.node = p.location finding.node :=
    h.resembles.location_eq finding.node
  simp only [Finding.report?, Finding.diagnostic?, hlocation]

/-! ## Loading -/

theorem size_eq : q.size = p.size := by
  funext arena
  cases arena with
  | type => exact h.sameNaming.size
  | _ => rw [h.rest]; rfl

theorem inRange (hp : p.InRange) : q.InRange := by
  rw [InRange, h.size_eq]
  have htypes : ∀ symbol ∈ q.types, symbol.IdsBelow p.size := by
    refine forall_mem_of_rel h.types ?_ hp.types
    rintro a _ ha ⟨members, hperm, rfl⟩
    exact { ha with members := fun id hid => ha.members id (hperm.mem_iff.mpr hid) }
  rw [h.rest]
  exact { hp with types := htypes }

theorem leads_iff {link : TypeLink} {a b : TypeId} : q.Leads link a b ↔ p.Leads link a b := by
  have ha := h.types a.index
  unfold Leads
  generalize p.types[a.index]? = x at ha ⊢
  generalize q.types[a.index]? = y at ha ⊢
  cases ha with
  | none => exact Iff.rfl
  | some hab =>
    obtain ⟨members, -, rfl⟩ := hab
    simp only [Option.some.injEq, exists_eq_left']
    cases link <;> exact Iff.rfl

theorem check_eq_ok (hcheck : p.check = .ok ()) : q.check = .ok () := by
  obtain ⟨hdangling, hcycle⟩ := check_eq_ok_iff.mp hcheck
  have hdangling' := dangling?_eq_none_iff.mpr (h.inRange (inRange_of_check hcheck))
  refine check_eq_ok_iff.mpr ⟨hdangling', ?_⟩
  have hacyclic := (typeCycle?_eq_none_iff (dangling?_eq_none_iff_stores.mp hdangling)).mp hcycle
  refine (typeCycle?_eq_none_iff (dangling?_eq_none_iff_stores.mp hdangling')).mpr ?_
  intro link id hcircle
  exact hacyclic link id (Relation.TransGen.mono (fun a b => h.leads_iff.mp) _ _ hcircle)

end Program.Reordered

end ModLint
