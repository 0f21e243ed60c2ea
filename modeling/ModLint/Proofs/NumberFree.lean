import ModLint.Proofs.Arrival
import ModLint.Proofs.FoundAgain
import ModLint.Proofs.Renumbering
import ModLint.Proofs.Reports

/-!
# The analysis does not depend on node numbers

A finding at a renumbered node is reported like the one at the node itself. So of the reports on a
renumbered program only the order is new, because the events come in the order of the numbers, and
the places in a canonical list do not depend on that order.
-/

namespace ModLint

namespace Program

/-! ## Events -/

/-- The event that a node raises, if it raises one. -/
def raisedAt? (p : Program) (id : NodeId) : Option Event :=
  (p.eventOf id).toOption.join

/-- The event that a type raises, if it raises one. -/
def declaredAt? (p : Program) (id : TypeId) : Option Event :=
  (p.typeEventOf id).toOption.join

theorem Loaded.items_raisedEvents {p : Program} (hp : p.Loaded) : Lookup.items p.raisedEvents =
    p.typeIds.filterMap p.declaredAt? ++ p.nodeIds.filterMap p.raisedAt? := by
  have htypes : p.typeIds.filterMapM p.typeEventOf =
      .ok (p.typeIds.filterMap p.declaredAt?) := by
    refine filterMapM_eq_ok fun id hid => ?_
    obtain ⟨i, hi, rfl⟩ := List.mem_map.mp hid
    obtain ⟨event?, hevent, -⟩ := hp.typeEventOf (List.mem_range.mp hi)
    rw [declaredAt?, hevent]
    rfl
  have hnodes : p.nodeIds.filterMapM p.eventOf = .ok (p.nodeIds.filterMap p.raisedAt?) := by
    refine filterMapM_eq_ok fun id hid => ?_
    obtain ⟨event?, hevent, -⟩ := hp.eventOf (mem_nodeIds.mp hid)
    rw [raisedAt?, hevent]
    rfl
  refine Lookup.items_ok ?_
  rw [Program.raisedEvents, htypes, hnodes]
  rfl

theorem eq_of_declaredAt? {p : Program} {id : TypeId} {event : Event}
    (h : p.declaredAt? id = some event) : event = .namedType id := by
  unfold declaredAt? typeEventOf at h
  cases hsymbol : p.type id with
  | error fault =>
    rw [hsymbol] at h
    cases h
  | ok symbol =>
    rw [hsymbol] at h
    cases hdeclaration : symbol.declaration with
    | none =>
      simp only [bind, Except.bind, hdeclaration] at h
      cases h
    | some declaration =>
      simp only [bind, Except.bind, hdeclaration] at h
      cases h
      rfl

/-- The event that a node raises is not one of a type, and it carries the number of the node. -/
theorem index_of_raisedAt? {p : Program} {id : NodeId} {event : Event}
    (h : p.raisedAt? id = some event) : event.kind ≠ .namedType ∧ event.index = id.index := by
  have hevent : p.eventOf id = .ok (some event) := by
    unfold raisedAt? at h
    cases hevent : p.eventOf id with
    | error fault =>
      rw [hevent] at h
      cases h
    | ok event? =>
      rw [hevent] at h
      exact congrArg Except.ok h
  have hassignment : ∀ left, p.assignmentEvent id left = .ok (some event) →
      event = .eventAssignment id := by
    intro left hleft
    unfold assignmentEvent at hleft
    obtain ⟨target, -, hleft⟩ := lookup_bind_eq_ok.mp hleft
    split at hleft
    · cases hleft
      rfl
    · cases hleft
  unfold eventOf at hevent
  obtain ⟨node, -, hevent⟩ := lookup_bind_eq_ok.mp hevent
  split at hevent
  · cases hevent
    exact ⟨by simp [Event.kind], rfl⟩
  · cases hevent
    exact ⟨by simp [Event.kind], rfl⟩
  · rw [hassignment _ hevent]
    exact ⟨by simp [Event.kind], rfl⟩
  · rw [hassignment _ hevent]
    exact ⟨by simp [Event.kind], rfl⟩
  · cases hevent
    exact ⟨by simp [Event.kind], rfl⟩
  · cases hevent
    exact ⟨by simp [Event.kind], rfl⟩
  · cases hevent

/-- Every event is raised once. -/
theorem Loaded.nodup_raisedEvents {p : Program} (hp : p.Loaded) :
    (Lookup.items p.raisedEvents).Nodup := by
  have htypes : p.typeIds.Nodup := List.nodup_range.map fun a b hab => by simpa using hab
  have hnodes : p.nodeIds.Nodup := List.nodup_range.map fun a b hab => by simpa using hab
  rw [hp.items_raisedEvents, List.nodup_append]
  refine ⟨htypes.filterMap ?_, hnodes.filterMap ?_, ?_⟩
  · intro a b event ha hb
    have hsame := (eq_of_declaredAt? ha).symm.trans (eq_of_declaredAt? hb)
    cases hsame
    rfl
  · intro a b event ha hb
    have hindex := (index_of_raisedAt? ha).2.symm.trans (index_of_raisedAt? hb).2
    exact congrArg ItemId.mk hindex
  · intro a ha b hb hab
    obtain ⟨type, -, htype⟩ := List.mem_filterMap.mp ha
    obtain ⟨node, -, hnode⟩ := List.mem_filterMap.mp hb
    rw [← hab, eq_of_declaredAt? htype] at hnode
    exact (index_of_raisedAt? hnode).1 rfl

end Program

namespace Program.AlikeUnder

variable {f : Equiv.Perm NodeId} {p q : Program} (h : p.AlikeUnder f q)

include h

/-! ## Reports -/

theorem type (id : TypeId) :
    Alike (ImageUnder (TypeSymbol.mapNodes f)) (p.type id) (q.type id) := by
  rw [Program.type, Program.type, h.types_eq]
  exact fetch_map p.types id

theorem file (id : FileId) :
    Alike (fun old new => new.path = old.path) (p.file id) (q.file id) := by
  have hpath := congrArg (fun paths => paths[id.index]?) h.paths
  simp only [Array.getElem?_map] at hpath
  unfold Program.file fetch
  cases hold : p.files[id.index]? with
  | none =>
    rw [hold, Option.map_none, Option.map_eq_none_iff] at hpath
    rw [hpath]
    exact .error _
  | some old =>
    rw [hold, Option.map_some] at hpath
    obtain ⟨new, hnew, heq⟩ := Option.map_eq_some_iff.mp hpath
    rw [hnew]
    exact .ok heq

theorem resembles : p.Resembles f false q where
  injective := f.injective
  sameNaming := by
    have htype : ∀ id, Alike TypeSymbol.SameNaming (p.type id) (q.type id) := fun id =>
      (h.type id).mono (by rintro symbol _ rfl; exact ⟨rfl, rfl, rfl, rfl, rfl⟩)
    have hsize : q.types.size = p.types.size := congrFun h.size_eq .type
    refine ⟨?_, ?_, ?_, ?_, hsize, htype⟩ <;> rw [h.rest]
  file := h.file
  type id := by
    refine (h.type id).mono ?_
    rintro symbol _ rfl
    exact ⟨symbol.members, rfl⟩
  method id := by
    rw [Program.method, Program.method, h.methods_eq]
    refine (fetch_map p.methods id).mono ?_
    rintro method _ rfl
    exact ⟨method.isStatic, rfl, fun hstatic => hstatic, Or.inl⟩
  node id := by
    unfold Program.node fetch
    rw [h.nodes id]
    cases hnode : p.nodes[id.index]? with
    | none =>
      rw [h.outside id (Array.getElem?_eq_none_iff.mp hnode)]
      exact .error _
    | some node => exact .ok (.mk (.same _))
  nodes_size := h.nodes_size
  walkBound_eq := by
    have hlength := h.listedChildren_perm.length_eq
    rw [List.length_map] at hlength
    unfold listedChildren at hlength
    rw [walkBound, walkBound, hlength, h.nodes_size]

/-- A checker finds at the renumbered event what it finds at the event. -/
theorem inspect (names : FrameworkNames) (checker : Checker) (event : Event) :
    Alike (ImageUnder (List.map (Finding.mapNodes f))) (checker.inspect p names event)
      (checker.inspect q names (event.mapNodes f)) := by
  have hmembers : ∀ id a b, p.type id = .ok a → q.type id = .ok b → b.members = a.members := by
    intro id a b ha hb
    obtain ⟨_, hb', rfl⟩ := (h.type id).ok_right ha
    rw [lookup_unique hb hb']
    rfl
  exact (h.resembles.inspect names hmembers checker event).mono fun _ _ hagain => hagain.eq_map

theorem raisedAt?_eq (id : NodeId) :
    q.raisedAt? (f id) = (p.raisedAt? id).map (Event.mapNodes f) := by
  have halike := h.resembles.eventOf_alike id
  unfold Program.raisedAt?
  generalize p.eventOf id = x at halike ⊢
  generalize q.eventOf (f id) = y at halike ⊢
  cases halike with
  | error fault => rfl
  | ok heq =>
    subst heq
    rfl

/-- The event of a type names no node. -/
theorem declaredAt?_eq (id : TypeId) :
    q.declaredAt? id = (p.declaredAt? id).map (Event.mapNodes f) := by
  unfold Program.declaredAt?
  rw [h.resembles.typeEventOf_eq]
  unfold Program.typeEventOf
  cases p.type id with
  | error fault => rfl
  | ok symbol => cases hdeclaration : symbol.declaration <;> simp [hdeclaration] <;> rfl

theorem declared_eq : q.typeIds.filterMap q.declaredAt? =
    (p.typeIds.filterMap p.declaredAt?).map (Event.mapNodes f) := by
  rw [typeIds, typeIds, h.resembles.sameNaming.size, List.map_filterMap]
  exact List.filterMap_congr fun id _ => h.declaredAt?_eq id

/-- The renumbered program raises the renumbered events, in an order of its own. -/
theorem raisedEvents_perm (hp : p.Loaded) : (Lookup.items q.raisedEvents).Perm
    ((Lookup.items p.raisedEvents).map (Event.mapNodes f)) := by
  have hnodes : (q.nodeIds.filterMap q.raisedAt?).Perm
      ((p.nodeIds.filterMap p.raisedAt?).map (Event.mapNodes f)) := by
    have hperm := h.nodeIds_perm.filterMap q.raisedAt?
    rw [List.filterMap_map] at hperm
    rw [List.map_filterMap]
    exact hperm.trans (.of_eq (List.filterMap_congr fun id _ => h.raisedAt?_eq id))
  rw [hp.items_raisedEvents, (h.loaded hp).items_raisedEvents, List.map_append, h.declared_eq]
  exact hnodes.append_left _

theorem found_eq (analyzer : Analyzer) (event : Event) (checker : Checker) :
    analyzer.found q (event.mapNodes f) checker = analyzer.found p event checker := by
  have hreport : ∀ finding : Finding,
      (finding.mapNodes f).report? analyzer.catalog q = finding.report? analyzer.catalog p := by
    intro finding
    unfold Finding.report? Finding.diagnostic?
    rw [Finding.mapNodes, h.resembles.location_eq]
  have halike := h.inspect analyzer.config.framework checker event
  unfold Analyzer.found
  generalize checker.inspect p analyzer.config.framework event = x at halike ⊢
  generalize checker.inspect q analyzer.config.framework (event.mapNodes f) = y at halike ⊢
  cases halike with
  | error fault => rfl
  | ok hsame =>
    subst hsame
    rw [Lookup.items_ok rfl, Lookup.items_ok rfl, List.filterMap_map]
    exact List.filterMap_congr fun finding _ => hreport finding

/-- The same reports are made, in another order. -/
theorem reportList_perm (hp : p.Loaded) (analyzer : Analyzer) :
    (analyzer.reportList q).Perm (analyzer.reportList p) := by
  unfold Analyzer.reportList
  refine ((h.raisedEvents_perm hp).flatMap_right _).trans (.of_eq ?_)
  rw [List.flatMap_map]
  refine List.flatMap_congr fun event _ => ?_
  rw [Event.kind_mapNodes]
  exact List.flatMap_congr fun checker _ => h.found_eq analyzer event checker

end Program.AlikeUnder

namespace Program

/-- However the nodes of a checked and linked program are numbered, the program is checked and
linked again, and its analysis lists the same files, starts, codes and messages in the same order.
This is so for every order in which the reports of the two analyses arrive. -/
theorem analysis_ignores_node_numbers {source p : Program} (hcheck : source.check = .ok ())
    (hlink : source.link = .ok p) (σ : Equiv.Perm (Fin p.nodes.size)) (analyzer : Analyzer) :
    (p.renumber σ).check = .ok () ∧ (p.renumber σ).link = .ok (p.renumber σ) ∧
      ∃ reports reports', analyzer.collect p = .ok reports ∧
        analyzer.collect (p.renumber σ) = .ok reports' ∧
        analyzer.analyze p = .ok (Diagnostic.canonical reports) ∧
        analyzer.analyze (p.renumber σ) = .ok (Diagnostic.canonical reports') ∧
        (Diagnostic.canonical reports').map Diagnostic.place =
          (Diagnostic.canonical reports).map Diagnostic.place ∧
        ∀ arrived arrived', arrived.Perm reports → arrived'.Perm reports' →
          (Diagnostic.canonical arrived').map Diagnostic.place =
            (Diagnostic.canonical arrived).map Diagnostic.place := by
  have h := p.renumber_alikeUnder σ
  have hp : p.Loaded := loaded_of_link hcheck hlink
  have hq : (p.renumber σ).Loaded := h.loaded hp
  have hperm := h.reportList_perm hp analyzer
  obtain ⟨hcheck', hlink'⟩ := h.loads hcheck hlink
  refine ⟨hcheck', hlink', _, _, hp.collect_eq analyzer, hq.collect_eq analyzer,
    hp.analyze_eq analyzer, hq.analyze_eq analyzer, Diagnostic.map_place_canonical hperm, ?_⟩
  intro arrived arrived' harrived harrived'
  exact Diagnostic.map_place_canonical (harrived'.trans (hperm.trans harrived.symm))

/-- `chainedRemoval` with its nodes numbered backwards: the inner call is reported first now, and
the same place is listed. -/
theorem chainedRemoval_numbered_backwards :
    chainedRemoval.check = .ok () ∧ chainedRemoval.link = .ok chainedRemoval ∧
      (chainedRemoval.renumber Fin.revPerm).check = .ok () ∧
      plainAnalyzer.collect (chainedRemoval.renumber Fin.revPerm) =
        .ok [removalReport 15, removalReport 24] ∧
      ∃ listed, plainAnalyzer.analyze (chainedRemoval.renumber Fin.revPerm) = .ok listed ∧
        listed.map Diagnostic.place = [(removalReport 24).place] := by
  have hcheck : chainedRemoval.check = .ok () := by decide +kernel
  have hlink : chainedRemoval.link = .ok chainedRemoval := by decide +kernel
  have hcollect : plainAnalyzer.collect chainedRemoval =
      .ok [removalReport 24, removalReport 15] := rfl
  have hplace : (removalReport 24).place = (removalReport 15).place := rfl
  obtain ⟨hcheck', -, reports, reports', hreports, -, -, hanalyze', hplaces, -⟩ :=
    analysis_ignores_node_numbers hcheck hlink Fin.revPerm plainAnalyzer
  rw [hcollect] at hreports
  cases hreports
  rw [Diagnostic.canonical_pair hplace] at hplaces
  exact ⟨hcheck, hlink, hcheck', by decide +kernel, _, hanalyze', hplaces⟩

end Program

end ModLint
