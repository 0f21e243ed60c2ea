import ModLint.Proofs.Independence
import ModLint.Proofs.Overloads
import ModLint.Proofs.Reordering
import ModLint.Proofs.ReportOrder

/-!
# The order of members

If the members of a type are permuted, a program still loads and every check but that of custom
entities finds the same. The check of custom entities judges the first overload of each generator in
the new order. So the order of members decides what is reported exactly if a generator has two
overloads whose faults are reported at different places.
-/

namespace ModLint

/-! ## The entity check in a reordered program -/

namespace Program.Reordered

open Check.Entity

variable {p q : Program} (h : p.Reordered q) (names : FrameworkNames)

include h

/-- What is found about a type depends on the order of its own members only. -/
theorem mem_typeFindings_iff (hp : p.Loaded) {id : TypeId} {symbol : TypeSymbol}
    (hsymbol : q.type id = .ok symbol) (finding : Finding) :
    finding ∈ Lookup.items (typeFindings q names id) ↔ EntityFault p names id symbol finding := by
  obtain ⟨before, hbefore, members, -, hsame⟩ := (h.type id).ok_left hsymbol
  have hid : p.Has id := lt_size_of_fetch hbefore
  obtain ⟨symbol', hsymbol', hbelow⟩ := (h.inRange hp.inRange).type (lt_size_of_fetch hsymbol)
  obtain rfl := lookup_unique hsymbol hsymbol'
  rw [h.size_eq] at hbelow
  obtain ⟨data?, hfind, hfirst⟩ :=
    hp.inRange.findAttribute_iff hbefore names.customEntityAttribute
  have hmarks : ∀ data, data? = some data ↔ p.Marks names.customEntityAttribute symbol data := by
    rw [hsame]
    exact hfirst
  have hnothing : (∀ declaration data, ¬ Marked p names symbol declaration data) →
      (finding ∈ Lookup.items (.ok [] : Lookup (List Finding)) ↔
        EntityFault p names id symbol finding) := by
    intro hunmarked
    constructor
    · intro hnil
      cases hnil
    · intro hfault
      obtain ⟨declaration, data, hmarked⟩ := hfault.exists_marked
      exact absurd hmarked (hunmarked declaration data)
  rw [typeFindings, h.findAttribute_eq, hfind]
  cases data? with
  | none =>
    refine hnothing fun declaration data hmarked => ?_
    cases (hmarks data).mpr hmarked.marks
  | some data =>
    simp only [bind, Except.bind, hsymbol]
    cases hdeclared : symbol.declaration with
    | none =>
      refine hnothing fun declaration data hmarked => ?_
      cases hdeclared.symm.trans hmarked.declared
    | some declaration =>
      have hmarked : Marked p names symbol declaration data := ⟨hdeclared, (hmarks data).mp rfl⟩
      obtain ⟨isEntity, hextends, hiff⟩ := hp.inRange.extendsType_iff hid names.entity
      simp only [h.sameNaming.extendsType_eq, hextends]
      cases isEntity with
      | false =>
        have hnot : ¬ p.Extends names.entity id := by
          intro hyes
          exact Bool.false_ne_true (hiff.mpr hyes)
        rw [hmarked.entityFault_iff_of_not hnot]
        exact List.mem_singleton
      | true =>
        obtain ⟨findings, hfindings, hjudged⟩ :=
          idFindings_judged hp.inRange hbelow declaration data
        rw [hmarked.entityFault_iff (hiff.mp rfl) hjudged]
        simp only [if_true, h.idFindings_eq, hfindings]
        exact Iff.rfl

end Program.Reordered

/-! ## Permuting the members of one type -/

namespace Program

variable {p q : Program} {id : TypeId} {symbol : TypeSymbol} {members : List MethodId}

/-- A program with other members of a type. -/
def withMembers (p : Program) (id : TypeId) (members : List MethodId) : Program :=
  { p with types := p.types.modify id.index fun symbol => { symbol with members } }

theorem type_withMembers (hsymbol : p.type id = .ok symbol) :
    (p.withMembers id members).type id = .ok { symbol with members } := by
  have hget := fetch_eq_ok_iff.mp hsymbol
  refine fetch_eq_ok_iff.mpr ?_
  simp [withMembers, Array.getElem?_modify, hget]

theorem type_withMembers_ne {other : TypeId} (hne : other ≠ id) :
    (p.withMembers id members).type other = p.type other := by
  have hindex : id.index ≠ other.index := by
    intro heq
    refine hne ?_
    cases id
    cases other
    cases heq
    rfl
  simp [withMembers, Program.type, fetch, Array.getElem?_modify, hindex]

theorem withMembers_self (hsymbol : p.type id = .ok symbol) :
    p.withMembers id symbol.members = p := by
  have hget := fetch_eq_ok_iff.mp hsymbol
  have htypes : (p.types.modify id.index fun old => { old with members := symbol.members }) =
      p.types := by
    apply Array.ext_getElem?
    intro i
    rw [Array.getElem?_modify]
    by_cases hi : id.index = i
    · rw [if_pos hi, ← hi, hget]
      rfl
    · rw [if_neg hi]
  rw [withMembers, htypes]

theorem reordered_withMembers (hsymbol : p.type id = .ok symbol)
    (hperm : symbol.members.Perm members) : p.Reordered (p.withMembers id members) := by
  have hget := fetch_eq_ok_iff.mp hsymbol
  refine ⟨rfl, fun i => ?_⟩
  rw [withMembers, Array.getElem?_modify]
  by_cases hi : id.index = i
  · rw [if_pos hi, ← hi, hget]
    exact .some ⟨members, hperm, rfl⟩
  · rw [if_neg hi]
    cases p.types[i]? with
    | none => exact .none
    | some other => exact .some ⟨other.members, .refl _, rfl⟩

/-- Links to parents do not depend on the members of types. -/
theorem link_withMembers (hlink : p.link = .ok q) :
    (p.withMembers id members).link = .ok (q.withMembers id members) := by
  have hrelink : (p.withMembers id members).relink =
      (p.relink.1.withMembers id members, p.relink.2) := by
    have hsame : adoptAll (p.withMembers id members).nodeIds
        ((p.withMembers id members).nodes.map orphan) = adoptAll p.nodeIds (p.nodes.map orphan) :=
      rfl
    rw [relink, relink, hsame]
    obtain ⟨nodes, failure?⟩ := adoptAll p.nodeIds (p.nodes.map orphan)
    cases failure? <;> rfl
  rw [link] at hlink ⊢
  rw [hrelink]
  revert hlink
  obtain ⟨linked, failure?⟩ := p.relink
  intro hlink
  cases failure? with
  | none =>
    obtain rfl := Except.ok.inj hlink
    rfl
  | some failure => cases hlink

open Check.Entity

section Inspect

variable (hp : p.Loaded) (hsymbol : p.type id = .ok symbol)
  (hperm : symbol.members.Perm members) (names : FrameworkNames)

include hp hsymbol hperm

/-- At the event of the type the first overloads in the new order are judged. -/
theorem Loaded.mem_typeFindings_withMembers {finding : Finding} :
    finding ∈ Lookup.items (typeFindings (p.withMembers id members) names id) ↔
      (finding ∈ Lookup.items (typeFindings p names id) ∧ finding.id ∉ overloadConditions) ∨
      FirstOverloadFault p names id symbol members finding := by
  have hold := (Reordered.refl p).mem_typeFindings_iff names hp hsymbol finding
  have hnew := (reordered_withMembers hsymbol hperm).mem_typeFindings_iff names hp
    (type_withMembers hsymbol) finding
  rw [hold, hnew, entityFault_perm hperm]

/-- What is found elsewhere stays. -/
theorem Loaded.mem_inspect_withMembers {checker : Checker} {event : Event}
    (hevent : event.InRange p) (hother : ¬ (checker = .entity ∧ event = .namedType id))
    {finding : Finding} :
    finding ∈ Lookup.items (checker.inspect (p.withMembers id members) names event) ↔
      finding ∈ Lookup.items (checker.inspect p names event) := by
  have h := reordered_withMembers hsymbol hperm
  cases checker with
  | hooks => rw [h.inspect_eq names (by decide)]
  | ilCursor => rw [h.inspect_eq names (by decide)]
  | tracker => rw [h.inspect_eq names (by decide)]
  | entity =>
    cases event with
    | namedType other =>
      have hne : other ≠ id := by
        rintro rfl
        exact hother ⟨rfl, rfl⟩
      obtain ⟨type, htype, -⟩ := hp.inRange.type hevent
      have hold := (Reordered.refl p).mem_typeFindings_iff names hp htype finding
      have hnew := h.mem_typeFindings_iff names hp ((type_withMembers_ne hne).trans htype) finding
      exact hnew.trans hold.symm
    | propertyReference node =>
      rw [Checker.inspect, Check.Entity.inspect, Check.Entity.inspect, h.propertyFindings_eq]
    | invocation node => exact Iff.rfl
    | objectCreation node => exact Iff.rfl
    | eventAssignment node => exact Iff.rfl

end Inspect

end Program

/-! ## Reported places -/

open Check.Entity

namespace Analyzer

variable {analyzer : Analyzer} {p : Program} {id : TypeId} {symbol : TypeSymbol}
  {members : List MethodId} {place : String × Nat × String × String}

/-- A finding is reported at a place. -/
def ReportsAs (analyzer : Analyzer) (p : Program) (finding : Finding)
    (place : String × Nat × String × String) : Prop :=
  ∃ diagnostic, finding.report? analyzer.catalog p = some diagnostic ∧ diagnostic.place = place

/-- A fault of an overload is reported at a place, if this is the overload that is judged. -/
def BlamesOverload (analyzer : Analyzer) (p : Program) (declaration : NodeId) (name : String)
    (member : MethodId) (place : String × Nat × String × String) : Prop :=
  ∃ finding, OverloadFault p analyzer.config.framework declaration name member finding ∧
    analyzer.ReportsAs p finding place

/-- Something else than the overloads of a type is reported at a place. -/
def BlamesOthers (analyzer : Analyzer) (p : Program) (id : TypeId)
    (place : String × Nat × String × String) : Prop :=
  ∃ event checker finding, event ∈ Lookup.items p.raisedEvents ∧
    checker ∈ Checker.subscribers analyzer.checkers event.kind ∧
    finding ∈ Lookup.items (checker.inspect p analyzer.config.framework event) ∧
    (checker = .entity → event = .namedType id → finding.id ∉ overloadConditions) ∧
    analyzer.ReportsAs p finding place

/-- The overloads of each generator of a type have the same faults at the same places, places apart
at which something else is reported as well. -/
def OverloadsAgree (analyzer : Analyzer) (p : Program) (id : TypeId) (symbol : TypeSymbol) : Prop :=
  ∀ declaration name, NamesGenerator p analyzer.config.framework id symbol declaration name →
    ∀ member ∈ symbol.members, ∀ other ∈ symbol.members,
      HasName p name member → HasName p name other →
      ∀ place, analyzer.BlamesOverload p declaration name member place →
        analyzer.BlamesOverload p declaration name other place ∨ analyzer.BlamesOthers p id place

theorem mem_places_reportList_iff : place ∈ (analyzer.reportList p).map Diagnostic.place ↔
    ∃ event checker finding, event ∈ Lookup.items p.raisedEvents ∧
      checker ∈ Checker.subscribers analyzer.checkers event.kind ∧
      finding ∈ Lookup.items (checker.inspect p analyzer.config.framework event) ∧
      analyzer.ReportsAs p finding place := by
  simp only [reportList, found, ReportsAs, List.mem_map, List.mem_flatMap, List.mem_filterMap]
  constructor
  · rintro ⟨diagnostic, ⟨event, hevent, checker, hchecker, finding, hfinding, hreport⟩, hplace⟩
    exact ⟨event, checker, finding, hevent, hchecker, hfinding, diagnostic, hreport, hplace⟩
  · rintro ⟨event, checker, finding, hevent, hchecker, hfinding, diagnostic, hreport, hplace⟩
    exact ⟨diagnostic, ⟨event, hevent, checker, hchecker, finding, hfinding, hreport⟩, hplace⟩

end Analyzer

theorem Finding.message_of_report? {finding : Finding} {catalog : Catalog} {p : Program}
    {diagnostic : Diagnostic} (h : finding.report? catalog p = some diagnostic) :
    diagnostic.id = finding.id ∧ diagnostic.message = finding.id.format finding.args := by
  rw [Finding.report?_eq_some_iff, Finding.diagnostic?] at h
  obtain ⟨location, -, h⟩ := lookup_bind_eq_ok.mp h
  dsimp only at h
  split at h
  · cases h
    exact ⟨rfl, rfl⟩
  · cases h

theorem Check.Entity.NamesGenerator.raised {p : Program} (hp : p.Loaded) {names : FrameworkNames}
    {id : TypeId} {symbol : TypeSymbol} (hsymbol : p.type id = .ok symbol) {declaration : NodeId}
    {name : String} (h : NamesGenerator p names id symbol declaration name) :
    .namedType id ∈ Lookup.items p.raisedEvents := by
  obtain ⟨data, hmarked, -⟩ := h
  have hcount := hp.count_namedType hsymbol hmarked.declared
  exact List.count_pos_iff.mp (by omega)

section Places

variable {analyzer : Analyzer} {p : Program} {id : TypeId} {symbol : TypeSymbol}
  {members : List MethodId} {place : String × Nat × String × String}

/-- The reported places if the members of a type are permuted. -/
theorem Program.Loaded.mem_places_withMembers (hp : p.Loaded) (hsymbol : p.type id = .ok symbol)
    (hperm : symbol.members.Perm members) (hentity : .entity ∈ analyzer.checkers) :
    place ∈ (analyzer.reportList (p.withMembers id members)).map Diagnostic.place ↔
      analyzer.BlamesOthers p id place ∨
      ∃ declaration name member,
        NamesGenerator p analyzer.config.framework id symbol declaration name ∧
        IsFirst (HasName p name) members member ∧
        analyzer.BlamesOverload p declaration name member place := by
  have h := reordered_withMembers hsymbol hperm
  have hreports : ∀ finding, analyzer.ReportsAs (p.withMembers id members) finding place ↔
      analyzer.ReportsAs p finding place := by
    intro finding
    rw [Analyzer.ReportsAs, Analyzer.ReportsAs, h.report?_eq]
  have hsubscribed : .entity ∈ Checker.subscribers analyzer.checkers EventKind.namedType :=
    List.mem_filter.mpr ⟨hentity, by decide⟩
  simp only [Analyzer.mem_places_reportList_iff, h.raisedEvents_eq, hreports]
  constructor
  · rintro ⟨event, checker, finding, hevent, hchecker, hfinding, hplace⟩
    by_cases hhere : checker = .entity ∧ event = .namedType id
    · obtain ⟨rfl, rfl⟩ := hhere
      rcases (hp.mem_typeFindings_withMembers hsymbol hperm _).mp hfinding with
        ⟨hold, hid⟩ | ⟨declaration, name, member, hnames, hfirst, hfault⟩
      · exact Or.inl ⟨_, _, finding, hevent, hchecker, hold, fun _ _ => hid, hplace⟩
      · exact Or.inr ⟨declaration, name, member, hnames, hfirst, finding, hfault, hplace⟩
    · have hrange := hp.inRange_of_mem_raisedEvents hevent
      have hold := (hp.mem_inspect_withMembers hsymbol hperm _ hrange hhere).mp hfinding
      refine Or.inl ⟨event, checker, finding, hevent, hchecker, hold, ?_, hplace⟩
      intro hchecker' hevent'
      exact absurd ⟨hchecker', hevent'⟩ hhere
  · rintro (⟨event, checker, finding, hevent, hchecker, hfinding, hid, hplace⟩ |
      ⟨declaration, name, member, hnames, hfirst, finding, hfault, hplace⟩)
    · refine ⟨event, checker, finding, hevent, hchecker, ?_, hplace⟩
      by_cases hhere : checker = .entity ∧ event = .namedType id
      · obtain ⟨rfl, rfl⟩ := hhere
        exact (hp.mem_typeFindings_withMembers hsymbol hperm _).mpr
          (Or.inl ⟨hfinding, hid rfl rfl⟩)
      · have hrange := hp.inRange_of_mem_raisedEvents hevent
        exact (hp.mem_inspect_withMembers hsymbol hperm _ hrange hhere).mpr hfinding
    · refine ⟨.namedType id, .entity, finding, hnames.raised hp hsymbol, hsubscribed, ?_, hplace⟩
      exact (hp.mem_typeFindings_withMembers hsymbol hperm _).mpr
        (Or.inr ⟨declaration, name, member, hnames, hfirst, hfault⟩)

/-- Where the overloads agree, it does not matter which of them comes first. -/
theorem Analyzer.OverloadsAgree.places_subset (hagree : analyzer.OverloadsAgree p id symbol)
    (hp : p.Loaded) (hsymbol : p.type id = .ok symbol) (hentity : .entity ∈ analyzer.checkers)
    {members' : List MethodId} (hperm : symbol.members.Perm members)
    (hperm' : symbol.members.Perm members')
    (hplace : place ∈ (analyzer.reportList (p.withMembers id members)).map Diagnostic.place) :
    place ∈ (analyzer.reportList (p.withMembers id members')).map Diagnostic.place := by
  rw [hp.mem_places_withMembers hsymbol hperm hentity] at hplace
  rw [hp.mem_places_withMembers hsymbol hperm' hentity]
  rcases hplace with hothers | ⟨declaration, name, member, hnames, hfirst, hblames⟩
  · exact Or.inl hothers
  · obtain ⟨hmember, hname⟩ := hfirst.mem
    have hmember' : member ∈ members' := hperm'.mem_iff.mp (hperm.mem_iff.mpr hmember)
    obtain ⟨other, hother⟩ := exists_isFirst ⟨member, hmember', hname⟩
    have hblamed := hagree declaration name hnames member (hperm.mem_iff.mpr hmember) other
      (hperm'.mem_iff.mpr hother.mem.1) hname hother.mem.2 place hblames
    rcases hblamed with hblames' | hothers
    · exact Or.inr ⟨declaration, name, other, hnames, hother, hblames'⟩
    · exact Or.inl hothers

theorem Analyzer.OverloadsAgree.mem_places_iff (hagree : analyzer.OverloadsAgree p id symbol)
    (hp : p.Loaded) (hsymbol : p.type id = .ok symbol) (hentity : .entity ∈ analyzer.checkers)
    (hperm : symbol.members.Perm members) :
    place ∈ (analyzer.reportList (p.withMembers id members)).map Diagnostic.place ↔
      place ∈ (analyzer.reportList p).map Diagnostic.place := by
  have hself := Program.withMembers_self hsymbol
  constructor
  · intro hplace
    rw [← hself]
    exact hagree.places_subset hp hsymbol hentity hperm (.refl _) hplace
  · intro hplace
    rw [← hself] at hplace
    exact hagree.places_subset hp hsymbol hentity (.refl _) hperm hplace

/-- Two faults of overloads that are reported at one place are about generators of one name. -/
theorem Analyzer.BlamesOverload.name_eq {declaration declaration' : NodeId} {name name' : String}
    {member member' : MethodId} (h : analyzer.BlamesOverload p declaration name member place)
    (h' : analyzer.BlamesOverload p declaration' name' member' place) : name = name' := by
  obtain ⟨finding, hfault, diagnostic, hreport, hplace⟩ := h
  obtain ⟨finding', hfault', diagnostic', hreport', hplace'⟩ := h'
  obtain ⟨hid, hmessage⟩ := Finding.message_of_report? hreport
  obtain ⟨hid', hmessage'⟩ := Finding.message_of_report? hreport'
  have hsame := hplace.trans hplace'.symm
  have hids : finding.id = finding'.id := by
    rw [← hid, ← hid', Diagnostic.id_eq_of_place_eq hsame]
  have hmessages : diagnostic.message = diagnostic'.message :=
    congrArg (fun place => place.2.2.2) hsame
  rw [hmessage, hmessage', ← hids, hfault.args_eq, hfault'.args_eq] at hmessages
  exact format_inj hfault.id_mem hmessages

/-- If it does not matter which overload comes first, the overloads agree. -/
theorem Program.Loaded.overloadsAgree_of_places (hp : p.Loaded) (hsymbol : p.type id = .ok symbol)
    (hentity : .entity ∈ analyzer.checkers)
    (hplaces : ∀ members, symbol.members.Perm members → ∀ place,
      place ∈ (analyzer.reportList (p.withMembers id members)).map Diagnostic.place ↔
        place ∈ (analyzer.reportList p).map Diagnostic.place) :
    analyzer.OverloadsAgree p id symbol := by
  intro declaration name hnames member hmember other hother hname hname' place hblames
  have hhead : ∀ first ∈ symbol.members, HasName p name first →
      IsFirst (HasName p name) (first :: symbol.members.erase first) first := by
    intro first hfirst hnamed
    exact ⟨[], symbol.members.erase first, rfl, hnamed, by simp⟩
  -- what is reported with one overload in front is reported with the other one in front
  have hperm := List.perm_cons_erase hmember
  have hperm' := List.perm_cons_erase hother
  have hreported := (hp.mem_places_withMembers hsymbol hperm hentity).mpr
    (Or.inr ⟨declaration, name, member, hnames, hhead member hmember hname, hblames⟩)
  have hreported' := (hplaces _ hperm' place).mpr ((hplaces _ hperm place).mp hreported)
  rcases (hp.mem_places_withMembers hsymbol hperm' hentity).mp hreported' with
    hothers | ⟨declaration', name', first, hnames', hfirst, hblames'⟩
  · exact Or.inr hothers
  · obtain rfl := hblames.name_eq hblames'
    obtain rfl := hfirst.unique (hhead other hother hname')
    obtain ⟨data, hmarked, -⟩ := hnames
    obtain ⟨data', hmarked', -⟩ := hnames'
    obtain ⟨rfl, -⟩ := hmarked.unique hmarked'
    exact Or.inl hblames'

end Places

namespace Program

/-- In every loaded program the members of a type can be permuted, and the program still loads and
is analysed. If the overloads of each generator of the type agree, the same places are listed in the
same order. In files with plain paths the converse holds as well: every permutation gives the same
set of codes, files, starts and messages exactly if the overloads agree. -/
theorem member_order_matters_exactly_to_unlike_overloads {p q : Program}
    (hcheck : p.check = .ok ()) (hlink : p.link = .ok q) {config : Config} {analyzer : Analyzer}
    (hconfig : Analyzer.ofConfig config = .ok analyzer) {id : TypeId} {symbol : TypeSymbol}
    (hsymbol : q.type id = .ok symbol) :
    (∀ members, symbol.members.Perm members →
      (p.withMembers id members).check = .ok () ∧
      (p.withMembers id members).link = .ok (q.withMembers id members) ∧
      ∃ before after, analyzer.analyze q = .ok before ∧
        analyzer.analyze (q.withMembers id members) = .ok after ∧
        (analyzer.OverloadsAgree q id symbol →
          after.map Diagnostic.place = before.map Diagnostic.place)) ∧
    ((∀ file ∈ q.files, '|' ∉ file.path.toList) →
      ((∀ members, symbol.members.Perm members →
        ∃ before after, analyzer.analyze q = .ok before ∧
          analyzer.analyze (q.withMembers id members) = .ok after ∧
          ∀ place, place ∈ after.map Diagnostic.place ↔ place ∈ before.map Diagnostic.place) ↔
      analyzer.OverloadsAgree q id symbol)) := by
  have hq : q.Loaded := loaded_of_link hcheck hlink
  have hentity : .entity ∈ analyzer.checkers := by
    obtain ⟨catalog, -, rfl⟩ := Analyzer.ofConfig_eq_ok_iff.mp hconfig
    exact Checker.entity.mem_builtin
  have hchecked : ∀ members, symbol.members.Perm members →
      (p.withMembers id members).check = .ok () := by
    intro members hperm
    have hrange := childrenInRange_of_inRange (inRange_of_check hcheck)
    obtain ⟨nodes, -, -, rfl⟩ := adopted_of_link hrange hlink
    exact (reordered_withMembers (p := p) hsymbol hperm).check_eq_ok hcheck
  have hanalyzed : ∀ members, symbol.members.Perm members →
      analyzer.analyze (q.withMembers id members) =
        .ok (Diagnostic.canonical (analyzer.reportList (q.withMembers id members))) := by
    intro members hperm
    exact (loaded_of_link (hchecked members hperm) (link_withMembers hlink)).analyze_eq _
  refine ⟨fun members hperm => ⟨hchecked members hperm, link_withMembers hlink, _, _,
    hq.analyze_eq _, hanalyzed members hperm, fun hagree => ?_⟩, fun hplain => ⟨?_, ?_⟩⟩
  · exact Diagnostic.map_place_canonical_of_mem_iff fun place =>
      hagree.mem_places_iff hq hsymbol hentity hperm
  · intro hall
    refine hq.overloadsAgree_of_places hsymbol hentity fun members hperm place => ?_
    obtain ⟨before, after, hbefore, hafter, hplaces⟩ := hall members hperm
    obtain rfl := lookup_unique hbefore (hq.analyze_eq _)
    obtain rfl := lookup_unique hafter (hanalyzed members hperm)
    have hlisted : ∀ r : Program, r.files = q.files →
        (place ∈ (Diagnostic.canonical (analyzer.reportList r)).map Diagnostic.place ↔
          place ∈ (analyzer.reportList r).map Diagnostic.place) := by
      intro r hfiles
      refine Diagnostic.mem_places_canonical fun report hreport => ?_
      exact Analyzer.plainPath_of_mem_reportList (hfiles ▸ hplain) hreport
    have hpermuted := hlisted (q.withMembers id members) rfl
    exact hpermuted.symm.trans ((hplaces place).trans (hlisted q rfl))
  · intro hagree members hperm
    refine ⟨_, _, hq.analyze_eq _, hanalyzed members hperm, fun place => ?_⟩
    rw [Diagnostic.map_place_canonical_of_mem_iff fun place =>
      hagree.mem_places_iff hq hsymbol hentity hperm]

/-- A custom entity with two overloads of its generator: one that the mod loader can call, and one
with a parameter that it cannot supply. -/
def overloadedSpinner : TypeSymbol :=
  { name := "Spinner", base := some ⟨0⟩, assembly := "Mod"
    attributes := [{ attributeClass := ⟨1⟩, arguments := [.string "mod/spinner = Make"] }]
    members := [⟨0⟩, ⟨1⟩], declaration := some ⟨1⟩ }

/-- The program of `overloadedSpinner`. -/
def overloads : Program :=
  let nodes : List (Option NodeId × NodeKind) :=
    [(none, .compilationUnit [⟨1⟩]),
      (some ⟨0⟩, .typeDeclaration "Spinner" (some ⟨3⟩) [] [⟨2⟩, ⟨3⟩]),
      (some ⟨1⟩, .method "Make" [] none (some ⟨0⟩) [] none),
      (some ⟨1⟩, .method "Make" [] none (some ⟨1⟩) [] none)]
  { assembly := "Mod"
    files := #[{ path := "Spinner.cs" }]
    namespaces := #[{ name := "Monocle" }, { name := "Celeste" },
      { name := "Mod", parent := some ⟨1⟩ }, { name := "Entities", parent := some ⟨2⟩ },
      { name := "System" }]
    types := #[{ name := "Entity", nameSpace := some ⟨0⟩, assembly := "Game" },
      { name := "CustomEntityAttribute", nameSpace := some ⟨3⟩, assembly := "Game" },
      { name := "Int32", nameSpace := some ⟨4⟩, kind := .structType, assembly := "System.Runtime" },
      overloadedSpinner]
    methods := #[
      { name := "Make", containingType := some ⟨3⟩, isStatic := true, returnType := some ⟨0⟩
        declaration := some ⟨2⟩ },
      { name := "Make", containingType := some ⟨3⟩, isStatic := true, returnType := some ⟨0⟩
        parameters := [{ name := "count", type := some ⟨2⟩ }], declaration := some ⟨3⟩ }]
    nodes := (nodes.mapIdx fun i entry =>
      { file := ⟨0⟩
        span := {
          startByte := 10 * i, endByte := 10 * i + 10, startLine := 1, startColumn := i + 1 }
        parent := entry.1
        kind := entry.2 }).toArray }

/-- The report on the second overload. -/
def overloadReport : Diagnostic :=
  { id := .customEntityGeneratorInvalidParams
    severity := .warning
    location := {
      file := "Spinner.cs"
      span := { startByte := 30, endByte := 40, startLine := 1, startColumn := 4 } }
    message := "Generator method 'Make' has parameters Everest cannot supply"
    args := ["Make"] }

theorem analyze_overloads : plainAnalyzer.analyze overloads = .ok [] := by
  have hcollect : plainAnalyzer.collect overloads = .ok [] := by decide +kernel
  rw [Analyzer.analyze, hcollect]
  exact congrArg Except.ok (Diagnostic.canonical_of_pairwise .nil)

theorem analyze_swapped_overloads :
    plainAnalyzer.analyze (overloads.withMembers ⟨3⟩ [⟨1⟩, ⟨0⟩]) = .ok [overloadReport] := by
  have hcollect : plainAnalyzer.collect (overloads.withMembers ⟨3⟩ [⟨1⟩, ⟨0⟩]) =
      .ok [overloadReport] := by
    decide +kernel
  rw [Analyzer.analyze, hcollect]
  exact congrArg Except.ok (Diagnostic.canonical_of_pairwise (List.pairwise_singleton _ _))

/-- In `overloads` the order counts. In `spinner` each generator has one overload, so it does not.
-/
theorem order_counts_in_overloads_and_not_in_spinner :
    overloads.check = .ok () ∧ overloads.link = .ok overloads ∧
      Analyzer.ofConfig {} = .ok plainAnalyzer ∧ overloads.type ⟨3⟩ = .ok overloadedSpinner ∧
      ¬ plainAnalyzer.OverloadsAgree overloads ⟨3⟩ overloadedSpinner ∧
      spinner.check = .ok () ∧ spinner.link = .ok spinner ∧
      spinner.type ⟨3⟩ = .ok spinnerType ∧
      plainAnalyzer.OverloadsAgree spinner ⟨3⟩ spinnerType ∧
      ∃ before after, plainAnalyzer.analyze spinner = .ok before ∧
        plainAnalyzer.analyze (spinner.withMembers ⟨3⟩ [⟨1⟩, ⟨0⟩, ⟨2⟩, ⟨3⟩]) = .ok after ∧
        after.map Diagnostic.place = before.map Diagnostic.place := by
  have hcheck : overloads.check = .ok () := by decide +kernel
  have hlink : overloads.link = .ok overloads := by decide +kernel
  have hconfig : Analyzer.ofConfig {} = .ok plainAnalyzer := rfl
  have hsymbol : overloads.type ⟨3⟩ = .ok overloadedSpinner := rfl
  have hcheck' : spinner.check = .ok () := by decide +kernel
  have hlink' : spinner.link = .ok spinner := by decide +kernel
  have hsymbol' : spinner.type ⟨3⟩ = .ok spinnerType := rfl
  have hplain : ∀ file ∈ overloads.files, '|' ∉ file.path.toList := by decide +kernel
  obtain ⟨-, hexactly⟩ :=
    member_order_matters_exactly_to_unlike_overloads hcheck hlink hconfig hsymbol
  obtain ⟨hkept, -⟩ :=
    member_order_matters_exactly_to_unlike_overloads hcheck' hlink' hconfig hsymbol'
  have hunlike : ¬ plainAnalyzer.OverloadsAgree overloads ⟨3⟩ overloadedSpinner := by
    intro hagree
    obtain ⟨before, after, hbefore, hafter, hplaces⟩ :=
      (hexactly hplain).mpr hagree [⟨1⟩, ⟨0⟩] (.swap _ _ _)
    obtain rfl := lookup_unique hbefore analyze_overloads
    obtain rfl := lookup_unique hafter analyze_swapped_overloads
    exact absurd ((hplaces overloadReport.place).mp (by simp)) (by simp)
  have hagree : plainAnalyzer.OverloadsAgree spinner ⟨3⟩ spinnerType := by
    intro declaration name _ member hmember other hother hname hname' place hblames
    have hsame : member = other := by
      obtain ⟨method, hmethod, rfl⟩ := hname
      obtain ⟨method', hmethod', hsame⟩ := hname'
      have hmembers : ∀ a ∈ spinnerType.members, ∀ b ∈ spinnerType.members,
          (spinner.method a).map (·.name) = (spinner.method b).map (·.name) → a = b := by
        decide +kernel
      refine hmembers member hmember other hother ?_
      rw [hmethod, hmethod']
      exact congrArg Except.ok hsame.symm
    rw [← hsame]
    exact Or.inl hblames
  obtain ⟨-, -, before, after, hbefore, hafter, hplaces⟩ := hkept [⟨1⟩, ⟨0⟩, ⟨2⟩, ⟨3⟩] (.swap _ _ _)
  exact ⟨hcheck, hlink, hconfig, hsymbol, hunlike, hcheck', hlink', hsymbol', hagree, before, after,
    hbefore, hafter, hplaces hagree⟩

/-- The generator is accepted or not depending on which overload comes first. -/
theorem overloads_verdict_depends_on_order :
    overloads.check = .ok () ∧ overloads.link = .ok overloads ∧
      Analyzer.ofConfig {} = .ok plainAnalyzer ∧ overloads.type ⟨3⟩ = .ok overloadedSpinner ∧
      overloadedSpinner.members.Perm [⟨1⟩, ⟨0⟩] ∧
      plainAnalyzer.analyze overloads = .ok [] ∧
      plainAnalyzer.analyze (overloads.withMembers ⟨3⟩ [⟨1⟩, ⟨0⟩]) = .ok [overloadReport] :=
  ⟨by decide +kernel, by decide +kernel, rfl, rfl, .swap _ _ _, analyze_overloads,
    analyze_swapped_overloads⟩

end Program

end ModLint
