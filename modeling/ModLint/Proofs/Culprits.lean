import ModLint.Proofs.Loaded
import ModLint.Proofs.StoredIds

/-!
# Who is blamed for a circle

`Program.link` and `Program.check` walk from every node and every type in turn and blame the first
one whose walk comes back to it or takes too long. A walk that takes too long has run into a circle,
but it need not have started on it: the parents of a node may go in circles higher up, and a type
may extend one that is its own base type. So the first item that *leads into* a circle is blamed,
and the error speaks the truth about it only if this item is on a circle.
-/

namespace ModLint

open Relation

/-! ## The first item that enters a circle -/

/-- The item at a position is the first of its arena from which a way leads into a circle. -/
def FirstToEnter {arena : Arena} (r : ItemId arena → ItemId arena → Prop) (i : Nat) : Prop :=
  EntersCircle r ⟨i⟩ ∧ ∀ j, j < i → ¬ EntersCircle r ⟨j⟩

/-- The first item that enters a circle is on one exactly if no item enters a circle before the
first item on a circle comes. -/
theorem FirstToEnter.transGen_iff {arena : Arena} {r : ItemId arena → ItemId arena → Prop} {i : Nat}
    (h : FirstToEnter r i) :
    TransGen r ⟨i⟩ ⟨i⟩ ↔ ∀ k, EntersCircle r ⟨k⟩ → ∃ j, j ≤ k ∧ TransGen r ⟨j⟩ ⟨j⟩ := by
  obtain ⟨henters, hbefore⟩ := h
  constructor
  · intro hcircle k hk
    refine ⟨i, ?_, hcircle⟩
    by_contra hlt
    exact hbefore k (by omega) hk
  · intro hall
    obtain ⟨j, hle, hcircle⟩ := hall i henters
    have hge : ¬ j < i := fun hlt => hbefore j hlt (.of_transGen hcircle)
    obtain rfl : j = i := by omega
    exact hcircle

/-- Positions enter circles as their items do. -/
theorem entersCircle_index_iff {arena : Arena} {r : ItemId arena → ItemId arena → Prop}
    {s : Nat → Nat → Prop} (h : ∀ i j, s i j ↔ r ⟨i⟩ ⟨j⟩) (i : Nat) :
    EntersCircle s i ↔ EntersCircle r ⟨i⟩ := by
  constructor
  · exact EntersCircle.lift ItemId.mk fun a b => (h a b).mp
  · exact EntersCircle.lift ItemId.index fun a b => (h a.index b.index).mpr

namespace Program

/-! ## Nodes -/

/-- A step from a node to the node that lists it as a child. -/
def Rises (p : Program) (child parent : NodeId) : Prop :=
  p.IsChild parent child

theorem cycle?_eq_some_iff {nodes : Array SyntaxNode}
    (hin : Within nodes.size fun i j => parentIndex? nodes i = some j) {i : Nat} :
    cycle? nodes = some i ↔ EntersCircle (fun i j => parentIndex? nodes i = some j) i ∧
      ∀ j, j < i → ¬ EntersCircle (fun i j => parentIndex? nodes i = some j) j := by
  have hwalk : ∀ j, j < nodes.size →
      (parentsReturn nodes j nodes.size (nodes[j]?.bind (·.parent)) = true ↔
        EntersCircle (fun i j => parentIndex? nodes i = some j) j) := by
    intro j hj
    rw [← chainReturns_iff_entersCircle hin hj, parentsReturn_eq_chainReturns]
    rfl
  rw [cycle?, List.find?_range_eq_some]
  constructor
  · rintro ⟨hreturns, hmem, hbefore⟩
    have hi := List.mem_range.mp hmem
    refine ⟨(hwalk i hi).mp hreturns, fun j hj henters => ?_⟩
    have hnot := hbefore j hj
    rw [(hwalk j (by omega)).mpr henters] at hnot
    exact absurd hnot (by simp)
  · rintro ⟨henters, hbefore⟩
    obtain ⟨k, hik, -⟩ := henters.exists_step
    have hi := (hin i k hik).1
    refine ⟨(hwalk i hi).mpr henters, List.mem_range.mpr hi, fun j hj => ?_⟩
    rw [Bool.not_eq_true', ← Bool.not_eq_true, hwalk j (by omega)]
    exact hbefore j hj

/-- Once all parents are entered, the node that is blamed is the first to enter a circle. -/
theorem Adopted.cycle?_eq_some_iff {p : Program} {nodes : Array SyntaxNode}
    (hrange : p.ChildrenInRange) (h : Adopted p.nodes (edgesOf p.nodes p.nodeIds) nodes) {i : Nat} :
    cycle? nodes = some i ↔ FirstToEnter p.Rises i := by
  have hup : ∀ a b, parentIndex? nodes a = some b ↔ p.Rises ⟨a⟩ ⟨b⟩ :=
    fun a b => h.parentIndex?_iff b a
  have hin : Within nodes.size fun a b => parentIndex? nodes a = some b := by
    intro a b hab
    have hrises := (hup a b).mp hab
    rw [h.size_eq]
    exact ⟨hrange _ _ hrises, IsChild.parent_lt hrises⟩
  rw [Program.cycle?_eq_some_iff hin, FirstToEnter]
  simp only [entersCircle_index_iff hup]

/-- `link` blames the first node that enters a circle, if no node is listed twice. -/
theorem link_eq_cycle_iff {p : Program} (hrange : p.ChildrenInRange) {i : Nat} :
    p.link = .error (.invalid (.cycle i)) ↔ p.listedChildren.Nodup ∧ FirstToEnter p.Rises i := by
  have hlisted := map_snd_edgesOf_nodeIds p
  have hentered := adoptAll_entered p.nodeIds (fun i c hc => hrange ⟨i⟩ c hc)
    (adopted_bare p.nodes)
  rw [List.nil_append] at hentered
  rcases hres : adoptAll p.nodeIds (p.nodes.map orphan) with ⟨nodes, failure?⟩
  rw [hres] at hentered
  rcases hentered with ⟨hnone, hadopted⟩ | ⟨first, second, child, hclash, hfail⟩
  · simp only at hnone hadopted
    subst hnone
    have hnodup : p.listedChildren.Nodup := by
      rw [← hlisted]
      exact hadopted.nodup
    rw [link_eq_of_entered hres, ← hadopted.cycle?_eq_some_iff hrange, and_iff_right hnodup]
    cases cycle? nodes <;> simp
  · simp only at hfail
    subst hfail
    have hnot : ¬ p.listedChildren.Nodup := by
      rw [← hlisted]
      exact hclash.not_nodup
    rw [link_eq_of_failure hres]
    simp [hnot]

/-! ## Types -/

/-- The walk along a link from a type fails exactly if it enters a circle. -/
theorem InRange.linkReturns_iff {p : Program} (h : p.InRange) {i : Nat} {symbol : TypeSymbol}
    (hi : p.types[i]? = some symbol) (link : TypeLink) :
    p.linkReturns link i p.types.size (link.follow symbol) = true ↔
      EntersCircle (p.Leads link) ⟨i⟩ := by
  have hin : Within p.types.size fun a b => p.linkIndex? link a = some b := by
    intro a b hab
    obtain ⟨symbol', ha, hb⟩ := linkIndex?_eq_some_iff.mp hab
    have hbelow := h.types symbol' (Array.mem_of_getElem? ha)
    refine ⟨(Array.getElem?_eq_some_iff.mp ha).1, ?_⟩
    cases link with
    | containing => exact hbelow.containingType ⟨b⟩ hb
    | base => exact hbelow.base ⟨b⟩ hb
  rw [linkReturns_start hi, chainReturns_iff_entersCircle hin (Array.getElem?_eq_some_iff.mp hi).1]
  exact entersCircle_index_iff (fun a b => linkIndex?_eq_some_iff) i

/-- What a search through a list with its positions finds is what it finds first. -/
theorem findSome?_zipIdx_eq_some_iff {α β : Type} {f : α × Nat → Option β} {xs : List α} {b : β} :
    xs.zipIdx.findSome? f = some b ↔ ∃ i a, xs[i]? = some a ∧ f (a, i) = some b ∧
      ∀ j a', j < i → xs[j]? = some a' → f (a', j) = none := by
  have hfirst : ∀ c, xs.zipIdx.findSome? f = some c → ∃ i a, xs[i]? = some a ∧ f (a, i) = some c ∧
      ∀ j a', j < i → xs[j]? = some a' → f (a', j) = none := by
    intro c hfound
    obtain ⟨before, ⟨a, i⟩, after, hsplit, hc, hnone⟩ := List.findSome?_eq_some_iff.mp hfound
    have hat : xs.zipIdx[before.length]? = some (a, i) := by simp [hsplit]
    rw [List.getElem?_zipIdx, Nat.zero_add] at hat
    obtain ⟨a', ha', heq⟩ := Option.map_eq_some_iff.mp hat
    cases heq
    refine ⟨before.length, a, ha', hc, fun j a' hj ha' => hnone (a', j) ?_⟩
    have hmem : xs.zipIdx[j]? = some (a', j) := by
      rw [List.getElem?_zipIdx, ha', Nat.zero_add]
      rfl
    rw [hsplit, List.getElem?_append_left hj] at hmem
    exact List.mem_of_getElem? hmem
  refine ⟨hfirst b, ?_⟩
  rintro ⟨i, a, ha, hb, hbefore⟩
  have hsome : (xs.zipIdx.findSome? f).isSome = true :=
    List.findSome?_isSome_iff.mpr ⟨(a, i), List.mem_zipIdx_iff_getElem?.mpr ha, by rw [hb]; rfl⟩
  obtain ⟨c, hc⟩ := Option.isSome_iff_exists.mp hsome
  obtain ⟨i', a', ha', hc', hbefore'⟩ := hfirst c hc
  -- neither of the two positions comes before the other one
  have hle : ¬ i < i' := fun hlt => by simp [hbefore' i a hlt ha] at hb
  have hge : ¬ i' < i := fun hlt => by simp [hbefore i' a' hlt ha'] at hc'
  obtain rfl : i' = i := by omega
  obtain rfl := Option.some.inj (ha.symm.trans ha')
  rw [hc, ← hc', hb]

/-- A type is blamed for the first of its links that leads into a circle, the containing types being
followed before the base types. -/
theorem InRange.findSome?_links {p : Program} (h : p.InRange) {i : Nat} {symbol : TypeSymbol}
    (hi : p.types[i]? = some symbol) (error : ProgramError) :
    ([TypeLink.containing, TypeLink.base].findSome? fun link =>
        if p.linkReturns link i p.types.size (link.follow symbol) then
          some (ProgramError.typeCycle i symbol.name link)
        else none) = some error ↔
      ∃ link, error = .typeCycle i symbol.name link ∧ EntersCircle (p.Leads link) ⟨i⟩ ∧
        (link = .base → ¬ EntersCircle (p.Leads .containing) ⟨i⟩) := by
  have hwalk := h.linkReturns_iff hi
  rw [List.findSome?_cons, List.findSome?_cons, List.findSome?_nil]
  by_cases hcontaining : EntersCircle (p.Leads .containing) ⟨i⟩
  · rw [if_pos ((hwalk .containing).mpr hcontaining)]
    constructor
    · intro heq
      cases heq
      exact ⟨.containing, rfl, hcontaining, fun hlink => by cases hlink⟩
    · rintro ⟨link, rfl, -, hbase⟩
      cases link with
      | containing => rfl
      | base => exact absurd hcontaining (hbase rfl)
  · rw [if_neg fun hreturns => hcontaining ((hwalk .containing).mp hreturns)]
    by_cases hbase : EntersCircle (p.Leads .base) ⟨i⟩
    · rw [if_pos ((hwalk .base).mpr hbase)]
      constructor
      · intro heq
        cases heq
        exact ⟨.base, rfl, hbase, fun _ => hcontaining⟩
      · rintro ⟨link, rfl, henters, -⟩
        cases link with
        | containing => exact absurd henters hcontaining
        | base => rfl
    · rw [if_neg fun hreturns => hbase ((hwalk .base).mp hreturns)]
      constructor
      · intro heq
        cases heq
      · rintro ⟨link, -, henters, -⟩
        cases link with
        | containing => exact absurd henters hcontaining
        | base => exact absurd henters hbase

/-- `check` blames the first type from which one of the links leads into a circle. -/
theorem InRange.check_eq_typeCycle_iff {p : Program} (h : p.InRange) {i : Nat} {name : String}
    {link : TypeLink} :
    p.check = .error (.typeCycle i name link) ↔
      (∃ symbol, p.types[i]? = some symbol ∧ symbol.name = name) ∧
        EntersCircle (p.Leads link) ⟨i⟩ ∧
        (∀ j, j < i → ∀ other, ¬ EntersCircle (p.Leads other) ⟨j⟩) ∧
        (link = .base → ¬ EntersCircle (p.Leads .containing) ⟨i⟩) := by
  have hcheck : p.check = .error (.typeCycle i name link) ↔
      p.typeCycle? = some (.typeCycle i name link) := by
    rw [check, dangling?_eq_none_iff.mpr h]
    cases p.typeCycle? <;> simp
  have hfound : ∀ j symbol, p.types[j]? = some symbol →
      (([TypeLink.containing, TypeLink.base].findSome? fun link =>
          if p.linkReturns link j p.types.size (link.follow symbol) then
            some (ProgramError.typeCycle j symbol.name link)
          else none) = none ↔ ∀ other, ¬ EntersCircle (p.Leads other) ⟨j⟩) := by
    intro j symbol hj
    rw [List.findSome?_eq_none_iff]
    constructor
    · intro hnone other henters
      have hother := hnone other (by cases other <;> simp)
      rw [if_pos ((h.linkReturns_iff hj other).mpr henters)] at hother
      cases hother
    · intro hclear other _
      exact if_neg fun hreturns => hclear other ((h.linkReturns_iff hj other).mp hreturns)
  rw [hcheck, typeCycle?, findSome?_zipIdx_eq_some_iff]
  simp only [Array.getElem?_toList]
  constructor
  · rintro ⟨i', symbol, hi, hblamed, hbefore⟩
    obtain ⟨link', heq, henters, hbase⟩ := (h.findSome?_links hi _).mp hblamed
    cases heq
    refine ⟨⟨symbol, hi, rfl⟩, henters, fun j hj => ?_, hbase⟩
    have hlt : j < p.types.size := by
      have := (Array.getElem?_eq_some_iff.mp hi).1
      omega
    have hsymbol := Array.getElem?_eq_getElem hlt
    exact (hfound j _ hsymbol).mp (hbefore j _ hj hsymbol)
  · rintro ⟨⟨symbol, hi, rfl⟩, henters, hbefore, hbase⟩
    refine ⟨i, symbol, hi, (h.findSome?_links hi _).mpr ⟨link, rfl, henters, hbase⟩, ?_⟩
    intro j symbol' hj hsymbol'
    exact (hfound j symbol' hsymbol').mpr (hbefore j hj)

/-! ## What the errors say -/

/-- In a program whose ids point into their arenas, `link` blames the first node, and `check` the
first type, from which a way leads into a circle. This item is on a circle itself, as the texts of
the errors say, exactly if no item leads into a circle before the first item on a circle comes. -/
theorem circles_are_blamed_on_first_to_enter {p : Program} (h : p.InRange) :
    (∀ i, p.link = .error (.invalid (.cycle i)) ↔
      p.listedChildren.Nodup ∧ FirstToEnter p.Rises i) ∧
    (∀ i, p.link = .error (.invalid (.cycle i)) →
      (TransGen p.Rises ⟨i⟩ ⟨i⟩ ↔
        ∀ k, EntersCircle p.Rises ⟨k⟩ → ∃ j, j ≤ k ∧ TransGen p.Rises ⟨j⟩ ⟨j⟩)) ∧
    (∀ i name link, p.check = .error (.typeCycle i name link) ↔
      (∃ symbol, p.types[i]? = some symbol ∧ symbol.name = name) ∧
        EntersCircle (p.Leads link) ⟨i⟩ ∧
        (∀ j, j < i → ∀ other, ¬ EntersCircle (p.Leads other) ⟨j⟩) ∧
        (link = .base → ¬ EntersCircle (p.Leads .containing) ⟨i⟩)) ∧
    ∀ i name link, p.check = .error (.typeCycle i name link) →
      (TransGen (p.Leads link) ⟨i⟩ ⟨i⟩ ↔
        ∀ k, EntersCircle (p.Leads link) ⟨k⟩ →
          ∃ j, j ≤ k ∧ TransGen (p.Leads link) ⟨j⟩ ⟨j⟩) := by
  have hrange := childrenInRange_of_inRange h
  refine ⟨fun i => link_eq_cycle_iff hrange, fun i herror => ?_,
    fun i name link => h.check_eq_typeCycle_iff, fun i name link herror => ?_⟩
  · exact ((link_eq_cycle_iff hrange).mp herror).2.transGen_iff
  · obtain ⟨-, henters, hbefore, -⟩ := h.check_eq_typeCycle_iff.mp herror
    have hfirst : FirstToEnter (p.Leads link) i := ⟨henters, fun j hj => hbefore j hj link⟩
    exact hfirst.transGen_iff

/-- A type that extends a type that extends itself, and a node beside which its parent lists
itself. -/
def strayCircles : Program :=
  { assembly := "Mod"
    files := #[{ path := "Spinner.cs" }]
    types := #[{ name := "Spinner", base := some ⟨1⟩, assembly := "Mod" },
      { name := "Hazard", base := some ⟨1⟩, assembly := "Mod" }]
    nodes := #[
      { file := ⟨0⟩
        span := { startByte := 0, endByte := 1, startLine := 1, startColumn := 1 }
        kind := .literal "1" },
      { file := ⟨0⟩
        span := { startByte := 0, endByte := 2, startLine := 1, startColumn := 1 }
        kind := .block [⟨0⟩, ⟨1⟩] }] }

theorem strayCircles_inRange : strayCircles.InRange :=
  dangling?_eq_none_iff.mp (by decide)

theorem strayCircles_are_blamed_on_first :
    strayCircles.InRange ∧ strayCircles.link = .error (.invalid (.cycle 0)) ∧
      FirstToEnter strayCircles.Rises 0 ∧
      strayCircles.check = .error (.typeCycle 0 "Spinner" .base) ∧
      EntersCircle (strayCircles.Leads .base) ⟨0⟩ := by
  have hlink : strayCircles.link = .error (.invalid (.cycle 0)) := by decide +kernel
  have hcheck : strayCircles.check = .error (.typeCycle 0 "Spinner" .base) := by decide
  obtain ⟨hnodes, -, htypes, -⟩ := circles_are_blamed_on_first_to_enter strayCircles_inRange
  exact ⟨strayCircles_inRange, hlink, ((hnodes 0).mp hlink).2, hcheck,
    ((htypes 0 "Spinner" .base).mp hcheck).2.1⟩

/-- The node and the type that are blamed for the circles of `strayCircles` are on none. -/
theorem strayCircles_blame_outsiders :
    strayCircles.InRange ∧ strayCircles.link = .error (.invalid (.cycle 0)) ∧
      (ProgramError.cycle 0).message = "node 0 is its own ancestor" ∧
      ¬ TransGen strayCircles.Rises ⟨0⟩ ⟨0⟩ ∧
      strayCircles.check = .error (.typeCycle 0 "Spinner" .base) ∧
      (ProgramError.typeCycle 0 "Spinner" .base).message =
        "type 0 (Spinner) is its own base type" ∧
      ¬ TransGen (strayCircles.Leads .base) ⟨0⟩ ⟨0⟩ := by
  refine ⟨strayCircles_inRange, by decide +kernel, by decide, ?_, by decide, by decide, ?_⟩
  · intro hcircle
    obtain ⟨child, -, hrises⟩ := TransGen.tail'_iff.mp hcircle
    have hnone : childrenAt strayCircles.nodes 0 = [] := by decide
    rw [Rises, IsChild, hnone] at hrises
    cases hrises
  · intro hcircle
    obtain ⟨derived, -, symbol, hsymbol, hbase⟩ := TransGen.tail'_iff.mp hcircle
    have hbases : ∀ symbol ∈ strayCircles.types.toList, symbol.base ≠ some ⟨0⟩ := by decide
    exact hbases symbol (Array.mem_toList_iff.mpr (Array.mem_of_getElem? hsymbol)) hbase

end Program

end ModLint
