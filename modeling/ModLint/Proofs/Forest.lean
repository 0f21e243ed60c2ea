import ModLint.Proofs.Rank

/-!
# Links to parents: which programs have them

`Program.link` enters the parents one child after the other and then looks for circles. Here it is
shown to succeed exactly for forests, and its links to be the child lists read backwards.

The first part follows the loop that enters the parents. Its state is described by the list of the
`(parent, child)` pairs that it has gone through.
-/

namespace ModLint.Program

open Relation

/-- The parent of the node at a position. -/
def parentAt (nodes : Array SyntaxNode) (i : Nat) : Option NodeId :=
  nodes[i]?.bind (·.parent)

/-- Every entry of the child lists of some nodes, with its parent, in order. -/
def edgesOf (nodes : Array SyntaxNode) (ids : List NodeId) : List (NodeId × NodeId) :=
  ids.flatMap fun id => (childrenAt nodes id.index).map fun child => (id, child)

/-- All child lists of a program, one behind the other. -/
def listedChildren (p : Program) : List NodeId :=
  p.nodes.toList.flatMap (·.kind.children)

/-- Whether a node is in the child list of another one. -/
def IsChild (p : Program) (parent child : NodeId) : Prop :=
  child ∈ childrenAt p.nodes parent.index

/-- Every child list stays inside the arena. -/
def ChildrenInRange (p : Program) : Prop :=
  ∀ parent child, p.IsChild parent child → child.index < p.nodes.size

/-! ## Entering the parents -/

/-- What the nodes look like once the parents of `pairs` are entered: nothing but parents has
changed, and the parents are exactly those of `pairs`. -/
structure Adopted (bare : Array SyntaxNode) (pairs : List (NodeId × NodeId))
    (nodes : Array SyntaxNode) : Prop where
  frame : nodes.map orphan = bare.map orphan
  nodup : (pairs.map Prod.snd).Nodup
  parent_iff : ∀ parent child : NodeId,
    parentAt nodes child.index = some parent ↔ (parent, child) ∈ pairs

theorem Adopted.size_eq {bare nodes : Array SyntaxNode} {pairs : List (NodeId × NodeId)}
    (h : Adopted bare pairs nodes) : nodes.size = bare.size := by
  have := congrArg Array.size h.frame
  simpa using this

theorem childrenAt_map_orphan (nodes : Array SyntaxNode) (i : Nat) :
    childrenAt (nodes.map orphan) i = childrenAt nodes i := by
  simp only [childrenAt, Array.getElem?_map, Option.map_map]
  rfl

theorem Adopted.childrenAt_eq {bare nodes : Array SyntaxNode} {pairs : List (NodeId × NodeId)}
    (h : Adopted bare pairs nodes) (i : Nat) : childrenAt nodes i = childrenAt bare i := by
  rw [← childrenAt_map_orphan nodes, h.frame, childrenAt_map_orphan]

theorem map_orphan_setParent (nodes : Array SyntaxNode) (i : Nat) (parent : NodeId) :
    (setParent nodes i parent).map orphan = nodes.map orphan := by
  apply Array.ext_getElem?
  intro j
  simp only [setParent, Array.getElem?_map, Array.getElem?_modify]
  split
  · cases nodes[j]? <;> rfl
  · rfl

theorem parentAt_setParent_self {nodes : Array SyntaxNode} {i : Nat} (hi : i < nodes.size)
    (parent : NodeId) : parentAt (setParent nodes i parent) i = some parent := by
  simp only [parentAt, setParent, Array.getElem?_modify, if_true]
  rw [Array.getElem?_eq_getElem hi]
  rfl

theorem parentAt_setParent_ne {nodes : Array SyntaxNode} {i j : Nat} (hij : i ≠ j)
    (parent : NodeId) : parentAt (setParent nodes i parent) j = parentAt nodes j := by
  simp [parentAt, setParent, Array.getElem?_modify, hij]

/-- One step of the loop: a child without a parent gets one. -/
theorem Adopted.setParent {bare nodes : Array SyntaxNode} {pairs : List (NodeId × NodeId)}
    (h : Adopted bare pairs nodes) {child : NodeId} (hin : child.index < bare.size)
    (hnone : parentAt nodes child.index = none) (parent : NodeId) :
    Adopted bare (pairs ++ [(parent, child)]) (setParent nodes child.index parent) := by
  have hnew : ∀ q, (q, child) ∉ pairs := by
    intro q hq
    rw [← h.parent_iff, hnone] at hq
    cases hq
  refine ⟨(map_orphan_setParent _ _ _).trans h.frame, ?_, fun q c => ?_⟩
  · rw [List.map_append, List.nodup_append]
    refine ⟨h.nodup, by simp, fun a ha b hb hab => ?_⟩
    obtain ⟨⟨q, c⟩, hqc, rfl⟩ := List.mem_map.mp ha
    have hcb : c = child := hab.trans (by simpa using hb)
    exact hnew q (hcb ▸ hqc)
  · rw [List.mem_append, List.mem_singleton, Prod.mk.injEq]
    by_cases hc : c = child
    · subst hc
      rw [parentAt_setParent_self (by rw [h.size_eq]; exact hin)]
      simp only [Option.some.injEq, and_true]
      exact ⟨fun e => Or.inr e.symm, fun e => e.elim (fun hq => absurd hq (hnew q)) Eq.symm⟩
    · have hne : child.index ≠ c.index := fun e => hc (by cases c; cases child; simp_all)
      rw [parentAt_setParent_ne hne, h.parent_iff]
      simp [hc]

/-- A list of pairs in which a child gets a second parent after it got a first one. -/
def Clash (pairs : List (NodeId × NodeId)) (first second child : NodeId) : Prop :=
  ∃ before after, pairs = before ++ (second, child) :: after ∧ (first, child) ∈ before

theorem Clash.append {pairs : List (NodeId × NodeId)} {first second child : NodeId}
    (h : Clash pairs first second child) (more : List (NodeId × NodeId)) :
    Clash (pairs ++ more) first second child := by
  obtain ⟨before, after, rfl, hfirst⟩ := h
  exact ⟨before, after ++ more, by simp, hfirst⟩

theorem Clash.not_nodup {pairs : List (NodeId × NodeId)} {first second child : NodeId}
    (h : Clash pairs first second child) : ¬ (pairs.map Prod.snd).Nodup := by
  obtain ⟨before, after, rfl, hfirst⟩ := h
  rw [List.map_append, List.map_cons, List.nodup_append]
  rintro ⟨-, -, hdisj⟩
  exact hdisj child (List.mem_map_of_mem (f := Prod.snd) hfirst) child (by simp) rfl

/-- The outcome of entering the parents of `pairs`: all are entered, or a child had a parent
already. -/
def Entered (bare : Array SyntaxNode) (pairs : List (NodeId × NodeId))
    (result : Array SyntaxNode × Option LinkFailure) : Prop :=
  (result.2 = none ∧ Adopted bare pairs result.1) ∨
  ∃ first second child, Clash pairs first second child ∧
    result.2 = some (.invalid (.sharedChild child.index first.index second.index))

/-- The inner loop enters one parent for all children in a list. -/
theorem adopt_entered {bare : Array SyntaxNode} (parent : NodeId) (children : List NodeId)
    (hin : ∀ child ∈ children, child.index < bare.size) {nodes : Array SyntaxNode}
    {pairs : List (NodeId × NodeId)} (h : Adopted bare pairs nodes) :
    Entered bare (pairs ++ children.map fun child => (parent, child))
      (adopt parent children nodes) := by
  induction children generalizing nodes pairs with
  | nil => exact Or.inl ⟨rfl, by simpa [adopt] using h⟩
  | cons child children ih =>
    have hc : child.index < nodes.size := by
      rw [h.size_eq]; exact hin child (by simp)
    have hget : nodes[child.index]? = some nodes[child.index] := Array.getElem?_eq_getElem hc
    cases hp : nodes[child.index].parent with
    | some first =>
      have hfirst : (first, child) ∈ pairs := by
        rw [← h.parent_iff]
        simp [parentAt, hget, hp]
      refine Or.inr ⟨first, parent, child, ⟨pairs, _, rfl, hfirst⟩, ?_⟩
      simp [adopt, hget, hp]
    | none =>
      have hnone : parentAt nodes child.index = none := by simp [parentAt, hget, hp]
      have hstep := h.setParent (hin child (by simp)) hnone parent
      have hrest := ih (fun c hc' => hin c (by simp [hc'])) hstep
      simpa [adopt, hget, hp] using hrest

/-- The outer loop goes through the child lists of all nodes in a list. -/
theorem adoptAll_entered {bare : Array SyntaxNode} (ids : List NodeId)
    (hin : ∀ i, ∀ child ∈ childrenAt bare i, child.index < bare.size) {nodes : Array SyntaxNode}
    {pairs : List (NodeId × NodeId)} (h : Adopted bare pairs nodes) :
    Entered bare (pairs ++ edgesOf bare ids) (adoptAll ids nodes) := by
  induction ids generalizing nodes pairs with
  | nil => exact Or.inl ⟨rfl, by simpa [edgesOf, adoptAll] using h⟩
  | cons id ids ih =>
    have hedges : pairs ++ edgesOf bare (id :: ids) =
        (pairs ++ (childrenAt bare id.index).map fun child => (id, child)) ++ edgesOf bare ids := by
      simp [edgesOf]
    have hone := adopt_entered id (childrenAt bare id.index) (hin id.index) h
    rw [hedges, adoptAll]
    -- the child list is read from the current nodes, where only parents differ
    rw [h.childrenAt_eq]
    rcases hres : adopt id (childrenAt bare id.index) nodes with ⟨nodes', failure?⟩
    rw [hres] at hone
    rcases hone with ⟨hnone, ha⟩ | ⟨first, second, child, hclash, hfail⟩
    · simp only at hnone ha
      subst hnone
      exact ih ha
    · simp only at hfail
      subst hfail
      exact Or.inr ⟨first, second, child, hclash.append _, rfl⟩

/-! ## Edges and child lists -/

theorem mem_edgesOf {nodes : Array SyntaxNode} {ids : List NodeId} {parent child : NodeId} :
    (parent, child) ∈ edgesOf nodes ids ↔
      parent ∈ ids ∧ child ∈ childrenAt nodes parent.index := by
  simp only [edgesOf, List.mem_flatMap, List.mem_map, Prod.mk.injEq]
  constructor
  · rintro ⟨id, hid, c, hc, rfl, rfl⟩
    exact ⟨hid, hc⟩
  · rintro ⟨hid, hc⟩
    exact ⟨parent, hid, child, hc, rfl, rfl⟩

theorem IsChild.parent_lt {p : Program} {parent child : NodeId} (h : p.IsChild parent child) :
    parent.index < p.nodes.size := by
  by_contra hge
  simp [IsChild, childrenAt, Array.getElem?_eq_none (Nat.le_of_not_lt hge)] at h

theorem mem_nodeIds {p : Program} {id : NodeId} : id ∈ p.nodeIds ↔ id.index < p.nodes.size := by
  simp only [nodeIds, List.mem_map, List.mem_range]
  constructor
  · rintro ⟨i, hi, rfl⟩
    exact hi
  · intro h
    exact ⟨id.index, h, rfl⟩

/-- The edges of all nodes are the child relation. -/
theorem mem_edgesOf_nodeIds {p : Program} {parent child : NodeId} :
    (parent, child) ∈ edgesOf p.nodes p.nodeIds ↔ p.IsChild parent child := by
  rw [mem_edgesOf, mem_nodeIds]
  exact ⟨fun h => h.2, fun h => ⟨IsChild.parent_lt h, h⟩⟩

/-- The children of all edges are the child lists, one behind the other. -/
theorem map_snd_edgesOf_nodeIds (p : Program) :
    (edgesOf p.nodes p.nodeIds).map Prod.snd = p.listedChildren := by
  have hlists : (List.range p.nodes.size).map (childrenAt p.nodes) =
      p.nodes.toList.map (·.kind.children) := by
    apply List.ext_getElem
    · simp
    · intro i h₁ h₂
      have hi : i < p.nodes.size := by simpa using h₁
      simp [childrenAt, Array.getElem?_eq_getElem hi]
  rw [listedChildren, List.flatMap_def, ← hlists]
  simp [edgesOf, nodeIds, List.flatMap_def, Function.comp_def]

/-- Edges come in the order of their parents. -/
theorem edgesOf_nodeIds_sorted (p : Program) :
    (edgesOf p.nodes p.nodeIds).Pairwise fun a b => a.1.index ≤ b.1.index := by
  rw [edgesOf, List.pairwise_flatMap]
  refine ⟨fun id _ => ?_, ?_⟩
  · rw [List.pairwise_map]
    exact List.pairwise_of_forall fun _ _ => Nat.le_refl _
  · rw [nodeIds, List.pairwise_map]
    refine List.pairwise_lt_range.imp fun hij x hx y hy => ?_
    obtain ⟨_, _, rfl⟩ := List.mem_map.mp hx
    obtain ⟨_, _, rfl⟩ := List.mem_map.mp hy
    exact Nat.le_of_lt hij

/-- An edge occurs as often as its child in the child list of its parent. -/
theorem count_edgesOf (nodes : Array SyntaxNode) {ids : List NodeId} (hids : ids.Nodup)
    (parent child : NodeId) :
    (edgesOf nodes ids).count (parent, child) ≤ (childrenAt nodes parent.index).count child := by
  induction ids with
  | nil => simp [edgesOf]
  | cons id ids ih =>
    obtain ⟨hnot, hrest⟩ := List.nodup_cons.mp hids
    have hsplit : edgesOf nodes (id :: ids) =
        (childrenAt nodes id.index).map (fun c => (id, c)) ++ edgesOf nodes ids := by
      simp [edgesOf]
    rw [hsplit, List.count_append]
    by_cases hid : id = parent
    · subst hid
      have hzero : (edgesOf nodes ids).count (id, child) = 0 :=
        List.count_eq_zero.mpr fun hmem => hnot (mem_edgesOf.mp hmem).1
      have hinj : Function.Injective fun c : NodeId => (id, c) := fun a b hab => (Prod.mk.inj hab).2
      rw [hzero, List.count_map_of_injective _ _ hinj]
      simp
    · have hzero :
          ((childrenAt nodes id.index).map fun c => (id, c)).count (parent, child) = 0 := by
        refine List.count_eq_zero.mpr fun hmem => ?_
        obtain ⟨c, -, hc⟩ := List.mem_map.mp hmem
        exact hid (Prod.mk.inj hc).1
      rw [hzero, Nat.zero_add]
      exact ih hrest

/-! ## Circles -/

/-- The position of the parent of the node at a position. -/
def parentIndex? (nodes : Array SyntaxNode) (i : Nat) : Option Nat :=
  (parentAt nodes i).map (·.index)

/-- The search for circles is the search along any partial function. -/
theorem parentsReturn_eq_chainReturns (nodes : Array SyntaxNode) (start steps : Nat)
    (current : Option NodeId) :
    parentsReturn nodes start steps current =
      chainReturns (parentIndex? nodes) start steps (current.map (·.index)) := by
  induction steps generalizing current with
  | zero => cases current <;> rfl
  | succ steps ih =>
    cases current with
    | none => rfl
    | some id =>
      simp only [parentsReturn, chainReturns, Option.map_some]
      rw [ih]
      rfl

theorem cycle?_eq_none_iff {nodes : Array SyntaxNode}
    (hin : Within nodes.size fun i j => parentIndex? nodes i = some j) :
    cycle? nodes = none ↔ Acyclic fun i j => parentIndex? nodes i = some j := by
  rw [← chainReturns_iff_acyclic hin, cycle?, List.find?_eq_none]
  simp only [List.mem_range, Bool.not_eq_true, parentsReturn_eq_chainReturns]
  rfl

/-- The child relation on positions. -/
def childIndex (p : Program) (i j : Nat) : Prop :=
  p.IsChild ⟨i⟩ ⟨j⟩

/-- No node is its own proper ancestor. -/
def NoCircle (p : Program) : Prop :=
  ∀ id, ¬ TransGen p.IsChild id id

theorem noCircle_iff {p : Program} : p.NoCircle ↔ Acyclic p.childIndex := by
  constructor
  · intro h i hi
    exact h ⟨i⟩ (hi.lift ItemId.mk fun _ _ hij => hij)
  · intro h id hid
    exact h id.index (hid.lift ItemId.index fun _ _ hij => hij)

/-- Once all parents are entered, going up is going down backwards. -/
theorem Adopted.parentIndex?_iff {p : Program} {nodes : Array SyntaxNode}
    (h : Adopted p.nodes (edgesOf p.nodes p.nodeIds) nodes) (i j : Nat) :
    parentIndex? nodes j = some i ↔ p.childIndex i j := by
  rw [childIndex, ← mem_edgesOf_nodeIds, ← h.parent_iff, parentIndex?, Option.map_eq_some_iff]
  constructor
  · rintro ⟨⟨k⟩, hk, rfl⟩
    exact hk
  · intro hi
    exact ⟨⟨i⟩, hi, rfl⟩

theorem Adopted.cycle?_eq_none_iff {p : Program} {nodes : Array SyntaxNode}
    (hrange : p.ChildrenInRange) (h : Adopted p.nodes (edgesOf p.nodes p.nodeIds) nodes) :
    cycle? nodes = none ↔ p.NoCircle := by
  have hup : (fun i j => parentIndex? nodes i = some j) = fun i j => p.childIndex j i := by
    funext i j
    exact propext (h.parentIndex?_iff j i)
  have hin : Within nodes.size fun i j => p.childIndex j i := by
    intro i j hij
    rw [h.size_eq]
    exact ⟨hrange _ _ hij, IsChild.parent_lt hij⟩
  rw [Program.cycle?_eq_none_iff (by rw [hup]; exact hin), hup, noCircle_iff]
  exact ⟨Acyclic.swap, Acyclic.swap⟩

/-! ## The whole of `link` -/

/-- Before any parent is entered. -/
theorem adopted_bare (nodes : Array SyntaxNode) : Adopted nodes [] (nodes.map orphan) := by
  refine ⟨?_, by simp, fun parent child => ?_⟩
  · rw [Array.map_map]
    rfl
  · simp only [parentAt, Array.getElem?_map, List.not_mem_nil, iff_false]
    cases nodes[child.index]? <;> simp [orphan]

theorem link_eq_of_failure {p : Program} {nodes : Array SyntaxNode} {failure : LinkFailure}
    (h : adoptAll p.nodeIds (p.nodes.map orphan) = (nodes, some failure)) :
    p.link = .error failure := by
  have hrelink : p.relink = ({ p with nodes }, some failure) := by
    rw [relink, h]
  rw [link, hrelink]

theorem link_eq_of_entered {p : Program} {nodes : Array SyntaxNode}
    (h : adoptAll p.nodeIds (p.nodes.map orphan) = (nodes, none)) :
    p.link = (cycle? nodes).elim (.ok { p with nodes }) fun i => .error (.invalid (.cycle i)) := by
  have hrelink :
      p.relink = ({ p with nodes }, (cycle? nodes).map fun i => .invalid (.cycle i)) := by
    rw [relink, h]
  rw [link, hrelink]
  cases cycle? nodes <;> rfl

/-- What `link` does: it stops at the first clash of two edges, or at a circle, or returns the
program with the parents that its edges give. -/
theorem link_cases {p : Program} (hrange : p.ChildrenInRange) :
    (∃ first second child, Clash (edgesOf p.nodes p.nodeIds) first second child ∧
      p.link = .error (.invalid (.sharedChild child.index first.index second.index))) ∨
    ∃ nodes, Adopted p.nodes (edgesOf p.nodes p.nodeIds) nodes ∧
      ((p.NoCircle ∧ p.link = .ok { p with nodes }) ∨
        ¬ p.NoCircle ∧ ∃ i, p.link = .error (.invalid (.cycle i))) := by
  have hentered := adoptAll_entered p.nodeIds (fun i c hc => hrange ⟨i⟩ c hc)
    (adopted_bare p.nodes)
  rw [List.nil_append] at hentered
  rcases hres : adoptAll p.nodeIds (p.nodes.map orphan) with ⟨nodes, failure?⟩
  rw [hres] at hentered
  rcases hentered with ⟨hnone, hadopted⟩ | ⟨first, second, child, hclash, hfail⟩
  · simp only at hnone hadopted
    subst hnone
    right
    refine ⟨nodes, hadopted, ?_⟩
    have hlink := link_eq_of_entered hres
    have hcycle := hadopted.cycle?_eq_none_iff hrange
    cases hc : cycle? nodes with
    | none =>
      rw [hc] at hlink
      exact Or.inl ⟨hcycle.mp hc, hlink⟩
    | some i =>
      rw [hc] at hlink
      have hno : ¬ p.NoCircle := fun hno => by simp [hcycle.mpr hno] at hc
      exact Or.inr ⟨hno, i, hlink⟩
  · simp only at hfail
    subst hfail
    exact Or.inl ⟨first, second, child, hclash, link_eq_of_failure hres⟩

/-- The entries of all child lists, node by node. -/
theorem childrenInRange_iff {p : Program} :
    p.ChildrenInRange ↔ ∀ node ∈ p.nodes.toList, ∀ child ∈ node.kind.children,
      child.index < p.nodes.size := by
  constructor
  · intro h node hnode child hchild
    obtain ⟨i, hi, rfl⟩ := List.getElem_of_mem hnode
    have hget : p.nodes[i]? = some p.nodes.toList[i] := by simp at hi; simp [hi]
    exact h ⟨i⟩ child (by rw [IsChild, childrenAt, hget]; exact hchild)
  · intro h parent child hchild
    have hparent := IsChild.parent_lt hchild
    rw [IsChild, childrenAt, Array.getElem?_eq_getElem hparent] at hchild
    exact h _ (Array.getElem_mem_toList hparent) child hchild

/-- A linked program: its parents are entered and it has no circle. -/
theorem adopted_of_link {p q : Program} (hrange : p.ChildrenInRange) (h : p.link = .ok q) :
    ∃ nodes, Adopted p.nodes (edgesOf p.nodes p.nodeIds) nodes ∧ p.NoCircle ∧
      q = { p with nodes } := by
  rcases link_cases hrange with ⟨_, _, _, _, herr⟩ | ⟨nodes, hadopted, ⟨hno, hok⟩ | ⟨_, _, herr⟩⟩
  · rw [herr] at h
    cases h
  · rw [hok] at h
    cases h
    exact ⟨nodes, hadopted, hno, rfl⟩
  · rw [herr] at h
    cases h

/-- Two edges that clash come from two child lists, in order, or from two places of one. -/
theorem Clash.listed {p : Program} {first second child : NodeId}
    (h : Clash (edgesOf p.nodes p.nodeIds) first second child) :
    first.index ≤ second.index ∧ p.IsChild first child ∧ p.IsChild second child ∧
      (first = second → 2 ≤ (childrenAt p.nodes first.index).count child) := by
  obtain ⟨before, after, hedges, hfirst⟩ := h
  have hsorted := edgesOf_nodeIds_sorted p
  have hmem₁ : (first, child) ∈ edgesOf p.nodes p.nodeIds := by rw [hedges]; simp [hfirst]
  have hmem₂ : (second, child) ∈ edgesOf p.nodes p.nodeIds := by rw [hedges]; simp
  rw [hedges, List.pairwise_append] at hsorted
  refine ⟨hsorted.2.2 _ hfirst (second, child) (by simp), mem_edgesOf_nodeIds.mp hmem₁,
    mem_edgesOf_nodeIds.mp hmem₂, fun heq => ?_⟩
  subst heq
  have hids : p.nodeIds.Nodup := by
    rw [nodeIds]
    exact List.nodup_range.map fun a b hab => by simpa using hab
  have hle := count_edgesOf p.nodes hids first child
  have hpos : 0 < before.count (first, child) := List.count_pos_iff.mpr hfirst
  rw [hedges, List.count_append, List.count_cons_self] at hle
  omega

/-- `link` accepts exactly the forests, and the links it computes are the child lists read
backwards. Nothing else in the program changes. The parents that the program had before play no
part: neither the condition nor the result depends on them. A clash that it reports is a real
one. -/
theorem link_accepts_exactly_forests (p : Program) (hrange : p.ChildrenInRange) :
    ((∃ q, p.link = .ok q) ↔ p.listedChildren.Nodup ∧ p.NoCircle) ∧
    (∀ q, p.link = .ok q →
      ({ q with nodes := q.nodes.map orphan } : Program) = { p with nodes := p.nodes.map orphan } ∧
      ∀ parent child : NodeId,
        parentAt q.nodes child.index = some parent ↔ q.IsChild parent child) ∧
    ∀ child first second, p.link = .error (.invalid (.sharedChild child first second)) →
      first ≤ second ∧ p.IsChild ⟨first⟩ ⟨child⟩ ∧ p.IsChild ⟨second⟩ ⟨child⟩ ∧
        (first = second → 2 ≤ (childrenAt p.nodes first).count ⟨child⟩) := by
  have hlisted := map_snd_edgesOf_nodeIds p
  refine ⟨⟨?_, ?_⟩, ?_, ?_⟩
  · rintro ⟨q, hq⟩
    obtain ⟨nodes, hadopted, hno, -⟩ := adopted_of_link hrange hq
    exact ⟨by rw [← hlisted]; exact hadopted.nodup, hno⟩
  · rintro ⟨hnodup, hno⟩
    rcases link_cases hrange with ⟨_, _, _, hclash, _⟩ | ⟨nodes, -, ⟨_, hok⟩ | ⟨hcirc, _⟩⟩
    · exact absurd (by rw [hlisted]; exact hnodup) hclash.not_nodup
    · exact ⟨_, hok⟩
    · exact absurd hno hcirc
  · intro q hq
    obtain ⟨nodes, hadopted, -, rfl⟩ := adopted_of_link hrange hq
    refine ⟨by simp only [hadopted.frame], fun parent child => ?_⟩
    rw [hadopted.parent_iff, mem_edgesOf_nodeIds, IsChild, IsChild, hadopted.childrenAt_eq]
  · intro child first second herr
    rcases link_cases hrange with
      ⟨first', second', child', hclash, herr'⟩ | ⟨nodes, -, ⟨_, hok⟩ | ⟨_, i, hcycle⟩⟩
    · rw [herr'] at herr
      cases herr
      obtain ⟨hle, h₁, h₂, htwice⟩ := hclash.listed
      exact ⟨hle, h₁, h₂, fun heq => htwice (by cases first'; cases second'; simp_all)⟩
    · rw [hok] at herr
      cases herr
    · rw [hcycle] at herr
      cases herr

/-- A hook whose replacement yields the call of the replaced method, in parentheses, with the
parents that its nodes claim to have. -/
def hookProgram (parents : Nat → Option NodeId) : Program :=
  let kinds : List NodeKind :=
    [.compilationUnit [⟨1⟩], .objectCreation "Hook" [⟨7⟩, ⟨2⟩] (some ⟨0⟩),
      .anonymousFunction .lambda [] [] ⟨3⟩ (some ⟨0⟩), .block [⟨4⟩], .yieldReturn ⟨5⟩,
      .parenthesized ⟨6⟩, .invocation ⟨8⟩ [] none [], .identifier "target" none,
      .identifier "orig" none]
  { assembly := "Mod"
    files := #[{ path := "Hook.cs" }]
    types := #[{ name := "Hook", assembly := "Loader" }]
    methods := #[
      { name := ""
        kind := .anonymousFunction
        parameters := [{ name := "orig" }]
        declaration := some ⟨2⟩ }]
    nodes := (kinds.mapIdx fun i kind =>
      { file := ⟨0⟩
        span := { startByte := i, endByte := i + 1, startLine := 1, startColumn := i }
        parent := parents i
        kind }).toArray }

/-- The parents that the nodes of `hookProgram` really have. -/
def hookParents (i : Nat) : Option NodeId :=
  [none, some ⟨0⟩, some ⟨1⟩, some ⟨2⟩, some ⟨3⟩, some ⟨4⟩, some ⟨5⟩, some ⟨1⟩, some ⟨6⟩].getD i none

theorem link_hookProgram :
    (hookProgram fun _ => some ⟨7⟩).ChildrenInRange ∧
      (hookProgram fun _ => some ⟨7⟩).listedChildren.Nodup ∧
      (hookProgram fun _ => some ⟨7⟩).NoCircle ∧
      (hookProgram fun _ => some ⟨7⟩).link = .ok (hookProgram hookParents) ∧
      (hookProgram hookParents).IsChild ⟨6⟩ ⟨8⟩ := by
  have hrange : (hookProgram fun _ => some ⟨7⟩).ChildrenInRange :=
    childrenInRange_iff.mpr (by decide)
  have hlink : (hookProgram fun _ => some ⟨7⟩).link = .ok (hookProgram hookParents) := by
    decide +kernel
  obtain ⟨hforest, hparents, -⟩ := link_accepts_exactly_forests _ hrange
  obtain ⟨hnodup, hno⟩ := hforest.mp ⟨_, hlink⟩
  exact ⟨hrange, hnodup, hno, hlink, ((hparents _ hlink).2 ⟨6⟩ ⟨8⟩).mp (by decide)⟩

end ModLint.Program
