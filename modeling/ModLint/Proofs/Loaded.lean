import Mathlib.Algebra.Order.BigOperators.Group.List
import Mathlib.Algebra.Order.Ring.Nat
import ModLint.Check.Hooks
import ModLint.Program.Walk
import ModLint.Proofs.References

/-!
# Loaded programs

A program that has been checked and linked is *loaded*: its ids point into their arenas, its
parents are its child lists read backwards, and it has no circle. In a loaded program every id can
be looked up, and the walks along the syntax end before their bounds are met.
-/

namespace ModLint.Program

open Relation

/-- What is known about a program that has been checked and linked. -/
structure Loaded (p : Program) : Prop where
  inRange : p.InRange
  parent_iff : ∀ parent child : NodeId,
    parentAt p.nodes child.index = some parent ↔ p.IsChild parent child
  noCircle : p.NoCircle

/-! ## Loading -/

theorem inRange_of_check {p : Program} (h : p.check = .ok ()) : p.InRange := by
  rw [← dangling?_eq_none_iff]
  cases hd : p.dangling? with
  | none => rfl
  | some error => simp [check, hd] at h

theorem childrenInRange_of_inRange {p : Program} (h : p.InRange) : p.ChildrenInRange := by
  intro parent child hchild
  have hparent := IsChild.parent_lt hchild
  rw [IsChild, childrenAt, Array.getElem?_eq_getElem hparent] at hchild
  exact (h.nodes _ (Array.getElem_mem hparent)).children child hchild

/-- `check` does not look at parents. -/
theorem check_with_nodes {p : Program} {nodes : Array SyntaxNode}
    (h : nodes.map orphan = p.nodes.map orphan) : ({ p with nodes } : Program).check = p.check := by
  have hsize : nodes.size = p.nodes.size := by simpa using congrArg Array.size h
  have hsizes : ∀ arena, ({ p with nodes } : Program).size arena = p.size arena := by
    intro arena
    cases arena with
    | node => exact hsize
    | _ => rfl
  have hresolves : ({ p with nodes } : Program).resolves = p.resolves := by
    funext reference
    rw [resolves, resolves, hsizes]
  let describe (i : Nat) (node : SyntaxNode) : Owner × List Reference :=
    (.node i node.kind.name, node.references)
  have hnodes : nodes.toList.mapIdx describe = p.nodes.toList.mapIdx describe := by
    have hdescribe : ∀ items : Array SyntaxNode,
        items.toList.mapIdx describe = (items.map orphan).toList.mapIdx describe := by
      intro items
      apply List.ext_getElem?
      intro i
      rw [List.getElem?_mapIdx, List.getElem?_mapIdx, Array.toList_map, List.getElem?_map]
      cases items.toList[i]? <;> rfl
    rw [hdescribe, h, ← hdescribe]
  have howners : ({ p with nodes } : Program).owners = p.owners := by
    rw [owners, owners]
    exact congrArg _ hnodes
  have hreturns : ∀ link start steps current,
      ({ p with nodes } : Program).linkReturns link start steps current =
        p.linkReturns link start steps current := by
    intro link start steps
    induction steps with
    | zero => intro current; cases current <;> rfl
    | succ steps ih =>
      intro current
      cases current with
      | none => rfl
      | some id => simp only [linkReturns, ih]
  have hdangling : ({ p with nodes } : Program).dangling? = p.dangling? := by
    simp only [dangling?, howners, hresolves]
  have hcycle : ({ p with nodes } : Program).typeCycle? = p.typeCycle? := by
    simp only [typeCycle?, hreturns]
  rw [check, check, hdangling, hcycle]

/-- `link` does not look at the parents that are there already. -/
theorem link_with_nodes {p : Program} {nodes : Array SyntaxNode}
    (h : nodes.map orphan = p.nodes.map orphan) : ({ p with nodes } : Program).link = p.link := by
  have hsize : nodes.size = p.nodes.size := by simpa using congrArg Array.size h
  have hids : ({ p with nodes } : Program).nodeIds = p.nodeIds := by
    rw [nodeIds, nodeIds, hsize]
  have hrelink : ({ p with nodes } : Program).relink = p.relink := by
    rw [relink, relink, hids, h]
  rw [link, link, hrelink]

/-- A program that is checked and then linked is loaded. -/
theorem loaded_of_link {p q : Program} (hcheck : p.check = .ok ()) (hlink : p.link = .ok q) :
    q.Loaded := by
  have hrange := childrenInRange_of_inRange (inRange_of_check hcheck)
  obtain ⟨nodes, hadopted, hno, rfl⟩ := adopted_of_link hrange hlink
  have hchild : ∀ parent child, ({ p with nodes } : Program).IsChild parent child ↔
      p.IsChild parent child := by
    intro parent child
    rw [IsChild, IsChild, hadopted.childrenAt_eq]
  refine ⟨?_, fun parent child => ?_, fun id hid => hno id ?_⟩
  · apply inRange_of_check
    rw [check_with_nodes hadopted.frame, hcheck]
  · rw [hadopted.parent_iff, mem_edgesOf_nodeIds, hchild]
  · exact TransGen.mono (fun a b hab => (hchild a b).mp hab) _ _ hid

/-! ## Looking up -/

theorem fetch_eq_ok_iff {α : Type} {items : Array α} {arena : Arena} {id : ItemId arena}
    {item : α} : fetch items id = .ok item ↔ items[id.index]? = some item := by
  unfold fetch
  cases items[id.index]? <;> simp

theorem lt_size_of_fetch {α : Type} {items : Array α} {arena : Arena} {id : ItemId arena}
    {item : α} (h : fetch items id = .ok item) : id.index < items.size :=
  (Array.getElem?_eq_some_iff.mp (fetch_eq_ok_iff.mp h)).1

theorem fetch_answers {α : Type} {items : Array α} {arena : Arena} {id : ItemId arena}
    (h : id.index < items.size) : Answers (fetch items id) (· ∈ items) := by
  rw [fetch, Array.getElem?_eq_getElem h]
  exact Answers.ok (Array.getElem_mem h)

namespace InRange

variable {p : Program} (h : p.InRange)

include h

theorem nameSpace {id : NamespaceId} (hid : p.Has id) :
    Answers (p.nameSpace id) fun space => ∀ parent, space.parent = some parent → p.Has parent :=
  (fetch_answers hid).mono h.namespaces

theorem type {id : TypeId} (hid : p.Has id) :
    Answers (p.type id) (TypeSymbol.IdsBelow p.size) :=
  (fetch_answers hid).mono h.types

theorem method {id : MethodId} (hid : p.Has id) :
    Answers (p.method id) (MethodSymbol.IdsBelow p.size) :=
  (fetch_answers hid).mono h.methods

theorem property {id : PropertyId} (hid : p.Has id) :
    Answers (p.property id) fun symbol => p.Has symbol.containingType :=
  (fetch_answers hid).mono h.properties

theorem event {id : EventId} (hid : p.Has id) :
    Answers (p.event id) fun symbol => p.Has symbol.containingType :=
  (fetch_answers hid).mono h.events

theorem node {id : NodeId} (hid : p.Has id) :
    Answers (p.node id) (SyntaxNode.IdsBelow p.size) :=
  (fetch_answers hid).mono h.nodes

theorem location {id : NodeId} (hid : p.Has id) : Answers (p.location id) fun _ => True := by
  rw [Program.location]
  refine (h.node hid).bind fun node hnode => ?_
  exact (fetch_answers hnode.file).bind fun file _ => Answers.pure trivial

end InRange

/-! ## Walks -/

theorem node_answers_at {p : Program} (h : p.InRange) {id : NodeId} (hid : p.Has id) :
    Answers (p.node id) fun node => p.nodes[id.index]? = some node ∧ node.IdsBelow p.size := by
  obtain ⟨node, hnode⟩ : ∃ node, p.nodes[id.index]? = some node :=
    ⟨_, Array.getElem?_eq_getElem hid⟩
  refine ⟨node, by simp [Program.node, fetch, hnode], hnode, ?_⟩
  exact h.nodes node (Array.mem_of_getElem? hnode)

theorem isChild_of_getElem? {p : Program} {id child : NodeId} {node : SyntaxNode}
    (hnode : p.nodes[id.index]? = some node) (hchild : child ∈ node.kind.children) :
    p.IsChild id child := by
  rw [IsChild, childrenAt, hnode]
  exact hchild

namespace Loaded

variable {p : Program} (h : p.Loaded)

include h

/-- The position of a child has a lower rank than that of its parent. -/
theorem exists_rank_down :
    ∃ rank : Nat → Nat, (∀ parent child : NodeId, p.IsChild parent child →
      rank child.index < rank parent.index) ∧ ∀ i, i < p.nodes.size → rank i < p.nodes.size := by
  have hin : Within p.nodes.size p.childIndex := by
    intro i j hij
    exact ⟨IsChild.parent_lt hij, childrenInRange_of_inRange h.inRange _ _ hij⟩
  obtain ⟨rank, hrank, hbound⟩ := exists_rank hin (noCircle_iff.mp h.noCircle)
  exact ⟨rank, fun parent child hc => hrank parent.index child.index hc, hbound⟩

/-- The position of a parent has a lower rank than that of its child. -/
theorem exists_rank_up :
    ∃ rank : Nat → Nat, (∀ parent child : NodeId, p.IsChild parent child →
      rank parent.index < rank child.index) ∧ ∀ i, i < p.nodes.size → rank i < p.nodes.size := by
  have hin : Within p.nodes.size fun i j => p.childIndex j i := by
    intro i j hij
    exact ⟨childrenInRange_of_inRange h.inRange _ _ hij, IsChild.parent_lt hij⟩
  obtain ⟨rank, hrank, hbound⟩ := exists_rank hin (noCircle_iff.mp h.noCircle).swap
  exact ⟨rank, fun parent child hc => hrank child.index parent.index hc, hbound⟩

theorem isChild_of_parent {id parent : NodeId} {node : SyntaxNode}
    (hnode : p.nodes[id.index]? = some node) (hparent : node.parent = some parent) :
    p.IsChild parent id := by
  rw [← h.parent_iff, parentAt, hnode]
  exact hparent

/-- The walk up ends at a root. -/
theorem ancestors {id : NodeId} (hid : p.Has id) :
    Answers (p.ancestors id) fun ids => ∀ a ∈ ids, p.Has a := by
  obtain ⟨rank, hrank, hbound⟩ := h.exists_rank_up
  have hfrom : ∀ (bound : Nat) (id? : Option NodeId),
      (∀ id, id? = some id → p.Has id ∧ rank id.index < bound) →
      Answers (parentsFrom p bound id?) fun ids => ∀ a ∈ ids, p.Has a := by
    intro bound
    induction bound with
    | zero =>
      intro id? hid?
      cases id? with
      | none => exact Answers.ok (by simp)
      | some id => exact absurd (hid? id rfl).2 (Nat.not_lt_zero _)
    | succ bound ih =>
      intro id? hid?
      cases id? with
      | none => exact Answers.ok (by simp)
      | some id =>
        obtain ⟨hid, hlt⟩ := hid? id rfl
        rw [parentsFrom]
        refine (node_answers_at h.inRange hid).bind fun node hnode => ?_
        have hparent : ∀ q, node.parent = some q → p.Has q ∧ rank q.index < bound := by
          intro q hq
          have hchild := h.isChild_of_parent hnode.1 hq
          have := hrank q id hchild
          exact ⟨IsChild.parent_lt hchild, by omega⟩
        refine (ih node.parent hparent).bind fun ids hids => ?_
        refine Answers.pure fun a ha => ?_
        rcases List.mem_cons.mp ha with rfl | ha
        · exact hid
        · exact hids a ha
  rw [Program.ancestors]
  refine (node_answers_at h.inRange hid).bind fun node hnode => ?_
  refine hfrom _ _ fun q hq => ?_
  have hq' := IsChild.parent_lt (h.isChild_of_parent hnode.1 hq)
  exact ⟨hq', hbound q.index hq'⟩

/-- The text of a name ends at an identifier or at something else. -/
theorem expressionText {id : NodeId} (hid : p.Has id) :
    Answers (p.expressionText id) fun _ => True := by
  obtain ⟨rank, hrank, hbound⟩ := h.exists_rank_down
  have hname : ∀ (bound : Nat) (id : NodeId), p.Has id → rank id.index < bound →
      Answers (nameText p bound id) fun _ => True := by
    intro bound
    induction bound with
    | zero => intro id _ hlt; exact absurd hlt (Nat.not_lt_zero _)
    | succ bound ih =>
      intro id hid hlt
      rw [nameText]
      refine (node_answers_at h.inRange hid).bind fun node ⟨hget, hnode⟩ => ?_
      have hchild : ∀ c ∈ node.kind.children, Answers (nameText p bound c) fun _ => True := by
        intro c hc
        have := hrank id c (isChild_of_getElem? hget hc)
        exact ih c (hnode.children c hc) (by omega)
      split
      · exact Answers.pure trivial
      · rename_i operand name symbol hk
        refine (hchild operand (by simp [hk, NodeKind.children])).bind fun text _ => ?_
        exact Answers.pure trivial
      · rename_i operand hk
        refine (hchild operand (by simp [hk, NodeKind.children])).bind fun text _ => ?_
        exact Answers.pure trivial
      · exact Answers.pure trivial
  have hlt := hbound id.index hid
  exact hname _ id hid (by omega)

/-- Removing parentheses ends. -/
theorem withoutParentheses {id : NodeId} (hid : p.Has id) :
    Answers (Check.Hooks.withoutParentheses p (p.nodes.size + 1) id) p.Has := by
  obtain ⟨rank, hrank, hbound⟩ := h.exists_rank_down
  have hinner : ∀ (bound : Nat) (id : NodeId), p.Has id → rank id.index < bound →
      Answers (Check.Hooks.withoutParentheses p bound id) p.Has := by
    intro bound
    induction bound with
    | zero => intro id _ hlt; exact absurd hlt (Nat.not_lt_zero _)
    | succ bound ih =>
      intro id hid hlt
      rw [Check.Hooks.withoutParentheses]
      refine (node_answers_at h.inRange hid).bind fun node ⟨hget, hnode⟩ => ?_
      split
      · rename_i operand hk
        have hmem : operand ∈ node.kind.children := by simp [hk, NodeKind.children]
        have := hrank id operand (isChild_of_getElem? hget hmem)
        exact ih operand (hnode.children operand hmem) (by omega)
      · exact Answers.pure hid
  have hlt := hbound id.index hid
  exact hinner _ id hid (by omega)

end Loaded

/-! ## The walk down

The cost of a stack is the number of its nodes, each weighted by a power of its rank. The base of
the powers exceeds the length of every child list, so that the children of a node together cost
less than the node itself. -/

/-- The base of the weights. -/
def weightBase (p : Program) : Nat :=
  (p.nodes.toList.flatMap fun node => node.kind.children).length + 2

/-- What it costs at most to visit the nodes of a stack and what lies below them. -/
def stackCost (p : Program) (rank : Nat → Nat) (stack : List NodeId) : Nat :=
  (stack.map fun id => p.weightBase ^ rank id.index).sum

theorem stackCost_append (p : Program) (rank : Nat → Nat) (xs ys : List NodeId) :
    p.stackCost rank (xs ++ ys) = p.stackCost rank xs + p.stackCost rank ys := by
  simp [stackCost]

theorem length_children_lt_weightBase {p : Program} {node : SyntaxNode} (h : node ∈ p.nodes) :
    node.kind.children.length < p.weightBase := by
  have hmem : node.kind.children ∈ p.nodes.toList.map fun node => node.kind.children :=
    List.mem_map.mpr ⟨node, Array.mem_def.mp h, rfl⟩
  have hle := (List.sublist_flatten_of_mem hmem).length_le
  rw [weightBase, List.flatMap_def]
  omega

/-- Nodes whose ranks are below `r` cost at most one power each. -/
theorem stackCost_le {p : Program} {rank : Nat → Nat} {stack : List NodeId} {r : Nat}
    (h : ∀ id ∈ stack, rank id.index ≤ r) :
    p.stackCost rank stack ≤ stack.length * p.weightBase ^ r := by
  have hbase : 0 < p.weightBase := by rw [weightBase]; omega
  rw [stackCost, ← List.length_map fun id : NodeId => p.weightBase ^ rank id.index]
  refine List.sum_le_card_nsmul _ _ fun x hx => ?_
  obtain ⟨id, hid, rfl⟩ := List.mem_map.mp hx
  exact Nat.pow_le_pow_right hbase (h id hid)

/-- The children of a node cost less than the node. -/
theorem stackCost_children_lt {p : Program} {rank : Nat → Nat}
    (hrank : ∀ parent child : NodeId, p.IsChild parent child → rank child.index < rank parent.index)
    {id : NodeId} {node : SyntaxNode} (hnode : p.nodes[id.index]? = some node) :
    p.stackCost rank node.kind.children < p.weightBase ^ rank id.index := by
  have hlow : ∀ c ∈ node.kind.children, rank c.index < rank id.index := fun c hc =>
    hrank id c (isChild_of_getElem? hnode hc)
  have hbase : 0 < p.weightBase := by rw [weightBase]; omega
  cases hr : rank id.index with
  | zero =>
    have hnil : node.kind.children = [] := by
      refine List.eq_nil_iff_forall_not_mem.mpr fun c hc => ?_
      have := hlow c hc
      omega
    simp [hnil, stackCost]
  | succ r =>
    have hlength := length_children_lt_weightBase (Array.mem_of_getElem? hnode)
    have hpow : 0 < p.weightBase ^ r := Nat.pow_pos hbase
    calc p.stackCost rank node.kind.children
        ≤ node.kind.children.length * p.weightBase ^ r :=
          stackCost_le fun c hc => by have := hlow c hc; omega
      _ < p.weightBase * p.weightBase ^ r := Nat.mul_lt_mul_of_pos_right hlength hpow
      _ = p.weightBase ^ (r + 1) := by rw [Nat.pow_succ, Nat.mul_comm]

namespace Loaded

variable {p : Program} (h : p.Loaded)

include h

/-- A walk with a bound that covers the cost of its stack ends. -/
theorem visit {rank : Nat → Nat}
    (hrank : ∀ parent child : NodeId, p.IsChild parent child → rank child.index < rank parent.index)
    (root : NodeId) (stop : NodeKind → Bool) (bound : Nat) (stack : List NodeId)
    (hstack : ∀ id ∈ stack, p.Has id) (hcost : p.stackCost rank stack ≤ bound) :
    Answers (visit p root stop bound stack) fun ids => ∀ a ∈ ids, p.Has a := by
  have hbase : 0 < p.weightBase := by rw [weightBase]; omega
  induction bound generalizing stack with
  | zero =>
    cases stack with
    | nil => exact Answers.ok (by simp)
    | cons id stack =>
      have hpow : 0 < p.weightBase ^ rank id.index := Nat.pow_pos hbase
      simp only [stackCost, List.map_cons, List.sum_cons] at hcost
      omega
  | succ bound ih =>
    cases stack with
    | nil => exact Answers.ok (by simp)
    | cons id stack =>
      have hid := hstack id (by simp)
      have hrest : ∀ a ∈ stack, p.Has a := fun a ha => hstack a (by simp [ha])
      have hcons : p.stackCost rank (id :: stack) =
          p.weightBase ^ rank id.index + p.stackCost rank stack := by simp [stackCost]
      have hpow : 0 < p.weightBase ^ rank id.index := Nat.pow_pos hbase
      rw [Program.visit]
      refine (node_answers_at h.inRange hid).bind fun node ⟨hget, hnode⟩ => ?_
      have hchildren := stackCost_children_lt hrank hget
      split
      · exact ih stack hrest (by omega)
      · refine (ih (node.kind.children ++ stack) ?_ ?_).bind fun ids hids => ?_
        · intro a ha
          exact (List.mem_append.mp ha).elim (hnode.children a) (hrest a)
        · rw [stackCost_append]
          omega
        · refine Answers.pure fun a ha => ?_
          rcases List.mem_cons.mp ha with rfl | ha
          · exact hid
          · exact hids a ha

/-- The walk down visits nodes of the program and ends. -/
theorem descendantsUntil {id : NodeId} (hid : p.Has id) (stop : NodeKind → Bool) :
    Answers (p.descendantsUntil id stop) fun ids => ∀ a ∈ ids, p.Has a := by
  obtain ⟨rank, hrank, hbound⟩ := h.exists_rank_down
  have hbase : 0 < p.weightBase := by rw [weightBase]; omega
  rw [Program.descendantsUntil]
  refine h.visit hrank id stop _ [id] (by simpa using hid) ?_
  have hle : p.weightBase ^ rank id.index ≤ p.walkBound :=
    Nat.pow_le_pow_right hbase (Nat.le_of_lt (hbound id.index hid))
  simpa [stackCost] using hle

end Loaded

/-! ## The bounds play no part

A walk that ends gives the same answer under every higher bound: it is the walk without a bound. -/

theorem visit_of_le {p : Program} {root : NodeId} {stop : NodeKind → Bool} {bound bound' : Nat}
    (hle : bound ≤ bound') {stack ids : List NodeId}
    (h : p.visit root stop bound stack = .ok ids) : p.visit root stop bound' stack = .ok ids := by
  induction bound generalizing bound' stack ids with
  | zero =>
    cases stack with
    | nil => cases bound' <;> exact h
    | cons id stack => cases h
  | succ bound ih =>
    obtain ⟨bound', rfl⟩ : ∃ b, bound' = b + 1 := ⟨bound' - 1, by omega⟩
    cases stack with
    | nil => exact h
    | cons id stack =>
      rw [visit] at h ⊢
      obtain ⟨node, hnode, h⟩ := lookup_bind_eq_ok.mp h
      refine lookup_bind_eq_ok.mpr ⟨node, hnode, ?_⟩
      split at h
      · rw [if_pos ‹_›]
        exact ih (by omega) h
      · rw [if_neg ‹_›]
        obtain ⟨rest, hrest, h⟩ := lookup_bind_eq_ok.mp h
        exact lookup_bind_eq_ok.mpr ⟨rest, ih (by omega) hrest, h⟩

theorem parentsFrom_of_le {p : Program} {bound bound' : Nat} (hle : bound ≤ bound')
    {id? : Option NodeId} {ids : List NodeId} (h : p.parentsFrom bound id? = .ok ids) :
    p.parentsFrom bound' id? = .ok ids := by
  induction bound generalizing bound' id? ids with
  | zero =>
    cases id? with
    | none => cases bound' <;> exact h
    | some id => cases h
  | succ bound ih =>
    obtain ⟨bound', rfl⟩ : ∃ b, bound' = b + 1 := ⟨bound' - 1, by omega⟩
    cases id? with
    | none => exact h
    | some id =>
      rw [parentsFrom] at h ⊢
      obtain ⟨node, hnode, h⟩ := lookup_bind_eq_ok.mp h
      obtain ⟨rest, hrest, h⟩ := lookup_bind_eq_ok.mp h
      exact lookup_bind_eq_ok.mpr
        ⟨node, hnode, lookup_bind_eq_ok.mpr ⟨rest, ih (by omega) hrest, h⟩⟩

theorem nameText_of_le {p : Program} {bound bound' : Nat} (hle : bound ≤ bound') {id : NodeId}
    {text : Option String} (h : p.nameText bound id = .ok text) :
    p.nameText bound' id = .ok text := by
  induction bound generalizing bound' id text with
  | zero => cases h
  | succ bound ih =>
    obtain ⟨bound', rfl⟩ : ∃ b, bound' = b + 1 := ⟨bound' - 1, by omega⟩
    rw [nameText] at h ⊢
    obtain ⟨node, hnode, h⟩ := lookup_bind_eq_ok.mp h
    refine lookup_bind_eq_ok.mpr ⟨node, hnode, ?_⟩
    cases hk : node.kind with
    | memberAccess operand name symbol =>
      rw [hk] at h
      obtain ⟨inner, hinner, h⟩ := lookup_bind_eq_ok.mp h
      exact lookup_bind_eq_ok.mpr ⟨inner, ih (by omega) hinner, h⟩
    | parenthesized operand =>
      rw [hk] at h
      obtain ⟨inner, hinner, h⟩ := lookup_bind_eq_ok.mp h
      exact lookup_bind_eq_ok.mpr ⟨inner, ih (by omega) hinner, h⟩
    | _ => rw [hk] at h; exact h

theorem withoutParentheses_of_le {p : Program} {bound bound' : Nat} (hle : bound ≤ bound')
    {id inner : NodeId} (h : Check.Hooks.withoutParentheses p bound id = .ok inner) :
    Check.Hooks.withoutParentheses p bound' id = .ok inner := by
  induction bound generalizing bound' id with
  | zero => cases h
  | succ bound ih =>
    obtain ⟨bound', rfl⟩ : ∃ b, bound' = b + 1 := ⟨bound' - 1, by omega⟩
    rw [Check.Hooks.withoutParentheses] at h ⊢
    obtain ⟨node, hnode, h⟩ := lookup_bind_eq_ok.mp h
    refine lookup_bind_eq_ok.mpr ⟨node, hnode, ?_⟩
    cases hk : node.kind with
    | parenthesized operand =>
      rw [hk] at h
      exact ih (by omega) h
    | _ => rw [hk] at h; exact h

end ModLint.Program
