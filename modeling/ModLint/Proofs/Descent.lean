import ModLint.Proofs.Loaded

/-!
# What the walk down lists

The walk down keeps a stack. Its result can be told without one, by a relation that goes down the
tree: the nodes of a list that are entered, each followed by what is listed below it. In a loaded
program the walk from a node lists this node and what is listed below it. Two facts follow by
induction on the relation. The walk lists exactly the nodes that can be reached over nodes that are
entered, and it lists no node twice, because different subtrees of a forest do not meet.
-/

namespace ModLint.Program

open Relation

/-- A node that a walk enters: its kind does not satisfy `stop`. -/
def IsEntered (p : Program) (stop : NodeKind → Bool) (id : NodeId) : Prop :=
  ∃ node, p.node id = .ok node ∧ stop node.kind = false

/-- A step of a walk: from a node to a child that is entered. -/
def Enters (p : Program) (stop : NodeKind → Bool) (parent child : NodeId) : Prop :=
  p.IsChild parent child ∧ p.IsEntered stop child

/-- What a walk lists for the nodes of a list and what lies below them. -/
inductive Descent (p : Program) (stop : NodeKind → Bool) : List NodeId → List NodeId → Prop where
  | nil : Descent p stop [] []
  | skip {id : NodeId} {node : SyntaxNode} {rest ids : List NodeId} (hnode : p.node id = .ok node)
    (hstop : stop node.kind = true) (hrest : Descent p stop rest ids) :
    Descent p stop (id :: rest) ids
  | enter {id : NodeId} {node : SyntaxNode} {rest below after : List NodeId}
    (hnode : p.node id = .ok node) (henter : stop node.kind = false)
    (hbelow : Descent p stop node.kind.children below) (hrest : Descent p stop rest after) :
    Descent p stop (id :: rest) (id :: (below ++ after))

variable {p : Program} {stop : NodeKind → Bool}

theorem isChild_iff_of_node {id child : NodeId} {node : SyntaxNode} (hnode : p.node id = .ok node) :
    p.IsChild id child ↔ child ∈ node.kind.children := by
  rw [IsChild, childrenAt, fetch_eq_ok_iff.mp hnode]
  rfl

/-! ## From the stack to the relation -/

theorem Descent.of_append {xs ys ids : List NodeId} (h : Descent p stop (xs ++ ys) ids) :
    ∃ below after, ids = below ++ after ∧ Descent p stop xs below ∧ Descent p stop ys after := by
  induction xs generalizing ids with
  | nil => exact ⟨[], ids, rfl, .nil, h⟩
  | cons id xs ih =>
    cases h with
    | skip hnode hstop hrest =>
      obtain ⟨below, after, rfl, hbelow, hafter⟩ := ih hrest
      exact ⟨below, after, rfl, .skip hnode hstop hbelow, hafter⟩
    | @enter _ node _ inner _ hnode henter hinner hrest =>
      obtain ⟨below, after, rfl, hbelow, hafter⟩ := ih hrest
      refine ⟨id :: (inner ++ below), after, ?_, .enter hnode henter hinner hbelow, hafter⟩
      simp

/-- Below the root the walk treats all nodes alike, so there its stack is gone through as the
relation says. -/
theorem descent_of_visit {root : NodeId} {bound : Nat} {stack ids : List NodeId}
    (h : p.visit root stop bound stack = .ok ids)
    (hroot : ∀ id ∈ stack, ¬ ReflTransGen p.IsChild id root) : Descent p stop stack ids := by
  induction bound generalizing stack ids with
  | zero =>
    cases stack with
    | nil =>
      cases h
      exact .nil
    | cons id stack => cases h
  | succ bound ih =>
    cases stack with
    | nil =>
      cases h
      exact .nil
    | cons id stack =>
      have hne : id ≠ root := by
        intro heq
        rw [heq] at hroot
        exact hroot root (by simp) .refl
      have hrest : ∀ a ∈ stack, ¬ ReflTransGen p.IsChild a root := fun a ha =>
        hroot a (by simp [ha])
      rw [visit] at h
      obtain ⟨node, hnode, h⟩ := lookup_bind_eq_ok.mp h
      by_cases hstop : stop node.kind = true
      · rw [if_pos (by simp [hne, hstop])] at h
        exact .skip hnode hstop (ih h hrest)
      · rw [if_neg (by simp [hstop])] at h
        obtain ⟨listed, hlisted, h⟩ := lookup_bind_eq_ok.mp h
        cases h
        have hboth : ∀ a ∈ node.kind.children ++ stack, ¬ ReflTransGen p.IsChild a root := by
          intro a ha hreach
          rcases List.mem_append.mp ha with hchild | hmem
          · exact hroot id (by simp) (.head ((isChild_iff_of_node hnode).mpr hchild) hreach)
          · exact hrest a hmem hreach
        obtain ⟨below, after, rfl, hbelow, hafter⟩ := (ih hlisted hboth).of_append
        exact .enter hnode (by simpa using hstop) hbelow hafter

/-- The walk from a node lists the node, entered or not, and what is listed below it. -/
theorem Loaded.descent (h : p.Loaded) {id : NodeId} {ids : List NodeId}
    (hids : p.descendantsUntil id stop = .ok ids) :
    ∃ node below, p.node id = .ok node ∧ ids = id :: below ∧
      Descent p stop node.kind.children below := by
  rw [Program.descendantsUntil] at hids
  cases hbound : p.walkBound with
  | zero =>
    rw [hbound] at hids
    cases hids
  | succ bound =>
    rw [hbound, Program.visit] at hids
    obtain ⟨node, hnode, hids⟩ := lookup_bind_eq_ok.mp hids
    rw [if_neg (by simp), List.append_nil] at hids
    obtain ⟨below, hbelow, hids⟩ := lookup_bind_eq_ok.mp hids
    cases hids
    refine ⟨node, below, hnode, rfl, descent_of_visit hbelow ?_⟩
    intro child hchild hreach
    exact h.noCircle id (.head' ((isChild_iff_of_node hnode).mpr hchild) hreach)

/-! ## Which nodes are listed -/

theorem Descent.mem_iff {roots ids : List NodeId} (h : Descent p stop roots ids) {d : NodeId} :
    d ∈ ids ↔ ∃ root ∈ roots, p.IsEntered stop root ∧ ReflTransGen (p.Enters stop) root d := by
  induction h with
  | nil => simp
  | @skip id node rest ids hnode hstop hrest ih =>
    have hskip : ¬ p.IsEntered stop id := by
      rintro ⟨node', hnode', henter⟩
      obtain rfl := lookup_unique hnode hnode'
      rw [hstop] at henter
      cases henter
    rw [ih]
    constructor
    · rintro ⟨root, hroot, hreach⟩
      exact ⟨root, by simp [hroot], hreach⟩
    · rintro ⟨root, hroot, hentered, hreach⟩
      rcases List.mem_cons.mp hroot with rfl | hroot
      · exact absurd hentered hskip
      · exact ⟨root, hroot, hentered, hreach⟩
  | @enter id node rest below after hnode henter hbelow hrest ihbelow ihrest =>
    rw [List.mem_cons, List.mem_append, ihbelow, ihrest]
    constructor
    · rintro (rfl | ⟨child, hchild, hentered, hreach⟩ | ⟨root, hroot, hreach⟩)
      · exact ⟨d, by simp, ⟨node, hnode, henter⟩, .refl⟩
      · have hstep : p.Enters stop id child := ⟨(isChild_iff_of_node hnode).mpr hchild, hentered⟩
        exact ⟨id, by simp, ⟨node, hnode, henter⟩, .head hstep hreach⟩
      · exact ⟨root, by simp [hroot], hreach⟩
    · rintro ⟨root, hroot, hentered, hreach⟩
      rcases List.mem_cons.mp hroot with rfl | hroot
      · rcases hreach.cases_head with heq | ⟨child, ⟨hchild, hopen⟩, hrest⟩
        · exact Or.inl heq.symm
        · exact Or.inr (Or.inl ⟨child, (isChild_iff_of_node hnode).mp hchild, hopen, hrest⟩)
      · exact Or.inr (Or.inr ⟨root, hroot, hentered, hreach⟩)

/-- The walk from a node lists what can be reached from it over nodes that are entered. -/
theorem Loaded.mem_descendantsUntil_iff (h : p.Loaded) {id d : NodeId} {ids : List NodeId}
    (hids : p.descendantsUntil id stop = .ok ids) :
    d ∈ ids ↔ ReflTransGen (p.Enters stop) id d := by
  obtain ⟨node, below, hnode, rfl, hbelow⟩ := h.descent hids
  rw [List.mem_cons, hbelow.mem_iff, ReflTransGen.cases_head_iff]
  constructor
  · rintro (rfl | ⟨child, hchild, hentered, hreach⟩)
    · exact Or.inl rfl
    · exact Or.inr ⟨child, ⟨(isChild_iff_of_node hnode).mpr hchild, hentered⟩, hreach⟩
  · rintro (rfl | ⟨child, ⟨hchild, hentered⟩, hreach⟩)
    · exact Or.inl rfl
    · exact Or.inr ⟨child, (isChild_iff_of_node hnode).mp hchild, hentered, hreach⟩

/-- The walk that enters everything lists all nodes below a node. -/
theorem Loaded.mem_descendants_iff (h : p.Loaded) {id d : NodeId} {ids : List NodeId}
    (hids : p.descendants id = .ok ids) : d ∈ ids ↔ ReflTransGen p.IsChild id d := by
  have hsteps : p.Enters (fun _ => false) = p.IsChild := by
    funext parent child
    refine propext ⟨fun hstep => hstep.1, fun hchild => ⟨hchild, ?_⟩⟩
    have hlt := childrenInRange_of_inRange h.inRange parent child hchild
    exact ⟨_, fetch_eq_ok_iff.mpr (Array.getElem?_eq_getElem hlt), rfl⟩
  rw [h.mem_descendantsUntil_iff hids, hsteps]

/-! ## No node is listed twice -/

/-- Two nodes below which no node is the same. -/
def Apart (p : Program) (a b : NodeId) : Prop :=
  ∀ d, ReflTransGen p.IsChild a d → ¬ ReflTransGen p.IsChild b d

theorem Loaded.parent_unique (h : p.Loaded) {a b child : NodeId} (ha : p.IsChild a child)
    (hb : p.IsChild b child) : a = b := by
  rw [← h.parent_iff] at ha hb
  exact Option.some.inj (ha.symm.trans hb)

/-- Two children of one node have nothing in common: a node below both would make one of them an
ancestor of the other one, and so their parent an ancestor of itself. -/
theorem Loaded.children_apart (h : p.Loaded) {id a b : NodeId} (ha : p.IsChild id a)
    (hb : p.IsChild id b) (hne : a ≠ b) : p.Apart a b := by
  have habove : ∀ x y : NodeId, p.IsChild id x → p.IsChild id y → x ≠ y →
      ¬ ReflTransGen p.IsChild x y := by
    intro x y hx hy hxy hreach
    rcases hreach.cases_tail with heq | ⟨parent, hparent, hstep⟩
    · exact hxy heq.symm
    · obtain rfl := h.parent_unique hstep hy
      exact h.noCircle parent (.head' hx hparent)
  have hup : Relator.RightUnique (Function.swap p.IsChild) := fun _ _ _ => h.parent_unique
  intro d had hbd
  rcases ReflTransGen.total_of_right_unique hup (reflTransGen_swap.mpr had)
    (reflTransGen_swap.mpr hbd) with hreach | hreach
  · exact habove b a hb ha hne.symm (reflTransGen_swap.mp hreach)
  · exact habove a b ha hb hne (reflTransGen_swap.mp hreach)

theorem Descent.reaches {roots ids : List NodeId} (h : Descent p stop roots ids) {d : NodeId}
    (hd : d ∈ ids) : ∃ root ∈ roots, ReflTransGen p.IsChild root d := by
  obtain ⟨root, hroot, -, hreach⟩ := h.mem_iff.mp hd
  exact ⟨root, hroot, ReflTransGen.mono (fun _ _ hstep => hstep.1) _ _ hreach⟩

theorem children_nodup (hlisted : p.listedChildren.Nodup) {id : NodeId} {node : SyntaxNode}
    (hnode : p.node id = .ok node) : node.kind.children.Nodup := by
  have hmem : node ∈ p.nodes.toList :=
    Array.mem_def.mp (Array.mem_of_getElem? (fetch_eq_ok_iff.mp hnode))
  rw [listedChildren, List.flatMap_def] at hlisted
  exact hlisted.sublist (List.sublist_flatten_of_mem (List.mem_map.mpr ⟨node, hmem, rfl⟩))

theorem Loaded.children_pairwise_apart (h : p.Loaded) (hlisted : p.listedChildren.Nodup)
    {id : NodeId} {node : SyntaxNode} (hnode : p.node id = .ok node) :
    node.kind.children.Pairwise p.Apart := by
  refine (children_nodup hlisted hnode).imp_of_mem ?_
  intro a b ha hb hne
  exact h.children_apart ((isChild_iff_of_node hnode).mpr ha) ((isChild_iff_of_node hnode).mpr hb)
    hne

theorem Descent.nodup (h : p.Loaded) (hlisted : p.listedChildren.Nodup) {roots ids : List NodeId}
    (hdescent : Descent p stop roots ids) (hroots : roots.Pairwise p.Apart) : ids.Nodup := by
  induction hdescent with
  | nil => exact List.nodup_nil
  | skip hnode hstop hrest ih => exact ih (List.pairwise_cons.mp hroots).2
  | @enter id node rest below after hnode henter hbelow hrest ihbelow ihrest =>
    obtain ⟨hapart, hroots⟩ := List.pairwise_cons.mp hroots
    have hbelowNodup := ihbelow (h.children_pairwise_apart hlisted hnode)
    have hunder : ∀ d ∈ below, TransGen p.IsChild id d := by
      intro d hd
      obtain ⟨child, hchild, hreach⟩ := hbelow.reaches hd
      exact .head' ((isChild_iff_of_node hnode).mpr hchild) hreach
    have hbeside : ∀ d ∈ after, ¬ ReflTransGen p.IsChild id d := by
      intro d hd hreach
      obtain ⟨root, hroot, hreach'⟩ := hrest.reaches hd
      exact hapart root hroot d hreach hreach'
    rw [List.nodup_cons, List.mem_append, List.nodup_append]
    refine ⟨?_, hbelowNodup, ihrest hroots, ?_⟩
    · rintro (hmem | hmem)
      · exact h.noCircle id (hunder id hmem)
      · exact hbeside id hmem .refl
    · intro a ha b hb hab
      rw [hab] at ha
      exact hbeside b hb (hunder b ha).to_reflTransGen

theorem Loaded.nodup_descendantsUntil (h : p.Loaded) (hlisted : p.listedChildren.Nodup)
    {id : NodeId} {ids : List NodeId} (hids : p.descendantsUntil id stop = .ok ids) :
    ids.Nodup := by
  obtain ⟨node, below, hnode, rfl, hbelow⟩ := h.descent hids
  refine List.nodup_cons.mpr ⟨?_, hbelow.nodup h hlisted (h.children_pairwise_apart hlisted hnode)⟩
  intro hmem
  obtain ⟨child, hchild, hreach⟩ := hbelow.reaches hmem
  exact h.noCircle id (.head' ((isChild_iff_of_node hnode).mpr hchild) hreach)

/-- The child lists of a program that was linked name no node twice. -/
theorem listedChildren_nodup_of_link {q : Program} (hcheck : p.check = .ok ())
    (hlink : p.link = .ok q) : q.listedChildren.Nodup := by
  obtain ⟨nodes, hadopted, -, rfl⟩ :=
    adopted_of_link (childrenInRange_of_inRange (inRange_of_check hcheck)) hlink
  have hkept : ({ p with nodes } : Program).listedChildren = p.listedChildren := by
    have hchildren : ∀ items : Array SyntaxNode, items.toList.flatMap (·.kind.children) =
        (items.map orphan).toList.flatMap (·.kind.children) := by
      intro items
      rw [Array.toList_map, List.flatMap_map]
      rfl
    rw [listedChildren, listedChildren, hchildren, hadopted.frame, ← hchildren]
  rw [hkept, ← map_snd_edgesOf_nodeIds]
  exact hadopted.nodup

end ModLint.Program
