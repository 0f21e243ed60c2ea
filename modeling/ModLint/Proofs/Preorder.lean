import ModLint.Proofs.Descent

/-!
# The walk down as a recursion

The nodes of a program stand in an array, so a recursion over what lies below a node is not one over
a piece of data. In a loaded program it ends all the same, because the child relation has no circle
there. The walk with a stack lists what this recursion lists. It also agrees with the walk up: a
node is listed exactly if the walk up from it comes to the start over nodes that are entered.
-/

namespace ModLint.Program

open Relation

variable {p : Program} {stop : NodeKind → Bool}

/-- Whether a walk stops at a node. -/
def stopsAt (p : Program) (stop : NodeKind → Bool) (id : NodeId) : Bool :=
  (p.nodes[id.index]?.map fun node => stop node.kind).getD false

theorem stopsAt_eq {id : NodeId} {node : SyntaxNode} (hnode : p.node id = .ok node) :
    p.stopsAt stop id = stop node.kind := by
  rw [stopsAt, fetch_eq_ok_iff.mp hnode]
  rfl

theorem Loaded.wellFounded_isChild (h : p.Loaded) :
    WellFounded fun child parent => p.IsChild parent child := by
  obtain ⟨rank, hrank, -⟩ := h.exists_rank_down
  have hsub : Subrelation (fun child parent => p.IsChild parent child)
      (InvImage (· < ·) fun id : NodeId => rank id.index) := by
    intro child parent hchild
    exact hrank parent child hchild
  exact hsub.wf (InvImage.wf _ Nat.lt_wfRel.wf)

/-- A node, followed by what is listed for each of its children at which the walk does not stop. -/
def Loaded.preorder (h : p.Loaded) (stop : NodeKind → Bool) (id : NodeId) : List NodeId :=
  id :: ((childrenAt p.nodes id.index).filter fun child => !p.stopsAt stop child).attach.flatMap
    fun child => h.preorder stop child.1
termination_by h.wellFounded_isChild.wrap id
decreasing_by
  exact (List.mem_filter.mp child.2).1

/-! ## The stack and the recursion -/

theorem Loaded.preorder_eq (h : p.Loaded) {id : NodeId} {node : SyntaxNode}
    (hnode : p.node id = .ok node) :
    h.preorder stop id = id :: (node.kind.children.filter fun child =>
      !p.stopsAt stop child).flatMap (h.preorder stop) := by
  have hchildren : childrenAt p.nodes id.index = node.kind.children := by
    rw [childrenAt, fetch_eq_ok_iff.mp hnode]
    rfl
  rw [Loaded.preorder, hchildren, List.flatMap_def, List.flatMap_def, List.attach_map_val]

theorem Descent.eq_flatMap_preorder (h : p.Loaded) {roots ids : List NodeId}
    (hdescent : Descent p stop roots ids) :
    ids = (roots.filter fun root => !p.stopsAt stop root).flatMap (h.preorder stop) := by
  induction hdescent with
  | nil => rfl
  | @skip root node rest ids hnode hstop hrest ih =>
    have hskip : p.stopsAt stop root = true := (stopsAt_eq hnode).trans hstop
    rw [ih, List.filter_cons_of_neg (by simp [hskip])]
  | @enter root node rest below after hnode henter hbelow hrest ihbelow ihrest =>
    have hopen : p.stopsAt stop root = false := (stopsAt_eq hnode).trans henter
    rw [List.filter_cons_of_pos (by simp [hopen]), List.flatMap_cons, h.preorder_eq hnode,
      ← ihbelow, ← ihrest]
    rfl

theorem Loaded.descendantsUntil_eq_preorder (h : p.Loaded) {id : NodeId} (hid : p.Has id)
    (stop : NodeKind → Bool) : p.descendantsUntil id stop = .ok (h.preorder stop id) := by
  obtain ⟨ids, hids⟩ := (h.descendantsUntil hid stop).exists_ok
  obtain ⟨node, below, hnode, rfl, hbelow⟩ := h.descent hids
  rw [hids, h.preorder_eq hnode, ← hbelow.eq_flatMap_preorder h]

/-! ## The walk up -/

theorem Loaded.ancestors_of_isChild (h : p.Loaded) {parent child : NodeId}
    (hchild : p.IsChild parent child) :
    ∃ above, p.ancestors parent = .ok above ∧ p.ancestors child = .ok (parent :: above) := by
  have hin : p.Has child := childrenInRange_of_inRange h.inRange parent child hchild
  obtain ⟨node, hnode, hget, -⟩ := node_answers_at h.inRange hin
  have hparent : node.parent = some parent := by
    have hup := (h.parent_iff parent child).mpr hchild
    rw [parentAt, hget] at hup
    exact hup
  obtain ⟨ids, hids⟩ := (h.ancestors hin).exists_ok
  have hwalk : p.parentsFrom p.nodes.size (some parent) = .ok ids := by
    rw [Program.ancestors, hnode] at hids
    rw [← hparent]
    exact hids
  cases hsize : p.nodes.size with
  | zero =>
    have hlt : child.index < p.nodes.size := hin
    omega
  | succ bound =>
    rw [hsize, parentsFrom] at hwalk
    obtain ⟨node', hnode', hwalk⟩ := lookup_bind_eq_ok.mp hwalk
    obtain ⟨above, habove, hwalk⟩ := lookup_bind_eq_ok.mp hwalk
    cases hwalk
    -- one step less is left for the same walk, which does not need it
    have hle : bound ≤ p.nodes.size := by omega
    have hrest : p.ancestors parent = .ok above := by
      rw [Program.ancestors, hnode']
      exact parentsFrom_of_le hle habove
    exact ⟨above, hrest, hids⟩

theorem Loaded.isChild_of_ancestors (h : p.Loaded) {id parent : NodeId} {above : List NodeId}
    (hids : p.ancestors id = .ok (parent :: above)) : p.IsChild parent id := by
  unfold Program.ancestors at hids
  obtain ⟨node, hnode, hwalk⟩ := lookup_bind_eq_ok.mp hids
  cases hparent : node.parent with
  | none =>
    rw [hparent, parentsFrom] at hwalk
    cases hwalk
  | some other =>
    have hchild := h.isChild_of_parent (fetch_eq_ok_iff.mp hnode) hparent
    obtain ⟨rest, -, hother⟩ := h.ancestors_of_isChild hchild
    have hsame : parent :: above = other :: rest := lookup_unique hids hother
    rw [(List.cons.inj hsame).1]
    exact hchild

/-- A node lies above another one, and a walk enters the other one and all nodes in between. -/
def OpenBelow (p : Program) (stop : NodeKind → Bool) (id d : NodeId) : Prop :=
  ∃ between above, p.ancestors d = .ok (between ++ id :: above) ∧
    ∀ a ∈ d :: between, p.IsEntered stop a

theorem Loaded.openBelow_of_enters (h : p.Loaded) {id b d : NodeId}
    (hb : b = id ∨ p.OpenBelow stop id b) (hstep : p.Enters stop b d) :
    p.OpenBelow stop id d := by
  obtain ⟨hchild, hentered⟩ := hstep
  obtain ⟨above, habove, hd⟩ := h.ancestors_of_isChild hchild
  rcases hb with rfl | ⟨between, above', hb, hbetween⟩
  · exact ⟨[], above, hd, by simpa using hentered⟩
  · obtain rfl := lookup_unique habove hb
    refine ⟨b :: between, above', hd, ?_⟩
    intro a ha
    rcases List.mem_cons.mp ha with rfl | ha
    · exact hentered
    · exact hbetween a ha

theorem Loaded.enters_of_openBelow (h : p.Loaded) {id d : NodeId} {between above : List NodeId}
    (hd : p.ancestors d = .ok (between ++ id :: above))
    (hentered : ∀ a ∈ d :: between, p.IsEntered stop a) : ReflTransGen (p.Enters stop) id d := by
  -- the nodes in between are climbed one by one
  induction between generalizing d with
  | nil =>
    have hchild := h.isChild_of_ancestors hd
    exact .single ⟨hchild, hentered d (by simp)⟩
  | cons b between ih =>
    have hchild := h.isChild_of_ancestors hd
    obtain ⟨rest, hb, hd'⟩ := h.ancestors_of_isChild hchild
    have hsame := lookup_unique hd hd'
    rw [List.cons_append, List.cons.injEq] at hsame
    rw [← hsame.2] at hb
    have hreach := ih hb fun a ha => hentered a (List.mem_cons_of_mem d ha)
    exact hreach.tail ⟨hchild, hentered d (by simp)⟩

theorem Loaded.reflTransGen_enters_iff (h : p.Loaded) {id d : NodeId} :
    ReflTransGen (p.Enters stop) id d ↔ d = id ∨ p.OpenBelow stop id d := by
  constructor
  · intro hreach
    induction hreach with
    | refl => exact Or.inl rfl
    | tail _ hstep ih => exact Or.inr (h.openBelow_of_enters ih hstep)
  · rintro (rfl | ⟨between, above, hd, hentered⟩)
    · exact .refl
    · exact h.enters_of_openBelow hd hentered

theorem Loaded.openBelow_iff_mem_ancestors (h : p.Loaded) (hstop : ∀ kind, stop kind = false)
    {id d : NodeId} : p.OpenBelow stop id d ↔ ∃ ids, p.ancestors d = .ok ids ∧ id ∈ ids := by
  constructor
  · rintro ⟨between, above, hd, -⟩
    exact ⟨_, hd, by simp⟩
  · rintro ⟨ids, hids, hmem⟩
    obtain ⟨between, above, rfl⟩ := List.append_of_mem hmem
    refine ⟨between, above, hids, ?_⟩
    have hin : p.Has d := by
      obtain ⟨node, hnode, -⟩ := lookup_bind_eq_ok.mp hids
      exact lt_size_of_fetch hnode
    obtain ⟨ids', hids', hhas⟩ := h.ancestors hin
    obtain rfl := lookup_unique hids hids'
    intro a ha
    have haHas : p.Has a := by
      rcases List.mem_cons.mp ha with rfl | ha
      · exact hin
      · exact hhas a (List.mem_append_left _ ha)
    obtain ⟨node, hnode, -⟩ := h.inRange.node haHas
    exact ⟨node, hnode, hstop node.kind⟩

/-! ## The two walks agree -/

/-- In every loaded program the walk down from a node lists what the recursion over the children
lists, and no node twice. It lists another node exactly if it lies below the start and the walk
stops neither at it nor in between; the walk that stops nowhere lists all nodes from which the walk
up comes to the start. -/
theorem walk_down_is_pruned_preorder {p q : Program} (hcheck : p.check = .ok ())
    (hlink : p.link = .ok q) {id : NodeId} (hid : id.index < q.nodes.size)
    (stop : NodeKind → Bool) :
    ∃ ids, q.descendantsUntil id stop = .ok ids ∧
      ids = (loaded_of_link hcheck hlink).preorder stop id ∧ ids.Nodup ∧
      (∀ d, d ∈ ids ↔ d = id ∨ q.OpenBelow stop id d) ∧
      ((∀ kind, stop kind = false) →
        ∀ d, d ∈ ids ↔ d = id ∨ ∃ above, q.ancestors d = .ok above ∧ id ∈ above) := by
  have hq := loaded_of_link hcheck hlink
  have hids := hq.descendantsUntil_eq_preorder hid stop
  have hmem : ∀ d, d ∈ hq.preorder stop id ↔ d = id ∨ q.OpenBelow stop id d := by
    intro d
    rw [hq.mem_descendantsUntil_iff hids, hq.reflTransGen_enters_iff]
  refine ⟨_, hids, rfl, ?_, hmem, ?_⟩
  · exact hq.nodup_descendantsUntil (listedChildren_nodup_of_link hcheck hlink) hids
  · intro hstop d
    rw [hmem, hq.openBelow_iff_mem_ancestors hstop]

/-- From the creation of the hook object the walk that stays out of functions lists the object and
its first argument; the replacement, the second argument, is a function. -/
theorem hookProgram_walk_stops_at_replacement :
    (hookProgram fun _ => none).check = .ok () ∧
      (hookProgram fun _ => none).link = .ok (hookProgram hookParents) ∧
      ∃ ids, (hookProgram hookParents).descendantsUntil ⟨1⟩ NodeKind.isFunction = .ok ids ∧
        ids = [⟨1⟩, ⟨7⟩] ∧
        ¬ (hookProgram hookParents).OpenBelow NodeKind.isFunction ⟨1⟩ ⟨2⟩ ∧
        (hookProgram hookParents).OpenBelow NodeKind.isFunction ⟨1⟩ ⟨7⟩ := by
  have hcheck : (hookProgram fun _ => none).check = .ok () := by decide
  have hlink : (hookProgram fun _ => none).link = .ok (hookProgram hookParents) := by
    decide +kernel
  have hwalk : (hookProgram hookParents).descendantsUntil ⟨1⟩ NodeKind.isFunction =
      .ok [⟨1⟩, ⟨7⟩] := by
    decide +kernel
  have hin : (⟨1⟩ : NodeId).index < (hookProgram hookParents).nodes.size := by decide
  obtain ⟨ids, hids, -, -, hmem, -⟩ :=
    walk_down_is_pruned_preorder hcheck hlink hin NodeKind.isFunction
  have hlisted : ids = [⟨1⟩, ⟨7⟩] := lookup_unique hids hwalk
  have hout : ¬ (hookProgram hookParents).OpenBelow NodeKind.isFunction ⟨1⟩ ⟨2⟩ := by
    intro hopen
    have hin := (hmem ⟨2⟩).mpr (Or.inr hopen)
    rw [hlisted] at hin
    simp at hin
  refine ⟨hcheck, hlink, ids, hids, hlisted, hout, ?_⟩
  rcases (hmem ⟨7⟩).mp (by simp [hlisted]) with heq | hopen
  · cases heq
  · exact hopen

end ModLint.Program
