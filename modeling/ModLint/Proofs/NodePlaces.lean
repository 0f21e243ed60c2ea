import ModLint.Proofs.BuildChanges

/-!
# Places of nodes in built programs

A builder has no source text, so it makes up the places of nodes: each node takes the next line of
the current file, and modifiers take lines as well. The counters start again with every file, which
may be in the middle of a call. After any calls, proper or not, the nodes of a file follow each
other in the order in which they were made, and none of them shares a byte or a line with another
one. For each file one node is recorded that stands for all of it, and this is the node that the
declaration of a class becomes a member of.
-/

namespace ModLint

/-! ## Spans -/

namespace Span

/-- Whether a byte belongs to a span. -/
def Covers (span : Span) (byte : Nat) : Prop :=
  span.startByte ≤ byte ∧ byte < span.endByte

/-- A span that ends before another one starts, on an earlier line. -/
structure Before (a b : Span) : Prop where
  bytes : a.endByte < b.startByte
  starts : a.startLine < b.startLine
  lines : a.endLine < b.startLine

theorem Before.not_covers {a b : Span} (h : a.Before b) (byte : Nat) :
    ¬ (a.Covers byte ∧ b.Covers byte) := by
  rintro ⟨ha, hb⟩
  have hend := ha.2
  have hstart := hb.1
  have hbytes := h.bytes
  omega

end Span

namespace Program

variable {p q : Program}

/-- The file and the span of each node, in order. -/
def places (p : Program) : List (FileId × Span) :=
  p.nodes.toList.map fun node => (node.file, node.span)

theorem getElem?_places {id : NodeId} {node : SyntaxNode} (h : p.node id = .ok node) :
    p.places[id.index]? = some (node.file, node.span) := by
  have hget := fetch_eq_ok_iff.mp h
  rw [places, List.getElem?_map, Array.getElem?_toList, hget]
  rfl

theorem places_withNode (p : Program) (node : SyntaxNode) :
    (p.withNode node).places = p.places ++ [(node.file, node.span)] := by
  simp [places, withNode]

theorem places_of_orphans (h : q.nodes.map orphan = p.nodes.map orphan) : q.places = p.places := by
  have hplaces : ∀ r : Program, r.places =
      (r.nodes.map orphan).toList.map fun node => (node.file, node.span) := by
    intro r
    rw [Array.toList_map, List.map_map]
    rfl
  rw [hplaces q, h, ← hplaces p]

theorem places_withKind (p : Program) (id : NodeId) (f : NodeKind → NodeKind) :
    (p.withKind id f).places = p.places := by
  apply List.ext_getElem?
  intro i
  simp only [places, withKind, List.getElem?_map, Array.getElem?_toList, Array.getElem?_modify]
  split
  · cases p.nodes[i]? <;> rfl
  · rfl

/-- The nodes of each file follow each other in the order in which they were made; no two of them
have a byte or a first line in common, and none of them is empty. -/
structure NodesApart (p : Program) : Prop where
  later : ∀ first second x y, p.node first = .ok x → p.node second = .ok y → x.file = y.file →
    first.index < second.index → x.span.Before y.span
  distinct : ∀ first second x y, p.node first = .ok x → p.node second = .ok y → x.file = y.file →
    first ≠ second → (x.span.isEmpty = false ∧ y.span.isEmpty = false) ∧
      (∀ byte, ¬ (x.span.Covers byte ∧ y.span.Covers byte)) ∧ x.span.startLine ≠ y.span.startLine

theorem nodesApart_of_places
    (hordered : p.places.Pairwise fun x y => x.1 = y.1 → x.2.Before y.2)
    (hnonempty : ∀ place ∈ p.places, place.2.isEmpty = false) : p.NodesApart := by
  have hlater : ∀ first second x y, p.node first = .ok x → p.node second = .ok y →
      x.file = y.file → first.index < second.index → x.span.Before y.span := by
    intro first second x y hx hy hfile hlt
    obtain ⟨hfirst, hx⟩ := List.getElem?_eq_some_iff.mp (getElem?_places hx)
    obtain ⟨hsecond, hy⟩ := List.getElem?_eq_some_iff.mp (getElem?_places hy)
    have hbefore :=
      List.pairwise_iff_getElem.mp hordered first.index second.index hfirst hsecond hlt
    rw [hx, hy] at hbefore
    exact hbefore hfile
  have hfull : ∀ id node, p.node id = .ok node → node.span.isEmpty = false := by
    intro id node hnode
    exact hnonempty _ (List.mem_of_getElem? (getElem?_places hnode))
  refine ⟨hlater, fun first second x y hx hy hfile hne => ⟨⟨hfull _ _ hx, hfull _ _ hy⟩, ?_⟩⟩
  have hindex : first.index ≠ second.index :=
    fun heq => hne (by cases first; cases second; simp_all)
  rcases Nat.lt_or_gt_of_ne hindex with hlt | hgt
  · have hbefore := hlater first second x y hx hy hfile hlt
    exact ⟨hbefore.not_covers, Nat.ne_of_lt hbefore.starts⟩
  · have hbefore := hlater second first y x hy hx hfile.symm hgt
    exact ⟨fun byte hboth => hbefore.not_covers byte hboth.symm, Nat.ne_of_gt hbefore.starts⟩

/-- A node that stands for all of a file. -/
def IsUnitOf (p : Program) (file : FileId) (id : NodeId) : Prop :=
  ∃ node members, p.node id = .ok node ∧ node.file = file ∧ node.kind = .compilationUnit members

theorem IsUnitOf.withNode {file : FileId} {id : NodeId} (h : p.IsUnitOf file id)
    (node : SyntaxNode) : (p.withNode node).IsUnitOf file id := by
  obtain ⟨unit, members, hunit, hrest⟩ := h
  exact ⟨unit, members, Builder.fetch_push hunit node, hrest⟩

theorem IsUnitOf.withKind {file : FileId} {id : NodeId} (h : p.IsUnitOf file id) (other : NodeId)
    {f : NodeKind → NodeKind}
    (hf : ∀ members, ∃ members', f (.compilationUnit members) = .compilationUnit members') :
    (p.withKind other f).IsUnitOf file id := by
  obtain ⟨unit, members, hunit, hfile, hkind⟩ := h
  by_cases heq : other.index = id.index
  · obtain ⟨members', hmembers'⟩ := hf members
    refine ⟨{ unit with kind := f unit.kind }, members', ?_, hfile, ?_⟩
    · have hmodify := Builder.fetch_modify hunit other.index
        fun node => { node with kind := f node.kind }
      rwa [if_pos heq] at hmodify
    · exact (congrArg f hkind).trans hmembers'
  · refine ⟨unit, members, ?_, hfile, hkind⟩
    have hmodify := Builder.fetch_modify hunit other.index
      fun node => { node with kind := f node.kind }
    rwa [if_neg heq] at hmodify

end Program

theorem NodeKind.length_name_pos (kind : NodeKind) : 0 < kind.name.length := by
  have hne : kind.name ≠ "" := by cases kind <;> simp [NodeKind.name]
  exact Nat.pos_of_ne_zero fun hzero => hne (String.length_eq_zero_iff.mp hzero)

/-! ## What changes keep -/

namespace Builder

variable {b b' : Builder}

/-- The nodes stand in order, and the counters are behind all nodes of the current file, which is
the last one. -/
structure InOrder (b : Builder) : Prop where
  current : ∀ file, b.file = some file → file.index + 1 = b.program.files.size
  inFiles : ∀ place ∈ b.program.places, b.program.Has place.1
  behind : ∀ place ∈ b.program.places, b.file = some place.1 →
    place.2.endByte < b.offset ∧ place.2.startLine < b.line ∧ place.2.endLine < b.line
  nonempty : ∀ place ∈ b.program.places, place.2.isEmpty = false
  ordered : b.program.places.Pairwise fun x y => x.1 = y.1 → x.2.Before y.2

/-- Every file has its node, and no other node is recorded. -/
structure HasUnits (b : Builder) : Prop where
  size : b.units.size = b.program.files.size
  unit : ∀ (i : Nat) id, b.units[i]? = some id → b.program.IsUnitOf ⟨i⟩ id

theorem InOrder.new (assembly : String) : (Builder.new assembly).InOrder where
  current := by simp [Builder.new]
  inFiles := by simp [Builder.new, Program.places]
  behind := by simp [Builder.new, Program.places]
  nonempty := by simp [Builder.new, Program.places]
  ordered := by simp [Builder.new, Program.places]

theorem HasUnits.new (assembly : String) : (Builder.new assembly).HasUnits where
  size := rfl
  unit := by simp [Builder.new]

theorem InOrder.advance (h : b.InOrder) (width : Nat) : (b.advance width).InOrder := by
  refine { h with behind := fun place hplace hfile => ?_ }
  obtain ⟨hend, hstart, hline⟩ := h.behind place hplace hfile
  simp only [Builder.advance]
  omega

/-- The counters were behind the nodes of the file, so the new node is, and they move on. -/
theorem InOrder.withNode (h : b.InOrder) {file : FileId} (hfile : b.file = some file)
    (kind : NodeKind) : (b.withNode file kind).InOrder := by
  have hwidth := kind.length_name_pos
  have hplaces : (b.withNode file kind).program.places =
      b.program.places ++ [(file, b.nextLine kind.name.length)] :=
    Program.places_withNode _ _
  have hcurrent : b.program.Has file :=
    Nat.lt_of_lt_of_eq (Nat.lt_succ_self _) (h.current file hfile)
  refine ⟨h.current, ?_, ?_, ?_, ?_⟩
  · rw [hplaces, List.forall_mem_append, List.forall_mem_singleton]
    exact ⟨h.inFiles, hcurrent⟩
  · rw [hplaces, List.forall_mem_append, List.forall_mem_singleton]
    refine ⟨(h.advance kind.name.length).behind, fun _ => ?_⟩
    simp only [Builder.withNode, Builder.advance, Builder.nextLine]
    omega
  · rw [hplaces, List.forall_mem_append, List.forall_mem_singleton]
    refine ⟨h.nonempty, ?_⟩
    simp only [Builder.nextLine, Span.isEmpty, Span.length, beq_eq_false_iff_ne]
    omega
  · rw [hplaces, List.pairwise_append]
    refine ⟨h.ordered, List.pairwise_singleton _ _, fun place hplace last hlast hsame => ?_⟩
    cases List.mem_singleton.mp hlast
    obtain ⟨hend, hstart, hline⟩ := h.behind place hplace (by rw [hfile, hsame])
    exact ⟨hend, hstart, hline⟩

/-- No node is in a file that is only started now. -/
theorem InOrder.atStart (h : b.InOrder) (path : String) : (b.atStart path).InOrder where
  current := by
    rintro file ⟨⟩
    exact (Array.size_push ..).symm
  inFiles place hplace :=
    Nat.lt_of_lt_of_le (h.inFiles place hplace)
      (Nat.le_of_lt (Nat.lt_of_lt_of_eq (Nat.lt_succ_self _) (Array.size_push ..).symm))
  behind place hplace hfile := by
    have hlt : place.1.index < b.program.files.size := h.inFiles place hplace
    have hlast : (⟨b.program.files.size⟩ : FileId) = place.1 := Option.some.inj hfile
    rw [← hlast] at hlt
    exact absurd hlt (Nat.lt_irrefl _)
  nonempty := h.nonempty
  ordered := h.ordered

theorem Change.inOrder (h : b.Change b') (hb : b.InOrder) : b'.InOrder := by
  cases h with
  | nameSpace space hparent hnew => exact { hb with }
  | type symbol hspace hcontaining hmembers => exact { hb with }
  | retype id f hf => exact { hb with }
  | members methods properties events hmethods hproperties => exact { hb with }
  | advance width => exact hb.advance width
  | node file kind hfile => exact hb.withNode hfile kind
  | file path => exact { (hb.atStart path).withNode rfl (.compilationUnit []) with }
  | rekind id f hf =>
    have hplaces := b.program.places_withKind id f
    exact ⟨hb.current, hplaces ▸ hb.inFiles, hplaces ▸ hb.behind, hplaces ▸ hb.nonempty,
      hplaces ▸ hb.ordered⟩

theorem Change.hasUnits (h : b.Change b') (hb : b.HasUnits) : b'.HasUnits := by
  cases h with
  | nameSpace space hparent hnew => exact { hb with }
  | type symbol hspace hcontaining hmembers => exact { hb with }
  | retype id f hf => exact { hb with }
  | members methods properties events hmethods hproperties => exact { hb with }
  | advance width => exact { hb with }
  | node file kind hfile => exact ⟨hb.size, fun i id hid => (hb.unit i id hid).withNode _⟩
  | file path =>
    refine ⟨?_, fun i id hid => ?_⟩
    · exact (Array.size_push ..).trans ((congrArg (· + 1) hb.size).trans (Array.size_push ..).symm)
    · have hid : (b.units.push ⟨b.program.nodes.size⟩)[i]? = some id := hid
      rw [Array.getElem?_push] at hid
      split at hid
      · rename_i hlast
        cases hid
        rw [hlast, hb.size]
        exact ⟨_, [], Builder.fetch_push_size _ _, rfl, rfl⟩
      · exact (hb.unit i id hid).withNode _
  | rekind id f hf => exact ⟨hb.size, fun i other hid => (hb.unit i other hid).withKind id hf⟩

theorem Changes.inOrder (h : b.Changes b') (hb : b.InOrder) : b'.InOrder := by
  induction h with
  | refl => exact hb
  | tail _ hchange ih => exact hchange.inOrder ih

theorem Changes.hasUnits (h : b.Changes b') (hb : b.HasUnits) : b'.HasUnits := by
  induction h with
  | refl => exact hb
  | tail _ hchange ih => exact hchange.hasUnits ih

/-- A file has one node that stands for all of it and is recorded. -/
theorem HasUnits.exists_unique (h : b.HasUnits) {file : FileId} (hfile : b.program.Has file) :
    ∃ unit, b.units[file.index]? = some unit ∧ b.program.IsUnitOf file unit ∧
      ∀ other ∈ b.units, b.program.IsUnitOf file other → other = unit := by
  have hlt : file.index < b.units.size := Nat.lt_of_lt_of_eq hfile h.size.symm
  obtain ⟨unit, hunit⟩ : ∃ unit, b.units[file.index]? = some unit :=
    ⟨_, Array.getElem?_eq_getElem hlt⟩
  refine ⟨unit, hunit, h.unit file.index unit hunit, fun other hother hof => ?_⟩
  obtain ⟨i, hi⟩ := Array.mem_iff_getElem?.mp hother
  -- The node tells its file, and so the position at which it is recorded.
  obtain ⟨node, _, hnode, hnodeFile, _⟩ := hof
  obtain ⟨node', _, hnode', hnodeFile', _⟩ := h.unit i other hi
  obtain rfl := lookup_unique hnode hnode'
  have hindex : file.index = i := congrArg ItemId.index (hnodeFile.symm.trans hnodeFile')
  rw [hindex] at hunit
  exact Option.some.inj (hi.symm.trans hunit)

/-! ## Classes -/

/-- What a class makes of a builder: its type is declared by a node of the current file, and this
node is a further member of the node that stands for the file. No other node has other children. -/
def Enters (b : Builder) (id : TypeId) (b' : Builder) : Prop :=
  ∃ file unit declaration symbol node name,
    b'.file = some file ∧ (∀ current, b.file = some current → current = file) ∧
    b'.units[file.index]? = some unit ∧ b'.program.IsUnitOf file unit ∧
    b'.program.type id = .ok symbol ∧ symbol.declaration = some declaration ∧
    b'.program.node declaration = .ok node ∧ node.file = file ∧
    node.kind = .typeDeclaration name (some id) [] [] ∧
    ∀ other : NodeId, Program.childrenAt b'.program.nodes other.index =
      Program.childrenAt b.program.nodes other.index ++ if other = unit then [declaration] else []

end Builder

theorem childrenAt_withMember {p : Program} {file : FileId} {unit : NodeId}
    (h : p.IsUnitOf file unit) (member other : NodeId) :
    Program.childrenAt (p.withKind unit (Build.withMember member)).nodes other.index =
      Program.childrenAt p.nodes other.index ++ if other = unit then [member] else [] := by
  obtain ⟨node, members, hnode, -, hkind⟩ := h
  have hget := Program.fetch_eq_ok_iff.mp hnode
  unfold Program.childrenAt Program.withKind
  rw [Array.getElem?_modify]
  by_cases heq : other = unit
  · subst heq
    rw [if_pos rfl, if_pos rfl, hget]
    simp [hkind, Build.withMember, NodeKind.children]
  · have hindex : unit.index ≠ other.index := fun h => heq (by cases unit; cases other; simp_all)
    rw [if_neg hindex, if_neg heq, List.append_nil]

/-- In a builder with its nodes in order, a class meets no fault. -/
theorem Build.classType_enters {b : Builder} (horder : b.InOrder) (hunits : b.HasUnits)
    (fullName : String) (base : Option TypeId) :
    Build.Acts False (Build.classType fullName base) b fun id b' => b.Enters id b' := by
  refine Build.classType_acts fullName base fun id declaration b₁ hchanges hdeclared => ?_
  have horder₁ := hchanges.inOrder horder
  have hunits₁ := hchanges.hasUnits hunits
  obtain ⟨symbol, hsymbol, hdeclaration⟩ := hdeclared.type
  obtain ⟨node, name, hnode, hfile, hkind⟩ := hdeclared.node
  have hhas : b₁.program.Has node.file :=
    Nat.lt_of_lt_of_eq (Nat.lt_succ_self _) (horder₁.current node.file hfile)
  obtain ⟨unit, hunit, hof, -⟩ := hunits₁.exists_unique hhas
  unfold Build.enter
  refine Build.currentFile_acts.bind ?_
  rintro file b₂ - ⟨hfile₂, rfl | ⟨hnone, -⟩⟩
  · obtain rfl := Option.some.inj (hfile.symm.trans hfile₂)
    refine .bind_get ?_
    simp only [hunit]
    refine .bind (Build.changeKind_acts ?_ (Build.withMember_unit declaration)) ?_
    · intro fault hfault
      obtain ⟨unitNode, _, hunitNode, -⟩ := hof
      cases hunitNode.symm.trans hfault
    rintro _ _ - rfl
    -- The declaration is not the node of the file, so it stays as it was made.
    have hne : unit.index ≠ declaration.index := by
      intro heq
      obtain ⟨unitNode, members, hunitNode, -, hunitKind⟩ := hof
      have hsame : unit = declaration := by cases unit; cases declaration; simp_all
      subst hsame
      obtain rfl := lookup_unique hunitNode hnode
      cases hunitKind.symm.trans hkind
    have hkept : (b₂.program.withKind unit (Build.withMember declaration)).node declaration =
        .ok node := by
      have hmodify := Builder.fetch_modify hnode unit.index
        fun node => { node with kind := Build.withMember declaration node.kind }
      rwa [if_neg hne] at hmodify
    refine .pure ⟨node.file, unit, declaration, symbol, node, name, hfile,
      fun current hcurrent => ?_, hunit, hof.withKind unit (Build.withMember_unit declaration),
      hsymbol, hdeclaration, hkept, rfl, hkind, fun other => ?_⟩
    · rcases hdeclared.current with hsame | hnone
      · exact Option.some.inj (hcurrent.symm.trans (hsame.symm.trans hfile))
      · cases hcurrent.symm.trans hnone
    · rw [childrenAt_withMember hof, hdeclared.children]
  · cases hfile.symm.trans hnone

/-! ## Finished programs -/

namespace Program

/-- Whether or not all parents can be entered, nothing but parents is changed. -/
theorem orphans_adopt (parent : NodeId) (children : List NodeId) (nodes : Array SyntaxNode) :
    (adopt parent children nodes).1.map orphan = nodes.map orphan := by
  induction children generalizing nodes with
  | nil => rfl
  | cons child children ih =>
    rw [adopt]
    split
    · rfl
    · split
      · rfl
      · rw [ih, map_orphan_setParent]

theorem orphans_adoptAll (ids : List NodeId) (nodes : Array SyntaxNode) :
    (adoptAll ids nodes).1.map orphan = nodes.map orphan := by
  induction ids generalizing nodes with
  | nil => rfl
  | cons id ids ih =>
    have hadopt := orphans_adopt id (childrenAt nodes id.index) nodes
    rw [adoptAll]
    split
    · rename_i next heq
      rw [heq] at hadopt
      rw [ih, hadopt]
    · rename_i next failure heq
      rw [heq] at hadopt
      exact hadopt

theorem places_relink (p : Program) : p.relink.1.places = p.places := by
  have horphans : (p.nodes.map orphan).map orphan = p.nodes.map orphan := by
    rw [Array.map_map]
    rfl
  have hall := (orphans_adoptAll p.nodeIds (p.nodes.map orphan)).trans horphans
  apply places_of_orphans
  rw [relink]
  split
  · rename_i nodes failure heq
    rw [heq] at hall
    exact hall
  · rename_i nodes heq
    rw [heq] at hall
    exact hall

end Program

/-- After any calls, proper or not, the nodes of the builder are apart, and so are those of the
program that it finishes with. Nodes of a file that were made later stand strictly behind those that
were made earlier; no two of them have a byte or a first line in common, and none is empty. Each
file has exactly one recorded node that stands for all of it. A class meets no fault, its
declaration goes to the current file, and of all nodes just the one that is recorded for this file
gets it as a further member. -/
theorem Builder.nodes_never_collide (assembly : String) {b : Builder}
    (h : (Builder.new assembly).Steps b) :
    b.program.NodesApart ∧ b.finish.NodesApart ∧
    (b.units.size = b.program.files.size ∧
      ∀ file : FileId, b.program.Has file → ∃ unit, b.units[file.index]? = some unit ∧
        b.program.IsUnitOf file unit ∧
        ∀ other ∈ b.units, b.program.IsUnitOf file other → other = unit) ∧
    ∀ fullName base, ∃ id b', (Build.classType fullName base).run b = .ok (id, b') ∧
      b.Enters id b' := by
  have horder := h.changes.inOrder (.new assembly)
  have hunits := h.changes.hasUnits (.new assembly)
  refine ⟨Program.nodesApart_of_places horder.ordered horder.nonempty, ?_,
    ⟨hunits.size, fun file hfile => hunits.exists_unique hfile⟩, fun fullName base => ?_⟩
  · have hplaces : b.finish.places = b.program.places := b.program.places_relink
    exact Program.nodesApart_of_places (hplaces ▸ horder.ordered) (hplaces ▸ horder.nonempty)
  · obtain ⟨id, b', hrun, -, henters⟩ :=
      (Build.classType_enters horder hunits fullName base).exists_run
    exact ⟨id, b', hrun, henters⟩

/-- Calls for a method whose modifiers take lines before there is a file, for two files, and for
nodes in both. -/
def Builder.restartedCalls : List BuildCall :=
  [.externalType "Celeste.Player" "Celeste" none,
    .method ⟨0⟩
      { name := "Update", modifiers := ["public", ""], parameters := [⟨"self", none⟩] } none,
    .phrase (.ident "level"),
    .file "Spinner.cs",
    .phrase (.ident "scene")]

theorem Builder.restartedCalls_nodes_never_collide : ∃ b : Builder,
    (Builder.new "Mod").Steps b ∧
    (b.program.places.map fun place => (place.1.index, place.2.startByte, place.2.startLine)) =
      [(0, 0, 1), (0, 17, 2), (0, 27, 3), (0, 34, 4), (1, 0, 1), (1, 17, 2)] ∧
    b.program.NodesApart ∧ b.finish.NodesApart ∧
    (b.program.Has (⟨1⟩ : FileId) ∧
      ∃ unit, b.units[1]? = some unit ∧ b.program.IsUnitOf ⟨1⟩ unit) ∧
    ∃ id b', (Build.classType "Example.Spinner" none).run b = .ok (id, b') ∧ b.Enters id b' := by
  have hbuilt : (built? "Mod" restartedCalls).map (fun b => (b.program.places.map
      (fun place => (place.1.index, place.2.startByte, place.2.startLine)),
      b.program.files.size)) =
      some ([(0, 0, 1), (0, 17, 2), (0, 27, 3), (0, 34, 4), (1, 0, 1), (1, 17, 2)], 2) := by
    decide +kernel
  obtain ⟨b, hb, hfacts⟩ := Option.map_eq_some_iff.mp hbuilt
  obtain ⟨hplaces, hfiles⟩ := Prod.mk.inj hfacts
  have hhas : b.program.Has (⟨1⟩ : FileId) := Nat.lt_of_lt_of_eq (by decide : 1 < 2) hfiles.symm
  obtain ⟨hapart, hfinished, ⟨-, hunits⟩, hclass⟩ :=
    Builder.nodes_never_collide "Mod" (Steps.of_built? hb)
  obtain ⟨unit, hunit, hof, -⟩ := hunits ⟨1⟩ hhas
  exact ⟨b, Steps.of_built? hb, hplaces, hapart, hfinished, ⟨hhas, unit, hunit, hof⟩,
    hclass "Example.Spinner" none⟩

end ModLint
