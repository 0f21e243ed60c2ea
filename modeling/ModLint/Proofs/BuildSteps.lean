import ModLint.Proofs.Building

/-!
# Steps of a builder

What every single step of a builder makes. A step that is given ids of the program meets no fault
and leaves a sound builder. It keeps all roots but those that it makes children, and what it returns
is an id of the program.
-/

namespace ModLint

namespace Build

open Builder (All)

variable {α β : Type} {b : Builder} {keep : NodeId → Prop}

/-- A step that meets no fault and leaves a sound builder, grown from the one before, with a value
about which something is known. -/
def Makes (x : Build α) (b : Builder) (keep : NodeId → Prop) (Q : α → Builder → Prop) : Prop :=
  ∃ a b', x.run b = .ok (a, b') ∧ b'.Sound ∧ b.Grows keep b' ∧ Q a b'

namespace Makes

variable {P : α → Builder → Prop} {Q : β → Builder → Prop}

theorem pure {a : α} (hb : b.Sound) (h : P a b) : Makes (Pure.pure a) b keep P :=
  ⟨a, b, rfl, hb, .refl b, h⟩

theorem imp {x : Build α} {P' : α → Builder → Prop} (hx : Makes x b keep P)
    (h : ∀ a b', b'.Sound → P a b' → P' a b') : Makes x b keep P' := by
  obtain ⟨a, b', hrun, hb', hgrows, ha⟩ := hx
  exact ⟨a, b', hrun, hb', hgrows, h a b' hb' ha⟩

theorem of_all {x : Build α} (hx : Makes x b All P) : Makes x b keep P := by
  obtain ⟨a, b', hrun, hb', hgrows, ha⟩ := hx
  exact ⟨a, b', hrun, hb', hgrows.mono fun _ _ => trivial, ha⟩

theorem bind {x : Build α} {f : α → Build β} (hx : Makes x b keep P)
    (hf : ∀ a b', b'.Sound → b.Grows keep b' → P a b' → Makes (f a) b' keep Q) :
    Makes (x >>= f) b keep Q := by
  obtain ⟨a, b', hrun, hb', hgrows, ha⟩ := hx
  obtain ⟨c, b'', hrun', hb'', hgrows', hc⟩ := hf a b' hb' hgrows ha
  refine ⟨c, b'', ?_, hb'', hgrows.trans hgrows', hc⟩
  rw [StateT.run_bind, hrun]
  exact hrun'

/-- After a step that keeps all roots. -/
theorem bind_all {x : Build α} {f : α → Build β} (hx : Makes x b All P)
    (hf : ∀ a b', b'.Sound → b.Grows All b' → P a b' → Makes (f a) b' keep Q) :
    Makes (x >>= f) b keep Q := by
  obtain ⟨a, b', hrun, hb', hgrows, ha⟩ := hx
  have hx' : Makes x b keep fun c b'' => c = a ∧ b'' = b' :=
    of_all ⟨a, b', hrun, hb', hgrows, rfl, rfl⟩
  refine hx'.bind ?_
  rintro _ _ _ - ⟨rfl, rfl⟩
  exact hf _ _ hb' hgrows ha

theorem bind_get {f : Builder → Build β} (h : Makes (f b) b keep Q) : Makes (get >>= f) b keep Q :=
  h

/-- After a step that changes nothing. -/
theorem bind_of_run {x : Build α} {f : α → Build β} {a : α} (hrun : x.run b = .ok (a, b))
    (h : Makes (f a) b keep Q) : Makes (x >>= f) b keep Q := by
  obtain ⟨c, b', hrun', hb', hgrows, hc⟩ := h
  refine ⟨c, b', ?_, hb', hgrows, hc⟩
  rw [StateT.run_bind, hrun]
  exact hrun'

theorem bind_look {question : Program → Lookup α} {f : α → Build β} {R : α → Prop}
    (hquestion : Answers (question b.program) R) (h : ∀ a, R a → Makes (f a) b keep Q) :
    Makes (look question >>= f) b keep Q := by
  obtain ⟨a, hanswer, ha⟩ := hquestion
  refine bind_of_run ?_ (h a ha)
  rw [look, StateT.run_bind]
  simp [hanswer]

/-- A step may be said to keep just those roots that were there before it. -/
theorem of_old {x : Build α} (hx : Makes x b (fun id => keep id ∧ b.program.Has id) P) :
    Makes x b keep P := by
  obtain ⟨a, b', hrun, hb', hgrows, ha⟩ := hx
  exact ⟨a, b', hrun, hb',
    ⟨hgrows.size, fun id hid hroot => hgrows.root id ⟨hid, hroot.has⟩ hroot⟩, ha⟩

end Makes

/-! ## Changes of symbols -/

theorem change_makes {f : Program → Program}
    (hsound : Builder.Sound { b with program := f b.program })
    (hgrows : b.Grows keep { b with program := f b.program }) :
    Makes (change f) b keep fun _ b' => b' = { b with program := f b.program } :=
  ⟨(), _, rfl, hsound, hgrows, rfl⟩

/-- A change that adds symbols other than types. -/
theorem change_symbols_makes {f : Program → Program} (hb : b.Sound)
    (hrange : (f b.program).InRange)
    (hsize : ∀ arena, b.program.size arena ≤ (f b.program).size arena)
    (htypes : (f b.program).types = b.program.types)
    (hnodes : (f b.program).nodes = b.program.nodes)
    (hfiles : (f b.program).files = b.program.files) :
    Makes (change f) b All fun _ b' => b'.program = f b.program := by
  have hdeclares : ∀ id, (f b.program).DeclaresType id ↔ b.program.DeclaresType id := by
    intro id
    unfold Program.DeclaresType
    rw [htypes]
  refine (change_makes ?_ ⟨hsize, fun id _ hroot => ?_⟩).imp
    fun _ b' _ h => congrArg Builder.program h
  · refine hb.of_same_nodes hrange ?_ hnodes hfiles rfl rfl (fun id => (hdeclares id).mpr)
      fun id hid => Or.inl ((hdeclares id).mp hid)
    unfold Program.TypesOrdered
    rw [htypes]
    exact hb.typesOrdered
  · exact hroot.of_same_nodes hnodes rfl (hdeclares id).mp

theorem nextSpan_makes (hb : b.Sound) (width : Nat) : Makes (nextSpan width) b All
    fun _ b' => b'.program = b.program ∧ b'.units = b.units ∧ b'.file = b.file := by
  refine ⟨_, _, rfl, ?_, ⟨fun _ => Nat.le_refl _, fun id _ hroot => ?_⟩, rfl, rfl, rfl⟩
  · exact hb.of_same_nodes hb.inRange hb.typesOrdered rfl rfl rfl rfl (fun _ h => h)
      fun _ h => Or.inl h
  · exact hroot.of_same_nodes rfl rfl fun h => h

section Members

variable {owner : TypeId}

theorem property_makes (hb : b.Sound) (howner : b.program.Has owner) (name : String) :
    Makes (property owner name) b All fun id b' => b'.program.Has id := by
  unfold property
  refine .bind_get (.bind_all (change_symbols_makes hb (hb.inRange.withProperty howner)
    (b.program.size_le_withProperty _) rfl rfl rfl) fun _ b' hb' _ hp => .pure hb' ?_)
  rw [Program.Has, hp]
  exact Nat.lt_of_lt_of_eq (Nat.lt_succ_self _) (Array.size_push ..).symm

theorem event_makes (hb : b.Sound) (howner : b.program.Has owner) (name : String) :
    Makes (event owner name) b All fun id b' => b'.program.Has id := by
  unfold event
  refine .bind_get (.bind_all (change_symbols_makes hb (hb.inRange.withEvent howner)
    (b.program.size_le_withEvent _) rfl rfl rfl) fun _ b' hb' _ hp => .pure hb' ?_)
  rw [Program.Has, hp]
  exact Nat.lt_of_lt_of_eq (Nat.lt_succ_self _) (Array.size_push ..).symm

end Members

section Namespaces

theorem nameSpaceIn_makes (hb : b.Sound) {parent : Option NamespaceId}
    (hparent : ∀ id, parent = some id → b.program.Has id) (name : String) :
    Makes (nameSpaceIn parent name) b All fun id b' => b'.program.Has id := by
  unfold nameSpaceIn
  refine .bind_get ?_
  dsimp only
  split
  · rename_i index hindex
    exact .pure hb (Array.findIdx?_eq_some_iff_getElem.mp hindex).1
  · refine .bind_all (change_symbols_makes hb (hb.inRange.withNamespace hparent)
      (b.program.size_le_withNamespace _) rfl rfl rfl) fun _ b' hb' _ hp => .pure hb' ?_
    rw [Program.Has, hp]
    exact Nat.lt_of_lt_of_eq (Nat.lt_succ_self _) (Array.size_push ..).symm

theorem nameSpaces_makes (hb : b.Sound) {parent : Option NamespaceId}
    (hparent : ∀ id, parent = some id → b.program.Has id) (names : List String) :
    Makes (nameSpaces parent names) b All
      fun id? b' => ∀ id, id? = some id → b'.program.Has id := by
  induction names generalizing b parent with
  | nil => exact .pure hb hparent
  | cons name names ih =>
    unfold nameSpaces
    refine .bind_all (nameSpaceIn_makes hb hparent name) fun space b' hb' _ hspace => ih hb' ?_
    rintro id hid
    cases hid
    exact hspace

theorem nameSpace_makes (hb : b.Sound) (dotted : String) : Makes (nameSpace dotted) b All
    fun id? b' => ∀ id, id? = some id → b'.program.Has id :=
  nameSpaces_makes hb (by simp) _

end Namespaces

section Types

/-- A step that changes the symbol of a type, but not the types that it leads to. A root that is not
to be kept may become its declaration. -/
theorem changeType_makes_of {id : TypeId} {f : TypeSymbol → TypeSymbol} (hb : b.Sound)
    (hid : b.program.Has id) (hlinks : ∀ symbol link, TypeLink.follow link (f symbol) =
      link.follow symbol)
    (hbelow : ∀ symbol, symbol.IdsBelow b.program.size → (f symbol).IdsBelow b.program.size)
    (hkept : ∀ symbol declaration, b.program.types[id.index]? = some symbol →
      symbol.declaration = some declaration → (f symbol).declaration = some declaration)
    (hnew : ∀ symbol declaration, b.program.types[id.index]? = some symbol →
      (f symbol).declaration = some declaration →
        symbol.declaration = some declaration ∨ b.Root declaration ∧ ¬ keep declaration) :
    Makes (changeType id f) b keep fun _ b' => b'.program.nodes = b.program.nodes ∧
      b'.units = b.units ∧ b'.file = b.file := by
  have hdeclares : ∀ declaration, (b.program.retype id f).DeclaresType declaration →
      b.program.DeclaresType declaration ∨ b.Root declaration ∧ ¬ keep declaration := by
    intro declaration hdeclaration
    rcases Program.declaresType_of_retype hdeclaration with h | ⟨symbol, hsymbol, h⟩
    · exact Or.inl h
    · exact (hnew symbol declaration hsymbol h).imp_left
        fun h => ⟨symbol, Array.mem_of_getElem? hsymbol, h⟩
  unfold changeType
  refine .bind_look (hb.inRange.type hid) fun _ _ => (change_makes ?_ ⟨?_, ?_⟩).imp ?_
  · exact hb.of_same_nodes (hb.inRange.retype hbelow) (hb.typesOrdered.retype hlinks) rfl rfl rfl
      rfl (fun _ => Program.declaresType_retype hkept)
      fun declaration h => (hdeclares declaration h).imp_right fun hroot => hroot.1.notListed
  · exact fun arena => Nat.le_of_eq (Program.size_retype ..).symm
  · intro root hroot h
    exact h.of_same_nodes rfl rfl fun hdeclared =>
      (hdeclares root hdeclared).resolve_right fun hnot => hnot.2 hroot
  · rintro _ b' - rfl
    exact ⟨rfl, rfl, rfl⟩

/-- A step that changes neither the types that a type leads to nor its declaration. -/
theorem changeType_makes {id : TypeId} {f : TypeSymbol → TypeSymbol} (hb : b.Sound)
    (hid : b.program.Has id) (hlinks : ∀ symbol link, TypeLink.follow link (f symbol) =
      link.follow symbol)
    (hdeclaration : ∀ symbol, (f symbol).declaration = symbol.declaration)
    (hbelow : ∀ symbol, symbol.IdsBelow b.program.size → (f symbol).IdsBelow b.program.size) :
    Makes (changeType id f) b All fun _ _ => True :=
  (changeType_makes_of hb hid hlinks hbelow
    (fun symbol _ _ h => (hdeclaration symbol).trans h)
    fun symbol _ _ h => Or.inl ((hdeclaration symbol).symm.trans h)).imp
      fun _ _ _ _ => trivial

theorem pushType_makes (hb : b.Sound) {base : Option TypeId}
    (hbase : ∀ id, base = some id → b.program.Has id) (fullName assembly : String) :
    Makes (pushType fullName assembly base) b All fun id b' => ∃ symbol,
      b'.program.types[id.index]? = some symbol ∧ symbol.declaration = none := by
  unfold pushType
  generalize (Text.splitLast? '.' fullName.toList).getD ([], fullName.toList) = split
  obtain ⟨path, name⟩ := split
  refine .bind_all (nameSpace_makes hb _) fun space b' hb' hgrows hspace => .bind_get ?_
  have hbase' : ∀ id, base = some id → b'.program.Has id := fun id hid => hgrows.has (hbase id hid)
  have hsymbol : TypeSymbol.IdsBelow b'.program.size
      { name := String.ofList name, nameSpace := space, base, assembly } :=
    ⟨hspace, by simp, hbase', by simp, by simp, by simp⟩
  refine .bind_all (change_makes ?_ ⟨b'.program.size_le_withType _, ?_⟩) ?_
  · exact hb'.of_same_nodes (hb'.inRange.withType (TypeSymbol.idsBelow_iff.mp hsymbol))
      (hb'.typesOrdered.withType rfl hbase') rfl rfl rfl rfl
      (fun _ => Program.declaresType_withType)
      fun _ h => Or.inl (Program.declaresType_of_withType rfl h)
  · exact fun _ _ hroot => hroot.of_same_nodes rfl rfl (Program.declaresType_of_withType rfl)
  · rintro _ b'' hb'' - rfl
    exact .pure hb'' ⟨_, Array.getElem?_push_size, rfl⟩

theorem externalType_makes (hb : b.Sound) {base : Option TypeId}
    (hbase : ∀ id, base = some id → b.program.Has id) (fullName assembly : String) :
    Makes (externalType fullName assembly base) b All fun id b' => b'.program.Has id := by
  have hfind : Answers (b.program.findType fullName) fun id? =>
      ∀ id, id? = some id → id ∈ b.program.typeIds := by
    refine Answers.findM? fun id hid => ?_
    have hhas : b.program.Has id := by
      obtain ⟨i, hi, rfl⟩ := List.mem_map.mp hid
      exact List.mem_range.mp hi
    exact (hb.inRange.fullTypeName hhas).bind fun _ _ => .pure trivial
  unfold externalType
  refine .bind_look hfind fun id? hid? => ?_
  cases id? with
  | some id =>
    obtain ⟨i, hi, rfl⟩ := List.mem_map.mp (hid? id rfl)
    exact .pure hb (List.mem_range.mp hi)
  | none =>
    refine (pushType_makes hb hbase fullName assembly).imp ?_
    rintro id b' - ⟨symbol, hsymbol, -⟩
    exact (Array.getElem?_eq_some_iff.mp hsymbol).1

end Types

section Nodes

/-- A node that was added to the program on the way from one builder to another, with its file. -/
structure Added (b b' : Builder) (id : NodeId) : Prop where
  root : b'.Root id
  fresh : b.program.nodes.size ≤ id.index
  types : b'.program.types = b.program.types
  file : b'.file.isSome

theorem allocIn_makes (hb : b.Sound) {file : FileId} (hfile : b.file = some file) {kind : NodeKind}
    (hsymbols : AllBelow b.program.size kind.symbolReferences)
    (hchildren : ∀ child ∈ kind.children, b.Root child) (hnodup : kind.children.Nodup)
    (hkeep : ∀ child ∈ kind.children, ¬ keep child) :
    Makes (allocIn file kind) b keep fun id b' => Added b b' id := by
  unfold allocIn
  refine .bind_all (nextSpan_makes hb _) fun span b' hb' hgrows hsame => .bind_get ?_
  have hchildren' : ∀ child ∈ kind.children, b'.Root child :=
    fun child hchild => hgrows.root child trivial (hchildren child hchild)
  have hreferences : AllBelow b'.program.size (SyntaxNode.references { file, span, kind }) :=
    allBelow_node (hgrows.has (hb.file file hfile))
      (fun child hchild => (hchildren' child hchild).has) (hgrows.allBelow hsymbols)
  refine .bind (change_makes (hb'.withNode hchildren' hreferences hnodup)
    ⟨b'.program.size_le_withNode _, fun id hid hroot =>
      hroot.withNode fun hchild => hkeep id hchild hid⟩) ?_
  rintro _ b'' hb'' - rfl
  have htypes : b'.program.types = b.program.types := congrArg Program.types hsame.1
  have hfile' : b'.file.isSome := by rw [hsame.2.2, hfile]; rfl
  exact .pure hb'' ⟨hb'.root_withNode hchildren', hgrows.size .node, htypes, hfile'⟩

theorem file_makes (hb : b.Sound) (path : String) :
    Makes (file path) b All fun id b' =>
      b'.file = some id ∧ b'.program.types = b.program.types := by
  obtain ⟨id, b', hrun, hprogram, hunits, hfile, hid⟩ : ∃ id b', (file path).run b = .ok (id, b') ∧
      (∃ span, b'.program = b.program.withFile { path } span) ∧
      b'.units = b.units.push ⟨b.program.nodes.size⟩ ∧ b'.file = some ⟨b.program.files.size⟩ ∧
      id = ⟨b.program.files.size⟩ := ⟨_, _, rfl, ⟨_, rfl⟩, rfl, rfl, rfl⟩
  obtain ⟨span, hprogram⟩ := hprogram
  obtain ⟨hsound, hgrows⟩ := hb.withFile hprogram hunits hfile
  subst hid
  exact ⟨_, b', hrun, hsound, hgrows, hfile, by rw [hprogram]; rfl⟩

theorem currentFile_makes (hb : b.Sound) :
    Makes currentFile b All fun id b' =>
      b'.file = some id ∧ b'.program.types = b.program.types := by
  unfold currentFile
  refine .bind_get ?_
  cases hfile : b.file with
  | some id => exact .pure hb ⟨hfile, rfl⟩
  | none => exact file_makes hb _

theorem Makes.bind_currentFile {f : FileId → Build β} {Q : β → Builder → Prop} {file : FileId}
    (hfile : b.file = some file) (h : Makes (f file) b keep Q) :
    Makes (currentFile >>= f) b keep Q := by
  refine .bind_of_run ?_ h
  rw [currentFile, StateT.run_bind, StateT.run_get, pure_bind, hfile]
  rfl

theorem alloc_makes (hb : b.Sound) {kind : NodeKind}
    (hsymbols : AllBelow b.program.size kind.symbolReferences)
    (hchildren : ∀ child ∈ kind.children, b.Root child) (hnodup : kind.children.Nodup)
    (hkeep : ∀ child ∈ kind.children, ¬ keep child) :
    Makes (alloc kind) b keep fun id b' => Added b b' id := by
  unfold alloc
  refine .bind_all (currentFile_makes hb) fun file b' hb' hgrows hfile => ?_
  refine (allocIn_makes hb' hfile.1 (hgrows.allBelow hsymbols)
    (fun child hchild => hgrows.root child trivial (hchildren child hchild)) hnodup hkeep).imp ?_
  intro id b'' _ hadded
  exact ⟨hadded.root, Nat.le_trans (hgrows.size .node) hadded.fresh, hadded.types.trans hfile.2,
    hadded.file⟩

theorem alloc_leaf_makes (hb : b.Sound) {kind : NodeKind}
    (hsymbols : AllBelow b.program.size kind.symbolReferences) (hleaf : kind.children = []) :
    Makes (alloc kind) b All fun id b' => Added b b' id := by
  have hnone : ∀ {P : NodeId → Prop}, ∀ child ∈ kind.children, P child := by
    rw [hleaf]
    exact fun _ h => absurd h List.not_mem_nil
  exact alloc_makes hb hsymbols hnone (hleaf ▸ List.nodup_nil) hnone

/-- A step that makes a node a child of the node of a file or of the declaration of a type. -/
theorem changeKind_makes (hb : b.Sound) {id child : NodeId} {f : NodeKind → NodeKind}
    (hadds : Program.Adds child f) (hid : b.program.Has id)
    (hlayer : id ∈ b.units ∨ b.program.DeclaresType id ∧ ¬ b.program.DeclaresType child)
    (hchild : b.program.Has child) (hunit : child ∉ b.units)
    (hlisted : child ∉ b.program.listedChildren) (hkeep : ¬ keep child) :
    Makes (changeKind id f) b keep fun _ _ => True := by
  unfold changeKind
  refine .bind_look (hb.inRange.node hid) fun _ _ => (change_makes
    (hb.withKind hadds hlayer hchild hunit hlisted) ⟨?_, ?_⟩).imp
    fun _ _ _ _ => trivial
  · exact fun arena => Nat.le_of_eq (Program.size_withKind arena).symm
  · intro root hroot h
    refine Builder.Sound.root_withKind hadds h ?_
    rintro rfl
    exact hkeep hroot

end Nodes

/-! ## Classes and attributes -/

theorem adds_withMember (member : NodeId) : Program.Adds member (withMember member) where
  children kind := by
    cases kind with
    | compilationUnit members => exact Or.inr (.refl _)
    | typeDeclaration name symbol attributes members =>
      refine Or.inr ?_
      rw [withMember, NodeKind.children, NodeKind.children, List.append_assoc]
    | _ => exact Or.inl rfl
  declaredMethod kind := by cases kind <;> rfl
  symbol kind := by cases kind <;> rfl
  extra kind := by cases kind <;> rfl

theorem adds_withAttribute (node : NodeId) : Program.Adds node (withAttribute node) where
  children kind := by
    cases kind with
    | typeDeclaration name symbol attributes members =>
      refine Or.inr ?_
      rw [withAttribute, NodeKind.children, NodeKind.children, List.append_assoc,
        List.append_assoc]
      exact List.perm_append_comm.append_left _
    | _ => exact Or.inl rfl
  declaredMethod kind := by cases kind <;> rfl
  symbol kind := by cases kind <;> rfl
  extra kind := by cases kind <;> rfl

/-- A node that is new is none of the roots to keep. -/
theorem not_kept_of_size_le {id : NodeId} (h : b.program.nodes.size ≤ id.index) :
    ¬ (keep id ∧ b.program.Has id) :=
  fun hkept => Nat.lt_irrefl _ (Nat.lt_of_lt_of_le hkept.2 h)

/-- A root becomes the declaration of a type that has none. -/
theorem setDeclaration_makes (hb : b.Sound) {id : TypeId} {symbol : TypeSymbol}
    (hsymbol : b.program.types[id.index]? = some symbol) (hnone : symbol.declaration = none)
    {declaration : NodeId} (hroot : b.Root declaration) (hkeep : ¬ keep declaration) :
    Makes (changeType id fun symbol => { symbol with declaration := some declaration }) b keep
      fun _ b' => b'.program.nodes = b.program.nodes ∧ b'.units = b.units ∧ b'.file = b.file := by
  have hid : b.program.Has id := (Array.getElem?_eq_some_iff.mp hsymbol).1
  refine changeType_makes_of hb hid (fun _ link => by cases link <;> rfl) ?_ ?_ ?_
  · exact fun _ h => { h with declaration := by rintro _ ⟨⟩; exact hroot.has }
  · intro symbol' _ hsymbol' hdeclaration
    cases hsymbol.symm.trans hsymbol'
    cases hnone.symm.trans hdeclaration
  · rintro _ _ _ ⟨⟩
    exact Or.inr ⟨hroot, hkeep⟩

theorem classType_makes (hb : b.Sound) {base : Option TypeId}
    (hbase : ∀ id, base = some id → b.program.Has id) (fullName : String) :
    Makes (classType fullName base) b All fun id b' => b'.program.Has id := by
  refine .of_old ?_
  unfold classType
  refine .bind_get (.bind_all (pushType_makes hb hbase fullName _) ?_)
  rintro id b₁ hb₁ hgrows₁ ⟨symbol, hsymbol, hnone⟩
  have hid : b₁.program.Has id := (Array.getElem?_eq_some_iff.mp hsymbol).1
  refine .bind_look (hb₁.inRange.type hid) fun _ _ => ?_
  refine .bind_all (alloc_leaf_makes hb₁ (allBelow_cons.mpr ⟨hid, allBelow_nil⟩) rfl)
    fun declaration b₂ hb₂ hgrows₂ hadded => ?_
  have hnew : ¬ (All declaration ∧ b.program.Has declaration) :=
    not_kept_of_size_le (Nat.le_trans (hgrows₁.size .node) hadded.fresh)
  refine .bind (setDeclaration_makes hb₂ (hadded.types ▸ hsymbol) hnone hadded.root hnew)
    fun _ b₃ hb₃ hgrows₃ hsame => ?_
  obtain ⟨file, hfile⟩ := Option.isSome_iff_exists.mp hadded.file
  have hfile₃ := hsame.2.2.trans hfile
  refine .bind_currentFile hfile₃ (.bind_get ?_)
  have hid₃ := hgrows₃.has (hgrows₂.has hid)
  obtain ⟨unit, hget, hunit⟩ := hb₃.exists_unit hfile₃
  simp only [hget]
  -- The declaration is no root any more, but the nodes are the same and it is still no child.
  refine .bind (changeKind_makes hb₃ (adds_withMember declaration) (hb₃.unitsInRange unit hunit)
    (Or.inl hunit) (hgrows₃.has hadded.root.has) ?_ ?_ hnew)
    fun _ b₄ hb₄ hgrows₄ _ => .pure hb₄ (hgrows₄.has hid₃)
  · rw [hsame.2.1]
    exact hadded.root.notUnit
  · rw [Program.listedChildren, hsame.1]
    exact hadded.root.notListed

/-- A step that makes a root a child of the declaration of a type. -/
theorem changeDeclaration_makes (hb : b.Sound) {symbol : TypeSymbol}
    (hsymbol : symbol ∈ b.program.types) {declaration child : NodeId}
    (hdeclaration : symbol.declaration = some declaration) {f : NodeKind → NodeKind}
    (hadds : Program.Adds child f) (hchild : b.Root child) (hkeep : ¬ keep child) :
    Makes (changeKind declaration f) b keep fun _ _ => True :=
  have hdeclares : b.program.DeclaresType declaration := ⟨symbol, hsymbol, hdeclaration⟩
  changeKind_makes hb hadds (hb.has_of_declaresType hdeclares)
    (Or.inr ⟨hdeclares, hchild.notDeclared⟩) hchild.has hchild.notUnit hchild.notListed hkeep

theorem attributeOn_makes (hb : b.Sound) {target attributeClass : TypeId}
    (htarget : b.program.Has target) (hclass : b.program.Has attributeClass)
    {arguments : List AttributeArgument}
    (harguments : ∀ id ∈ AttributeArgument.typesOfItems arguments, b.program.Has id) :
    Makes (attributeOn target attributeClass arguments) b All fun id b' => b'.program.Has id := by
  refine .of_old ?_
  unfold attributeOn
  refine .bind_look (hb.inRange.type hclass) fun symbol _ => ?_
  refine .bind_all (alloc_leaf_makes hb allBelow_nil rfl)
    fun site b₁ hb₁ hgrows₁ hadded => ?_
  have hsite := hadded.root.has
  have hattribute : ∀ b₂, b₂.Sound → b₁.Grows (fun id => All id ∧ b.program.Has id) b₂ →
      Makes (do
        changeType target fun symbol => { symbol with
          attributes := symbol.attributes ++ [{ attributeClass, arguments, site := some site }] }
        return site) b₂ (fun id => All id ∧ b.program.Has id) fun id b' => b'.program.Has id := by
    intro b₂ hb₂ hgrows₂
    refine .bind_all (changeType_makes hb₂ (hgrows₂.has (hgrows₁.has htarget))
      (fun _ link => by cases link <;> rfl) (fun _ => rfl) ?_)
      fun _ b₃ hb₃ hgrows₃ _ => .pure hb₃ (hgrows₃.has (hgrows₂.has hsite))
    intro symbol hsymbol
    refine { hsymbol with attributes := List.forall_mem_append.mpr ⟨hsymbol.attributes, ?_⟩ }
    rintro data hdata
    cases List.mem_singleton.mp hdata
    exact ⟨hgrows₂.has (hgrows₁.has hclass), by rintro _ ⟨⟩; exact hgrows₂.has hsite,
      fun id hid => hgrows₂.has (hgrows₁.has (harguments id hid))⟩
  refine .bind_look (Program.fetch_answers (hgrows₁.has htarget)) fun symbol hsymbol => ?_
  dsimp only
  split
  · rename_i declaration hdeclaration
    exact .bind (changeDeclaration_makes hb₁ hsymbol hdeclaration (adds_withAttribute site)
      hadded.root (not_kept_of_size_le hadded.fresh))
      fun _ b₂ hb₂ hgrows₂ _ => hattribute b₂ hb₂ hgrows₂
  · exact hattribute b₁ hb₁ (.refl b₁)

/-! ## Methods -/

theorem pushMethod_makes (hb : b.Sound) {owner : Option TypeId}
    (howner : ∀ id, owner = some id → b.program.Has id) {spec : MethodSpec}
    (hspec : AllBelow b.program.size spec.references) (kind : MethodKind) (isImplicit : Bool) :
    Makes (pushMethod owner kind spec isImplicit) b All fun id b' => b'.program.Has id := by
  have hsymbol : AllBelow b.program.size (MethodSymbol.references
      { name := spec.name, kind, containingType := owner, isStatic := spec.isStatic, isImplicit
        parameters := spec.parameters, returnType := spec.returnType }) := by
    obtain ⟨hreturn, hparameters⟩ := allBelow_append.mp hspec
    simp only [MethodSymbol.references, allBelow_append]
    exact ⟨⟨⟨allBelow_references.mpr howner, hreturn⟩, hparameters⟩, allBelow_nil⟩
  unfold pushMethod
  refine .bind_get (.bind_all (change_symbols_makes hb (hb.inRange.withMethod hsymbol)
    (b.program.size_le_withMethod _) rfl rfl rfl) fun _ b₁ hb₁ hgrows₁ hprogram => ?_)
  have hid : b₁.program.Has (⟨b.program.methods.size⟩ : MethodId) := by
    rw [Program.Has, hprogram]
    exact Nat.lt_of_lt_of_eq (Nat.lt_succ_self _) (Array.size_push ..).symm
  cases owner with
  | none => exact .pure hb₁ hid
  | some type =>
    dsimp only
    split
    · refine .bind_all (changeType_makes hb₁ (hgrows₁.has (howner type rfl))
        (fun _ link => by cases link <;> rfl) (fun _ => rfl) fun symbol h => ?_)
        fun _ b₂ hb₂ hgrows₂ _ => .pure hb₂ (hgrows₂.has hid)
      refine { h with members := List.forall_mem_append.mpr ⟨h.members, ?_⟩ }
      intro id hmem
      cases List.mem_singleton.mp hmem
      exact hid
    · exact .pure hb₁ hid

section Owned

variable {owner : TypeId} (hb : b.Sound) (howner : b.program.Has owner)

include hb howner

theorem externalMethod_makes {spec : MethodSpec}
    (hspec : AllBelow b.program.size spec.references) :
    Makes (externalMethod owner spec) b All fun id b' => b'.program.Has id := by
  refine pushMethod_makes hb ?_ hspec .ordinary false
  rintro _ ⟨⟩
  exact howner

theorem implicitConstructor_makes :
    Makes (implicitConstructor owner) b All fun id b' => b'.program.Has id := by
  refine pushMethod_makes hb ?_ allBelow_nil .constructor true
  rintro _ ⟨⟩
  exact howner

theorem methodNamed_makes (name : String) :
    Makes (methodNamed owner name) b All fun id b' => b'.program.Has id := by
  have hfind : Answers (do
      (← b.program.type owner).members.findM? fun member =>
        return (← b.program.method member).name == name)
      fun id? => ∀ id, id? = some id → b.program.Has id := by
    refine (hb.inRange.type howner).bind fun symbol hsymbol => (Answers.findM? fun id hid =>
      (hb.inRange.method (hsymbol.members id hid)).bind fun _ _ => .pure trivial).mono ?_
    exact fun id? h id hid => hsymbol.members id (h id hid)
  unfold methodNamed
  refine .bind_look hfind fun id? hid? => ?_
  cases id? with
  | some id => exact .pure hb (hid? id rfl)
  | none => exact externalMethod_makes hb howner allBelow_nil

end Owned

theorem modifiersOf_makes (hb : b.Sound) (words : List String) :
    Makes (modifiersOf words) b All fun _ _ => True := by
  unfold modifiersOf
  induction words generalizing b with
  | nil => exact .pure hb trivial
  | cons word words ih =>
    rw [List.mapM_cons, bind_assoc]
    refine .bind_all (nextSpan_makes hb _) fun span b₁ hb₁ _ _ => ?_
    rw [pure_bind]
    exact .bind_all (ih hb₁) fun _ b₂ hb₂ _ _ => .pure hb₂ trivial

/-- The nodes of parameters are new roots. -/
theorem parameterNodes_makes (hb : b.Sound) (spec : MethodSpec) :
    Makes (parameterNodes spec) b All fun ids b' =>
      (∀ id ∈ ids, b'.Root id ∧ b.program.nodes.size ≤ id.index) ∧ ids.Nodup := by
  unfold parameterNodes
  generalize spec.parameters = parameters
  induction parameters generalizing b with
  | nil => exact .pure hb (by simp)
  | cons parameter parameters ih =>
    rw [List.mapM_cons]
    refine .bind_all (alloc_leaf_makes hb allBelow_nil rfl)
      fun id b₁ hb₁ hgrows₁ hadded => ?_
    refine .bind_all (ih hb₁) fun ids b₂ hb₂ hgrows₂ hids => .pure hb₂ ⟨?_, ?_⟩
    · refine List.forall_mem_cons.mpr ⟨⟨hgrows₂.root id trivial hadded.root, hadded.fresh⟩, ?_⟩
      exact fun other hother => ⟨(hids.1 other hother).1,
        Nat.le_trans (hgrows₁.size .node) (hids.1 other hother).2⟩
    -- The later nodes have places that were still free when this one was made.
    · refine List.nodup_cons.mpr ⟨fun hmem => ?_, hids.2⟩
      exact Nat.lt_irrefl _ (Nat.lt_of_lt_of_le hadded.root.has (hids.1 id hmem).2)

theorem declare_makes (hb : b.Sound) {id : MethodId} (hid : b.program.Has id)
    {declaration : NodeId} (hdeclaration : b.program.Has declaration) :
    Makes (declare id declaration) b All fun _ _ => True := by
  unfold declare changeMethod
  refine .bind_look (hb.inRange.method hid) fun _ _ => (change_symbols_makes hb
    (hb.inRange.withDeclaration hdeclaration)
    (fun arena => Nat.le_of_eq (Program.size_withDeclaration arena).symm)
    rfl rfl rfl).imp fun _ _ _ _ => trivial

theorem addMember_makes (hb : b.Sound) {owner : TypeId} (howner : b.program.Has owner)
    {member : NodeId} (hmember : b.Root member) (hkeep : ¬ keep member) :
    Makes (addMember owner member) b keep fun _ _ => True := by
  unfold addMember
  refine .bind_look (Program.fetch_answers howner) fun symbol hsymbol => ?_
  split
  · rename_i declaration hdeclaration
    exact changeDeclaration_makes hb hsymbol hdeclaration (adds_withMember member) hmember hkeep
  · exact .pure hb trivial

/-- The steps that all functions share after their method is made. Modifiers and parameters come
first, then the node of the function with its parameters and its body as children, which is tied to
the method. -/
theorem declaration_makes {b₀ : Builder} {Q : β → Builder → Prop} (hb : b.Sound)
    (hgrows : b₀.Grows All b) {id : MethodId} (hid : b.program.Has id) {spec : MethodSpec}
    {make : List Modifier → List NodeId → NodeKind} {body : List NodeId} {rest : NodeId → Build β}
    (hsymbols : ∀ modifiers parameters,
      (make modifiers parameters).symbolReferences = [id.reference])
    (hchildren : ∀ modifiers parameters,
      (make modifiers parameters).children = parameters ++ body)
    (hbody : ∀ child ∈ body, b₀.Root child) (hnodup : body.Nodup)
    (hkeep : ∀ child ∈ body, ¬ keep child)
    (hrest : ∀ declaration b', b'.Sound → b.Grows (fun id => keep id ∧ b₀.program.Has id) b' →
      b'.Root declaration → ¬ (keep declaration ∧ b₀.program.Has declaration) →
      Makes (rest declaration) b' (fun id => keep id ∧ b₀.program.Has id) Q) :
    Makes (do
      let modifiers ← modifiersOf spec.modifiers
      let parameters ← parameterNodes spec
      let declaration ← alloc (make modifiers parameters)
      declare id declaration
      rest declaration) b (fun id => keep id ∧ b₀.program.Has id) Q := by
  refine .bind_all (modifiersOf_makes hb spec.modifiers) fun modifiers b₁ hb₁ hgrows₁ _ => ?_
  refine .bind_all (parameterNodes_makes hb₁ spec) fun parameters b₂ hb₂ hgrows₂ hparameters => ?_
  have hgrows₀ := hgrows.trans hgrows₁
  have hfresh : ∀ parameter ∈ parameters, b₀.program.nodes.size ≤ parameter.index :=
    fun parameter hmem => Nat.le_trans (hgrows₀.size .node) (hparameters.1 parameter hmem).2
  refine .bind (alloc_makes hb₂ ?_ ?_ ?_ ?_)
    fun declaration b₃ hb₃ hgrows₃ hadded => ?_
  · rw [hsymbols]
    exact allBelow_cons.mpr ⟨hgrows₂.has (hgrows₁.has hid), allBelow_nil⟩
  · rw [hchildren]
    exact List.forall_mem_append.mpr ⟨fun child hchild => (hparameters.1 child hchild).1,
      fun child hchild => (hgrows₀.trans hgrows₂).root child trivial (hbody child hchild)⟩
  · rw [hchildren]
    refine List.nodup_append.mpr ⟨hparameters.2, hnodup, ?_⟩
    rintro child hparameter _ hchild rfl
    exact Nat.lt_irrefl _ (Nat.lt_of_lt_of_le (hbody child hchild).has (hfresh child hparameter))
  · rw [hchildren]
    exact List.forall_mem_append.mpr ⟨fun child hchild => not_kept_of_size_le (hfresh child hchild),
      fun child hchild hkept => hkeep child hchild hkept.1⟩
  · refine .bind_all (declare_makes hb₃ (hgrows₃.has (hgrows₂.has (hgrows₁.has hid)))
      hadded.root.has) fun _ b₄ hb₄ hgrows₄ _ => hrest declaration b₄ hb₄ ?_ ?_ ?_
    · exact (((hgrows₁.trans hgrows₂).mono fun _ _ => trivial).trans hgrows₃).trans
        (hgrows₄.mono fun _ _ => trivial)
    · exact hgrows₄.root declaration trivial hadded.root
    · exact not_kept_of_size_le
        (Nat.le_trans ((hgrows₀.trans hgrows₂).size .node) hadded.fresh)

/-- A member of a type is put into its declaration. -/
theorem member_makes (hb : b.Sound) {owner : TypeId} (howner : b.program.Has owner) {id : MethodId}
    (hid : b.program.Has id) {declaration : NodeId} (hroot : b.Root declaration)
    (hkeep : ¬ keep declaration) :
    Makes (do addMember owner declaration; return id) b keep fun id b' => b'.program.Has id :=
  .bind (addMember_makes hb howner hroot hkeep)
    fun _ _ hb' hgrows _ => .pure hb' (hgrows.has hid)

section Functions

variable {spec : MethodSpec} (hb : b.Sound) (hspec : AllBelow b.program.size spec.references)

include hb hspec

section Members

variable {owner : TypeId} (howner : b.program.Has owner) {body : Option NodeId}
  (hbody : ∀ child ∈ body.toList, b.Root child) (hkeep : ∀ child ∈ body.toList, ¬ keep child)

include howner hbody hkeep

theorem method_makes :
    Makes (method owner spec body) b keep fun id b' => b'.program.Has id := by
  have howner' : ∀ id, some owner = some id → b.program.Has id := by
    rintro _ ⟨⟩
    exact howner
  refine .of_old ?_
  unfold method
  refine .bind_all (pushMethod_makes hb howner' hspec _ _)
    fun id b₁ hb₁ hgrows₁ hid => .bind_get ?_
  exact declaration_makes hb₁ hgrows₁ hid (fun _ _ => rfl) (fun _ _ => rfl) hbody
    (by cases body <;> simp) hkeep fun _ _ hb₂ hgrows₂ hroot hnew =>
      member_makes hb₂ (hgrows₂.has (hgrows₁.has howner)) (hgrows₂.has hid) hroot hnew

theorem constructor_makes :
    Makes (constructor owner spec body) b keep fun id b' => b'.program.Has id := by
  have howner' : ∀ id, some owner = some id → b.program.Has id := by
    rintro _ ⟨⟩
    exact howner
  have hspec' : AllBelow b.program.size (MethodSpec.references { spec with name := ".ctor" }) :=
    hspec
  refine .of_old ?_
  unfold constructor
  refine .bind_all (pushMethod_makes hb howner' hspec' _ _) fun id b₁ hb₁ hgrows₁ hid => ?_
  exact declaration_makes hb₁ hgrows₁ hid (fun _ _ => rfl) (fun _ _ => rfl) hbody
    (by cases body <;> simp) hkeep fun _ _ hb₂ hgrows₂ hroot hnew =>
      member_makes hb₂ (hgrows₂.has (hgrows₁.has howner)) (hgrows₂.has hid) hroot hnew

end Members

section Bodies

variable {body : NodeId} (hbody : b.Root body) (hkeep : ¬ keep body)

include hbody hkeep

theorem localFunction_makes {owner : Option TypeId}
    (howner : ∀ id, owner = some id → b.program.Has id) :
    Makes (localFunction owner spec body) b keep fun id b' => b'.Root id := by
  refine .of_old ?_
  unfold localFunction
  refine .bind_all (pushMethod_makes hb howner hspec _ _) fun id b₁ hb₁ hgrows₁ hid => ?_
  exact declaration_makes hb₁ hgrows₁ hid (fun _ _ => rfl) (fun _ _ => rfl)
    (List.forall_mem_singleton.mpr hbody) (List.nodup_singleton body)
    (List.forall_mem_singleton.mpr hkeep) fun _ _ hb₂ _ hroot _ => .pure hb₂ hroot

theorem anonymousFunction_makes (form : FunctionSyntax) :
    Makes (anonymousFunction form spec body) b keep fun id b' => b'.Root id := by
  refine .of_old ?_
  unfold anonymousFunction
  refine .bind_all (pushMethod_makes hb (by simp) hspec _ _) fun id b₁ hb₁ hgrows₁ hid => ?_
  exact declaration_makes hb₁ hgrows₁ hid (fun _ _ => rfl) (fun _ _ => rfl)
    (List.forall_mem_singleton.mpr hbody) (List.nodup_singleton body)
    (List.forall_mem_singleton.mpr hkeep) fun _ _ hb₂ _ hroot _ => .pure hb₂ hroot

end Bodies

end Functions

theorem newObject_makes (hb : b.Sound) {type : TypeId} (htype : b.program.Has type)
    {arguments : List NodeId} (harguments : ∀ child ∈ arguments, b.Root child)
    (hnodup : arguments.Nodup) (hkeep : ∀ child ∈ arguments, ¬ keep child) :
    Makes (newObject type arguments) b keep fun id b' => Added b b' id := by
  unfold newObject
  exact .bind_look (hb.inRange.type htype) fun _ _ =>
    alloc_makes hb (allBelow_cons.mpr ⟨htype, allBelow_nil⟩) harguments hnodup hkeep

end Build

end ModLint
