import ModLint.Proofs.BuildRuns
import ModLint.Proofs.SymbolWalks

/-!
# Changes that calls of a builder are made of

Whatever ids it is given, a call of a builder that returns has done a few *changes*, one after the
other: it made a namespace that was not there, a type, a file or a node, took a line for a modifier,
or changed a symbol or a node within narrow limits. So what every change keeps is kept by any number
of calls, and there are eight changes to look at instead of all calls.

No call here has to be proper. An id that the program does not have ends a call with a fault, and
the look-ups where that can happen are named in the lemmas.
-/

namespace ModLint

open Relation

theorem Program.Segmented.has {p : Program} {id? : Option NamespaceId} {names : List String}
    (h : p.Segmented id? names) : ∀ id, id? = some id → p.Has id := by
  cases h with
  | global => exact fun _ hid => absurd hid (by simp)
  | inside hspace _ =>
    rintro _ ⟨⟩
    exact Program.lt_size_of_fetch hspace

namespace Builder

/-- The line that the next text of a width takes. -/
def nextLine (b : Builder) (width : Nat) : Span where
  startByte := b.offset
  endByte := b.offset + width
  startLine := b.line
  startColumn := 1
  endLine := b.line
  endColumn := 1 + width

/-- A builder behind a text of a width. -/
def advance (b : Builder) (width : Nat) : Builder :=
  { b with offset := b.offset + width + 1, line := b.line + 1 }

/-- A builder with a further node in a file. -/
def withNode (b : Builder) (file : FileId) (kind : NodeKind) : Builder :=
  { b.advance kind.name.length with
    program := b.program.withNode { file, span := b.nextLine kind.name.length, kind } }

/-- A builder at the start of a file that it does not have yet. -/
def atStart (b : Builder) (path : String) : Builder :=
  { b with
    program := { b.program with files := b.program.files.push { path } }
    file := some ⟨b.program.files.size⟩, offset := 0, line := 1 }

/-- A builder with a further file, whose first node stands for all of it. -/
def withFile (b : Builder) (path : String) : Builder :=
  { (b.atStart path).withNode ⟨b.program.files.size⟩ (.compilationUnit []) with
    units := b.units.push ⟨b.program.nodes.size⟩ }

/-- A change of a type that leaves its name and its namespace, and adds no member that the program
does not have. -/
structure KeepsName (b : Builder) (f : TypeSymbol → TypeSymbol) : Prop where
  name : ∀ symbol, (f symbol).name = symbol.name
  nameSpace : ∀ symbol, (f symbol).nameSpace = symbol.nameSpace
  containingType : ∀ symbol, (f symbol).containingType = symbol.containingType
  members : ∀ symbol, ∀ id ∈ (f symbol).members, id ∈ symbol.members ∨ b.program.Has id

/-- What a call does at a time. -/
inductive Change (b : Builder) : Builder → Prop
  | nameSpace (space : Namespace) (hparent : ∀ id, space.parent = some id → b.program.Has id)
      (hnew : space ∉ b.program.namespaces) :
      Change b { b with program := b.program.withNamespace space }
  | type (symbol : TypeSymbol) (hspace : ∀ id, symbol.nameSpace = some id → b.program.Has id)
      (hcontaining : symbol.containingType = none) (hmembers : symbol.members = []) :
      Change b { b with program := b.program.withType symbol }
  | retype (id : TypeId) (f : TypeSymbol → TypeSymbol) (hf : b.KeepsName f) :
      Change b { b with program := b.program.retype id f }
  | members (methods : Array MethodSymbol) (properties : Array PropertySymbol)
      (events : Array EventSymbol) (hmethods : b.program.methods.size ≤ methods.size)
      (hproperties : ∀ (i : Nat) symbol, b.program.properties[i]? = some symbol →
        properties[i]? = some symbol) :
      Change b { b with program := { b.program with methods, properties, events } }
  | advance (width : Nat) : Change b (b.advance width)
  | node (file : FileId) (kind : NodeKind) (hfile : b.file = some file) :
      Change b (b.withNode file kind)
  | file (path : String) : Change b (b.withFile path)
  | rekind (id : NodeId) (f : NodeKind → NodeKind)
      (hf : ∀ members, ∃ members', f (.compilationUnit members) = .compilationUnit members') :
      Change b { b with program := b.program.withKind id f }

/-- Any number of changes. -/
def Changes : Builder → Builder → Prop :=
  ReflTransGen Change

/-- One call that returns. -/
def Step (b b' : Builder) : Prop :=
  ∃ call ids, (BuildCall.run call).run b = .ok (ids, b')

/-- Any number of calls that return. -/
def Steps : Builder → Builder → Prop :=
  ReflTransGen Step

theorem Steps.of_runAll {calls : List BuildCall} {history history' : History} {b b' : Builder}
    (h : (BuildCall.runAll history calls).run b = .ok (history', b')) : b.Steps b' := by
  induction calls generalizing history b with
  | nil =>
    cases h
    exact .refl
  | cons call calls ih =>
    rw [BuildCall.runAll, StateT.run_bind, except_bind_eq_ok] at h
    obtain ⟨⟨ids, b₁⟩, hcall, hrest⟩ := h
    exact .head ⟨call, ids, hcall⟩ (ih hrest)

/-- The builder that calls lead to from the start, if all of them return. -/
def built? (assembly : String) (calls : List BuildCall) : Option Builder :=
  ((BuildCall.runAll {} calls).run (Builder.new assembly)).toOption.map Prod.snd

theorem Steps.of_built? {assembly : String} {calls : List BuildCall} {b : Builder}
    (h : built? assembly calls = some b) : (Builder.new assembly).Steps b := by
  unfold built? at h
  cases hrun : (BuildCall.runAll {} calls).run (Builder.new assembly) with
  | error fault =>
    rw [hrun] at h
    cases h
  | ok made =>
    rw [hrun] at h
    cases h
    exact .of_runAll hrun

/-! ## What stays -/

/-- What no change takes away or renames. -/
structure Kept (b b' : Builder) : Prop where
  nameSpace : ∀ id space, b.program.nameSpace id = .ok space → b'.program.nameSpace id = .ok space
  type : ∀ id symbol, b.program.type id = .ok symbol → ∃ symbol',
    b'.program.type id = .ok symbol' ∧ symbol'.name = symbol.name ∧
      symbol'.nameSpace = symbol.nameSpace
  property : ∀ id symbol, b.program.property id = .ok symbol →
    b'.program.property id = .ok symbol

variable {b b' b'' : Builder}

theorem Kept.refl (b : Builder) : Kept b b where
  nameSpace _ _ h := h
  type _ symbol h := ⟨symbol, h, rfl, rfl⟩
  property _ _ h := h

theorem Kept.trans (h : Kept b b') (h' : Kept b' b'') : Kept b b'' where
  nameSpace id space hspace := h'.nameSpace id space (h.nameSpace id space hspace)
  type id symbol hsymbol := by
    obtain ⟨symbol', hsymbol', hname', hspace'⟩ := h.type id symbol hsymbol
    obtain ⟨symbol'', hsymbol'', hname'', hspace''⟩ := h'.type id symbol' hsymbol'
    exact ⟨symbol'', hsymbol'', hname''.trans hname', hspace''.trans hspace'⟩
  property id symbol hsymbol := h'.property id symbol (h.property id symbol hsymbol)

theorem fetch_push {α : Type} {items : Array α} {arena : Arena} {id : ItemId arena} {item : α}
    (h : Program.fetch items id = .ok item) (next : α) :
    Program.fetch (items.push next) id = .ok item := by
  have hget := Program.fetch_eq_ok_iff.mp h
  have hlt := Program.lt_size_of_fetch h
  rw [Program.fetch_eq_ok_iff, Array.getElem?_push, if_neg (by omega), hget]

theorem fetch_push_size {α : Type} {arena : Arena} (items : Array α) (item : α) :
    Program.fetch (items.push item) (⟨items.size⟩ : ItemId arena) = .ok item := by
  rw [Program.fetch_eq_ok_iff, Array.getElem?_push, if_pos rfl]

theorem fetch_push_eq_ok {α : Type} {items : Array α} {arena : Arena} {id : ItemId arena}
    {item next : α} (h : Program.fetch (items.push next) id = .ok item) :
    Program.fetch items id = .ok item ∨ id.index = items.size ∧ item = next := by
  rw [Program.fetch_eq_ok_iff, Array.getElem?_push] at h
  split at h
  · rename_i hsize
    exact Or.inr ⟨hsize, (Option.some.inj h).symm⟩
  · exact Or.inl (Program.fetch_eq_ok_iff.mpr h)

theorem fetch_modify {α : Type} {items : Array α} {arena : Arena} {id : ItemId arena} {item : α}
    (h : Program.fetch items id = .ok item) (i : Nat) (f : α → α) :
    Program.fetch (items.modify i f) id = .ok (if i = id.index then f item else item) := by
  rw [Program.fetch_eq_ok_iff, Array.getElem?_modify, Program.fetch_eq_ok_iff.mp h]
  split <;> rfl

theorem Change.kept (h : b.Change b') : Kept b b' := by
  cases h with
  | nameSpace space hparent hnew =>
    exact { Kept.refl b with nameSpace := fun _ _ h => fetch_push h space }
  | type symbol hspace hcontaining hmembers =>
    exact { Kept.refl b with type := fun _ old h => ⟨old, fetch_push h symbol, rfl, rfl⟩ }
  | retype id f hf =>
    refine { Kept.refl b with type := fun other symbol h => ?_ }
    refine ⟨_, fetch_modify h id.index f, ?_⟩
    split
    · exact ⟨hf.name symbol, hf.nameSpace symbol⟩
    · exact ⟨rfl, rfl⟩
  | members methods properties events hmethods hproperties =>
    refine { Kept.refl b with property := fun id symbol h => ?_ }
    exact Program.fetch_eq_ok_iff.mpr (hproperties _ _ (Program.fetch_eq_ok_iff.mp h))
  | advance width => exact { Kept.refl b with }
  | node file kind hfile => exact { Kept.refl b with }
  | file path => exact { Kept.refl b with }
  | rekind id f hf => exact { Kept.refl b with }

theorem Changes.kept (h : b.Changes b') : Kept b b' := by
  induction h with
  | refl => exact .refl b
  | tail _ hchange ih => exact ih.trans hchange.kept

theorem Kept.has_type (h : Kept b b') {id : TypeId} (hid : b.program.Has id) :
    b'.program.Has id := by
  obtain ⟨symbol, hsymbol, -⟩ := Program.fetch_answers hid
  obtain ⟨symbol', hsymbol', -⟩ := h.type id symbol hsymbol
  exact Program.lt_size_of_fetch hsymbol'

theorem Kept.segmented (h : Kept b b') {id? : Option NamespaceId} {names : List String}
    (hnames : b.program.Segmented id? names) : b'.program.Segmented id? names := by
  induction hnames with
  | global => exact .global
  | inside hspace _ ih => exact .inside (h.nameSpace _ _ hspace) ih

end Builder

namespace Build

open Builder (Change Changes Kept KeepsName)

variable {α β : Type} {faulty : Prop} {b : Builder}

/-- A step that meets a fault only if that is allowed; else it does changes, and something is known
about its value and the builder after it. -/
structure Acts (faulty : Prop) (x : Build α) (b : Builder) (Q : α → Builder → Prop) : Prop where
  ok : ∀ a b', x.run b = .ok (a, b') → b.Changes b' ∧ Q a b'
  error : ∀ fault, x.run b = .error fault → faulty

namespace Acts

variable {P : α → Builder → Prop} {Q : β → Builder → Prop}

theorem of_run {x : Build α} {a : α} {b' : Builder} (hrun : x.run b = .ok (a, b'))
    (hchanges : b.Changes b') (h : P a b') : Acts faulty x b P where
  ok := by
    intro a' b'' hrun'
    cases hrun.symm.trans hrun'
    exact ⟨hchanges, h⟩
  error := by
    intro fault hrun'
    cases hrun.symm.trans hrun'

theorem pure {a : α} (h : P a b) : Acts faulty (Pure.pure a) b P :=
  of_run rfl .refl h

theorem throw (fault : Fault) : Acts True (MonadExcept.throw fault : Build α) b P where
  ok := by
    intro a b' hrun
    cases hrun
  error _ _ := trivial

theorem imp {x : Build α} {P' : α → Builder → Prop} (hx : Acts faulty x b P)
    (h : ∀ a b', b.Changes b' → P a b' → P' a b') : Acts faulty x b P' where
  ok a b' hrun := by
    obtain ⟨hchanges, ha⟩ := hx.ok a b' hrun
    exact ⟨hchanges, h a b' hchanges ha⟩
  error := hx.error

theorem bind {x : Build α} {f : α → Build β} (hx : Acts faulty x b P)
    (hf : ∀ a b', b.Changes b' → P a b' → Acts faulty (f a) b' Q) :
    Acts faulty (x >>= f) b Q := by
  cases hrun : x.run b with
  | error fault =>
    have hbind : (x >>= f).run b = .error fault := by
      rw [StateT.run_bind, hrun]
      rfl
    refine ⟨fun c b'' hrun' => ?_, fun _ _ => hx.error fault hrun⟩
    cases hbind.symm.trans hrun'
  | ok made =>
    obtain ⟨a, b'⟩ := made
    obtain ⟨hchanges, ha⟩ := hx.ok a b' hrun
    have hbind : (x >>= f).run b = (f a).run b' := by
      rw [StateT.run_bind, hrun]
      rfl
    have hrest := hf a b' hchanges ha
    refine ⟨fun c b'' hrun' => ?_, fun fault hrun' => hrest.error fault (hbind ▸ hrun')⟩
    obtain ⟨hchanges', hc⟩ := hrest.ok c b'' (hbind ▸ hrun')
    exact ⟨hchanges.trans hchanges', hc⟩

theorem bind_get {f : Builder → Build β} (h : Acts faulty (f b) b Q) :
    Acts faulty (get >>= f) b Q where
  ok := h.ok
  error := h.error

/-- A step that may not meet a fault returns. -/
theorem exists_run {x : Build α} (hx : Acts False x b P) :
    ∃ a b', x.run b = .ok (a, b') ∧ b.Changes b' ∧ P a b' := by
  cases hrun : x.run b with
  | error fault => exact (hx.error fault hrun).elim
  | ok made => exact ⟨made.1, made.2, rfl, hx.ok made.1 made.2 hrun⟩

/-- A look-up changes nothing. -/
theorem bind_look {question : Program → Lookup α} {f : α → Build β}
    (hfault : ∀ fault, question b.program = .error fault → faulty)
    (h : ∀ a, question b.program = .ok a → Acts faulty (f a) b Q) :
    Acts faulty (look question >>= f) b Q := by
  have hlook : Acts faulty (look question) b fun a b' => b' = b ∧ question b.program = .ok a := by
    cases hanswer : question b.program with
    | error fault =>
      have hrun : (look question).run b = .error fault := by
        rw [look, StateT.run_bind]
        simp [hanswer]
      refine ⟨fun a b' hrun' => ?_, fun _ _ => hfault fault hanswer⟩
      cases hrun.symm.trans hrun'
    | ok a =>
      have hrun : (look question).run b = .ok (a, b) := by
        rw [look, StateT.run_bind]
        simp [hanswer]
      exact of_run hrun .refl ⟨rfl, rfl⟩
  refine hlook.bind ?_
  rintro a _ - ⟨rfl, hanswer⟩
  exact h a hanswer

end Acts

theorem change_acts {f : Program → Program}
    (h : b.Change { b with program := f b.program }) :
    Acts faulty (change f) b fun _ b' => b' = { b with program := f b.program } :=
  .of_run rfl (.single h) rfl

/-! ## Files and nodes -/

theorem nextSpan_acts (width : Nat) :
    Acts faulty (nextSpan width) b fun _ b' => b' = b.advance width :=
  .of_run rfl (.single (.advance width)) rfl

theorem file_acts (path : String) :
    Acts faulty (file path) b fun id b' => id = ⟨b.program.files.size⟩ ∧ b' = b.withFile path :=
  .of_run rfl (.single (.file path)) ⟨rfl, rfl⟩

/-- The current file is the one that was started last, else one that is started now. -/
theorem currentFile_acts : Acts faulty currentFile b fun id b' =>
    b'.file = some id ∧ (b' = b ∨ b.file = none ∧ b' = b.withFile "Source.cs") := by
  unfold currentFile
  refine .bind_get ?_
  cases hfile : b.file with
  | some id => exact .pure ⟨hfile, Or.inl rfl⟩
  | none =>
    refine (file_acts _).imp ?_
    rintro id b' - ⟨rfl, rfl⟩
    exact ⟨rfl, Or.inr ⟨rfl, rfl⟩⟩

theorem allocIn_acts {file : FileId} (hfile : b.file = some file) (kind : NodeKind) :
    Acts faulty (allocIn file kind) b fun id b' =>
      id = ⟨b.program.nodes.size⟩ ∧ b' = b.withNode file kind :=
  .of_run rfl (.single (.node file kind hfile)) ⟨rfl, rfl⟩

/-- A node is added to the current file. -/
theorem alloc_acts (kind : NodeKind) : Acts faulty (alloc kind) b fun id b' =>
    ∃ file b₁, b₁.file = some file ∧ (b₁ = b ∨ b.file = none ∧ b₁ = b.withFile "Source.cs") ∧
      id = ⟨b₁.program.nodes.size⟩ ∧ b' = b₁.withNode file kind := by
  unfold alloc
  refine currentFile_acts.bind fun file b₁ _ hfile => (allocIn_acts hfile.1 kind).imp ?_
  rintro id b' - ⟨rfl, rfl⟩
  exact ⟨file, b₁, hfile.1, hfile.2, rfl, rfl⟩

theorem changeKind_acts {id : NodeId} {f : NodeKind → NodeKind}
    (hfault : ∀ fault, b.program.node id = .error fault → faulty)
    (hf : ∀ members, ∃ members', f (.compilationUnit members) = .compilationUnit members') :
    Acts faulty (changeKind id f) b fun _ b' =>
      b' = { b with program := b.program.withKind id f } := by
  unfold changeKind
  exact .bind_look hfault fun _ _ => change_acts (.rekind id f hf)

theorem withMember_unit (member : NodeId) (members : List NodeId) :
    ∃ members', withMember member (.compilationUnit members) = .compilationUnit members' :=
  ⟨_, rfl⟩

theorem withAttribute_unit (node : NodeId) (members : List NodeId) :
    ∃ members', withAttribute node (.compilationUnit members) = .compilationUnit members' :=
  ⟨_, rfl⟩

/-! ## Namespaces and types -/

/-- A builder in which only the namespaces differ. -/
def withNamespaces (b : Builder) (namespaces : Array Namespace) : Builder :=
  { b with program := { b.program with namespaces } }

theorem nameSpaceIn_acts {parent : Option NamespaceId}
    (hparent : ∀ id, parent = some id → b.program.Has id) (name : String) :
    Acts faulty (nameSpaceIn parent name) b fun id b' =>
      b'.program.nameSpace id = .ok { name, parent } ∧
        ∃ namespaces, b' = withNamespaces b namespaces := by
  unfold nameSpaceIn
  refine .bind_get ?_
  dsimp only
  split
  · rename_i index hindex
    obtain ⟨hlt, hfound, -⟩ := Array.findIdx?_eq_some_iff_getElem.mp hindex
    rw [Bool.and_eq_true, beq_iff_eq, beq_iff_eq] at hfound
    refine .pure ⟨Program.fetch_eq_ok_iff.mpr ?_, _, rfl⟩
    rw [Array.getElem?_eq_getElem hlt, ← hfound.1, ← hfound.2]
  · rename_i hnone
    have hnew : ({ name, parent } : Namespace) ∉ b.program.namespaces := by
      intro hmem
      have hfalse := Array.findIdx?_eq_none_iff.mp hnone _ hmem
      simp at hfalse
    refine (change_acts (.nameSpace { name, parent } hparent hnew)).bind ?_
    rintro _ b' - rfl
    exact .pure ⟨Builder.fetch_push_size _ _, _, rfl⟩

theorem nameSpaces_acts {parent : Option NamespaceId} {path : List String}
    (hparent : b.program.Segmented parent path) (names : List String) :
    Acts faulty (nameSpaces parent names) b fun id? b' =>
      b'.program.Segmented id? (path ++ names) ∧
        ∃ namespaces, b' = withNamespaces b namespaces := by
  induction names generalizing b parent path with
  | nil =>
    rw [List.append_nil]
    exact .pure ⟨hparent, _, rfl⟩
  | cons name names ih =>
    unfold nameSpaces
    refine (nameSpaceIn_acts hparent.has name).bind ?_
    rintro space b' hchanges ⟨hspace, namespaces, rfl⟩
    have hinner : (withNamespaces b namespaces).program.Segmented (some space) (path ++ [name]) :=
      .inside hspace (hchanges.kept.segmented hparent)
    refine (ih hinner).imp ?_
    rintro id? b'' - ⟨hid, namespaces', rfl⟩
    exact ⟨List.append_cons .. ▸ hid, namespaces', rfl⟩

/-- The names that a dotted path consists of. -/
def namesOf (dotted : String) : List String :=
  ((Text.splitAtEach '.' dotted.toList).filter fun segment => !segment.isEmpty).map String.ofList

theorem nameSpace_acts (dotted : String) : Acts faulty (nameSpace dotted) b fun id? b' =>
    b'.program.Segmented id? (namesOf dotted) ∧ ∃ namespaces, b' = withNamespaces b namespaces :=
  nameSpaces_acts .global _

/-- The path and the name that a full name is cut into. -/
def pathAndName (fullName : String) : List Char × List Char :=
  (Text.splitLast? '.' fullName.toList).getD ([], fullName.toList)

theorem pushType_acts (fullName assembly : String) (base : Option TypeId) :
    Acts faulty (pushType fullName assembly base) b fun id b' =>
      id = ⟨b.program.types.size⟩ ∧ ∃ symbol namespaces,
        b' = { b with program := { b.program with
          namespaces, types := b.program.types.push symbol } } ∧
        symbol.name = String.ofList (pathAndName fullName).2 ∧
        b'.program.Segmented symbol.nameSpace
          (namesOf (String.ofList (pathAndName fullName).1)) := by
  unfold pushType
  rw [← pathAndName]
  refine (nameSpace_acts _).bind ?_
  rintro space b' - ⟨hspace, namespaces, rfl⟩
  refine .bind_get ?_
  refine (change_acts (.type _ hspace.has rfl rfl)).bind ?_
  rintro _ b' hchanges rfl
  exact .pure ⟨rfl, _, namespaces, rfl, rfl, hchanges.kept.segmented hspace⟩

/-- An external type is one that was found, or one that is made. -/
theorem externalType_acts (fullName assembly : String) (base : Option TypeId)
    (hfault : ∀ fault, b.program.findType fullName = .error fault → faulty)
    {Q : TypeId → Builder → Prop}
    (hfound : ∀ id, b.program.findType fullName = .ok (some id) → Q id b)
    (hmade : b.program.findType fullName = .ok none →
      Acts faulty (pushType fullName assembly base) b Q) :
    Acts faulty (externalType fullName assembly base) b Q := by
  unfold externalType
  refine .bind_look hfault fun id? hid? => ?_
  cases id? with
  | some id => exact .pure (hfound id hid?)
  | none => exact hmade hid?

theorem changeType_acts {id : TypeId} {f : TypeSymbol → TypeSymbol}
    (hfault : ∀ fault, b.program.type id = .error fault → faulty) (hf : b.KeepsName f) :
    Acts faulty (changeType id f) b fun _ b' =>
      b' = { b with program := b.program.retype id f } := by
  unfold changeType
  exact .bind_look hfault fun _ _ => change_acts (.retype id f hf)

/-- What is there when a class has its type and the node that declares it. -/
structure Declared (b : Builder) (id : TypeId) (declaration : NodeId) (b' : Builder) : Prop where
  type : ∃ symbol, b'.program.type id = .ok symbol ∧ symbol.declaration = some declaration
  node : ∃ node name, b'.program.node declaration = .ok node ∧ b'.file = some node.file ∧
    node.kind = .typeDeclaration name (some id) [] []
  current : b'.file = b.file ∨ b.file = none
  children : ∀ i, Program.childrenAt b'.program.nodes i = Program.childrenAt b.program.nodes i

/-- The last steps of a class, by which its declaration gets into the node of the current file. -/
def enter (id : TypeId) (declaration : NodeId) : Build TypeId := do
  let file ← currentFile
  let some unit := (← get).units[file.index]? | throw (.missing file.reference)
  changeKind unit (withMember declaration)
  return id

theorem childrenAt_withNode {i : Nat} {p : Program} {node : SyntaxNode}
    (hnode : node.kind.children = []) :
    Program.childrenAt (p.withNode node).nodes i = Program.childrenAt p.nodes i := by
  rw [Program.childrenAt, Program.withNode, Array.getElem?_push]
  split
  · rename_i heq
    rw [Program.childrenAt, heq, Array.getElem?_eq_none (Nat.le_refl _), Option.map_some, hnode]
    rfl
  · rfl

theorem classType_acts (fullName : String) (base : Option TypeId) {Q : TypeId → Builder → Prop}
    (henter : ∀ id declaration b', b.Changes b' → Declared b id declaration b' →
      Acts faulty (enter id declaration) b' Q) : Acts faulty (classType fullName base) b Q := by
  unfold classType
  refine .bind_get ((pushType_acts fullName _ base).bind ?_)
  rintro id b₁ hchanges₁ ⟨rfl, symbol, namespaces, rfl, -⟩
  have hsymbol : Program.fetch (b.program.types.push symbol) (⟨b.program.types.size⟩ : TypeId) =
      .ok symbol := Builder.fetch_push_size _ _
  refine .bind_look (fun fault hfault => ?_) fun symbol' hsymbol' => ?_
  · cases hsymbol.symm.trans hfault
  obtain rfl := lookup_unique hsymbol hsymbol'
  refine (alloc_acts _).bind ?_
  rintro declaration _ hchanges₂ ⟨file, b₂, hfile, hstart, rfl, rfl⟩
  -- A file that is started for the declaration brings one node without children.
  obtain ⟨htypes, hcurrent, hchildren⟩ :
      b₂.program.types = b.program.types.push symbol ∧ (b₂.file = b.file ∨ b.file = none) ∧
        ∀ i, Program.childrenAt b₂.program.nodes i = Program.childrenAt b.program.nodes i := by
    rcases hstart with rfl | ⟨hnone, rfl⟩
    · exact ⟨rfl, Or.inl rfl, fun _ => rfl⟩
    · exact ⟨rfl, Or.inr hnone, fun _ => childrenAt_withNode rfl⟩
  have hhas : Program.fetch b₂.program.types (⟨b.program.types.size⟩ : TypeId) = .ok symbol := by
    rw [htypes]
    exact hsymbol
  refine .bind (changeType_acts (fun fault hfault => ?_) ?_) ?_
  · cases hhas.symm.trans hfault
  · exact ⟨fun _ => rfl, fun _ => rfl, fun _ => rfl, fun _ _ hid => Or.inl hid⟩
  rintro _ _ hchanges₃ rfl
  refine henter _ _ _ ((hchanges₁.trans hchanges₂).trans hchanges₃) ⟨?_, ?_, hcurrent, ?_⟩
  · exact ⟨_, Builder.fetch_modify hhas _ _, by rw [if_pos rfl]⟩
  · exact ⟨_, _, Builder.fetch_push_size _ _, hfile, rfl⟩
  · exact fun i => (childrenAt_withNode rfl).trans (hchildren i)

theorem enter_acts (id : TypeId) (declaration : NodeId) :
    Acts True (enter id declaration) b fun _ _ => True := by
  unfold enter
  refine currentFile_acts.bind fun file b₁ _ _ => .bind_get ?_
  split
  · exact (changeKind_acts (fun _ _ => trivial) (withMember_unit declaration)).bind
      fun _ _ _ _ => .pure trivial
  · exact .throw _

/-! ## Attributes, members and functions -/

theorem attributeOn_acts (target attributeClass : TypeId) (arguments : List AttributeArgument) :
    Acts True (attributeOn target attributeClass arguments) b fun _ _ => True := by
  unfold attributeOn
  refine .bind_look (fun _ _ => trivial) fun _ _ => ?_
  refine (alloc_acts _).bind fun site b₁ _ _ => ?_
  have hattribute : ∀ b₂, Acts True (do
        changeType target fun symbol => { symbol with
          attributes := symbol.attributes ++ [{ attributeClass, arguments, site := some site }] }
        return site) b₂ fun _ _ => True := by
    intro b₂
    refine .bind (changeType_acts (fun _ _ => trivial) ?_) fun _ _ _ _ => .pure trivial
    exact ⟨fun _ => rfl, fun _ => rfl, fun _ => rfl, fun _ _ hid => Or.inl hid⟩
  refine .bind_look (fun _ _ => trivial) fun symbol _ => ?_
  dsimp only
  split
  · exact (changeKind_acts (fun _ _ => trivial) (withAttribute_unit site)).bind
      fun _ b₂ _ _ => hattribute b₂
  · exact hattribute b₁

/-- A method is added, and listed as a member of its owner. -/
theorem pushMethod_acts (owner : Option TypeId) (kind : MethodKind) (spec : MethodSpec)
    (isImplicit : Bool)
    (hfault : ∀ id, owner = some id → ∀ fault, b.program.type id = .error fault → faulty) :
    Acts faulty (pushMethod owner kind spec isImplicit) b fun _ _ => True := by
  unfold pushMethod
  refine .bind_get ((change_acts (.members _ _ _ ?_ fun _ _ h => h)).bind ?_)
  · exact Nat.le_of_lt (Nat.lt_of_lt_of_eq (Nat.lt_succ_self _) (Array.size_push ..).symm)
  rintro _ b₁ - rfl
  cases owner with
  | none => exact .pure trivial
  | some type =>
    dsimp only
    split
    · refine .bind (changeType_acts (hfault type rfl) ⟨fun _ => rfl, fun _ => rfl, fun _ => rfl,
        ?_⟩) fun _ _ _ _ => .pure trivial
      intro symbol id hid
      rcases List.mem_append.mp hid with hold | hnew
      · exact Or.inl hold
      · cases List.mem_singleton.mp hnew
        exact Or.inr (Nat.lt_of_lt_of_eq (Nat.lt_succ_self _) (Array.size_push ..).symm)
    · exact .pure trivial

theorem methodNamed_acts (owner : TypeId) (name : String)
    (hfault : ∀ fault, b.program.type owner = .error fault → faulty)
    (hmembers : ∀ symbol, b.program.type owner = .ok symbol → ∀ fault,
      (symbol.members.findM? fun member => return (← b.program.method member).name == name) =
        .error fault → faulty) :
    Acts faulty (methodNamed owner name) b fun _ _ => True := by
  unfold methodNamed
  refine .bind_look ?_ fun id? _ => ?_
  · intro fault hquestion
    cases howner : b.program.type owner with
    | error fault' => exact hfault fault' howner
    | ok symbol =>
      rw [howner] at hquestion
      exact hmembers symbol howner fault hquestion
  · cases id? with
    | some id => exact .pure trivial
    | none =>
      refine pushMethod_acts _ _ _ _ ?_
      rintro id ⟨⟩
      exact hfault

theorem modifiersOf_acts (words : List String) :
    Acts faulty (modifiersOf words) b fun _ _ => True := by
  unfold modifiersOf
  induction words generalizing b with
  | nil => exact .pure trivial
  | cons word words ih =>
    rw [List.mapM_cons, bind_assoc]
    refine (nextSpan_acts _).bind fun _ b₁ _ _ => ?_
    rw [pure_bind]
    exact ih.bind fun _ _ _ _ => .pure trivial

theorem parameterNodes_acts (spec : MethodSpec) :
    Acts faulty (parameterNodes spec) b fun _ _ => True := by
  unfold parameterNodes
  induction spec.parameters generalizing b with
  | nil => exact .pure trivial
  | cons parameter parameters ih =>
    rw [List.mapM_cons]
    exact (alloc_acts _).bind fun _ _ _ _ => ih.bind fun _ _ _ _ => .pure trivial

theorem declare_acts (id : MethodId) (declaration : NodeId) :
    Acts True (declare id declaration) b fun _ _ => True := by
  unfold declare changeMethod
  refine .bind_look (fun _ _ => trivial) fun _ _ => (change_acts (.members _ _ _ ?_
    fun _ _ h => h)).imp fun _ _ _ _ => trivial
  exact Nat.le_of_eq (Array.size_modify ..).symm

theorem addMember_acts (owner : TypeId) (member : NodeId) :
    Acts True (addMember owner member) b fun _ _ => True := by
  unfold addMember
  refine .bind_look (fun _ _ => trivial) fun symbol _ => ?_
  split
  · exact (changeKind_acts (fun _ _ => trivial) (withMember_unit member)).imp fun _ _ _ _ => trivial
  · exact .pure trivial

/-- The steps that all functions share after their method is made. -/
theorem declaration_acts (id : MethodId) (spec : MethodSpec)
    (make : List Modifier → List NodeId → NodeKind) {rest : NodeId → Build β}
    (hrest : ∀ declaration b', Acts True (rest declaration) b' fun _ _ => True) :
    Acts True (do
      let modifiers ← modifiersOf spec.modifiers
      let parameters ← parameterNodes spec
      let declaration ← alloc (make modifiers parameters)
      declare id declaration
      rest declaration) b fun _ _ => True :=
  (modifiersOf_acts _).bind fun _ _ _ _ => (parameterNodes_acts spec).bind fun _ _ _ _ =>
    (alloc_acts _).bind fun declaration _ _ _ => (declare_acts id declaration).bind
      fun _ b' _ _ => hrest declaration b'

theorem method_acts (owner : TypeId) (spec : MethodSpec) (body : Option NodeId) :
    Acts True (method owner spec body) b fun _ _ => True := by
  unfold method
  exact (pushMethod_acts _ _ _ _ fun _ _ _ _ => trivial).bind fun id _ _ _ =>
    .bind_get (declaration_acts id spec _ fun declaration _ =>
      (addMember_acts owner declaration).bind fun _ _ _ _ => .pure trivial)

theorem constructor_acts (owner : TypeId) (spec : MethodSpec) (body : Option NodeId) :
    Acts True (constructor owner spec body) b fun _ _ => True := by
  unfold constructor
  exact (pushMethod_acts _ _ _ _ fun _ _ _ _ => trivial).bind fun id _ _ _ =>
    declaration_acts id { spec with name := ".ctor" } _ fun declaration _ =>
      (addMember_acts owner declaration).bind fun _ _ _ _ => .pure trivial

theorem localFunction_acts (owner : Option TypeId) (spec : MethodSpec) (body : NodeId) :
    Acts True (localFunction owner spec body) b fun _ _ => True := by
  unfold localFunction
  exact (pushMethod_acts _ _ _ _ fun _ _ _ _ => trivial).bind fun id _ _ _ =>
    declaration_acts id spec _ fun _ _ => .pure trivial

theorem anonymousFunction_acts (form : FunctionSyntax) (spec : MethodSpec) (body : NodeId) :
    Acts True (anonymousFunction form spec body) b fun _ _ => True := by
  unfold anonymousFunction
  exact (pushMethod_acts _ _ _ _ fun _ _ _ _ => trivial).bind fun id _ _ _ =>
    declaration_acts id spec _ fun _ _ => .pure trivial

theorem property_acts (owner : TypeId) (name : String) :
    Acts faulty (property owner name) b fun id b' =>
      b'.program.property id = .ok { name, containingType := owner } := by
  unfold property
  refine .bind_get ((change_acts (.members _ _ _ (Nat.le_refl _) fun i symbol h => ?_)).bind ?_)
  · obtain ⟨hlt, -⟩ := Array.getElem?_eq_some_iff.mp h
    rw [Array.getElem?_push, if_neg (by omega), h]
  · rintro _ b' - rfl
    exact .pure (Builder.fetch_push_size _ _)

theorem event_acts (owner : TypeId) (name : String) :
    Acts faulty (event owner name) b fun _ _ => True := by
  unfold event
  exact .bind_get ((change_acts (.members _ _ _ (Nat.le_refl _) fun _ _ h => h)).bind
    fun _ _ _ _ => .pure trivial)

theorem newObject_acts (type : TypeId) (arguments : List NodeId) :
    Acts True (newObject type arguments) b fun _ _ => True := by
  unfold newObject
  exact .bind_look (fun _ _ => trivial) fun _ _ => (alloc_acts _).imp fun _ _ _ _ => trivial

theorem returned_acts {arena : Arena} {x : Build (ItemId arena)} {Q : ItemId arena → Builder → Prop}
    (hx : Acts True x b Q) : Acts True x.returned b fun _ _ => True :=
  hx.bind fun _ _ _ _ => .pure trivial

end Build

/-- A call that returns has done changes. -/
theorem BuildCall.run_acts (call : BuildCall) (b : Builder) :
    Build.Acts True call.run b fun _ _ => True := by
  cases call with
  | file path => exact Build.returned_acts (Build.file_acts path)
  | nameSpace dotted => exact (Build.nameSpace_acts dotted).bind fun _ _ _ _ => .pure trivial
  | externalType fullName assembly base =>
    exact Build.returned_acts (Build.externalType_acts fullName assembly base
      (fun _ _ => trivial) (fun _ _ => trivial)
      fun _ => (Build.pushType_acts fullName assembly base).imp fun _ _ _ _ => trivial)
  | classType fullName base =>
    exact Build.returned_acts (Build.classType_acts fullName base
      fun id declaration _ _ _ => Build.enter_acts id declaration)
  | attributeOn target attributeClass arguments =>
    exact Build.returned_acts (Build.attributeOn_acts target attributeClass arguments)
  | externalMethod owner spec =>
    exact Build.returned_acts (Build.pushMethod_acts _ _ _ _ fun _ _ _ _ => trivial)
  | methodNamed owner name =>
    exact Build.returned_acts (Build.methodNamed_acts owner name (fun _ _ => trivial)
      fun _ _ _ _ => trivial)
  | method owner spec body => exact Build.returned_acts (Build.method_acts owner spec body)
  | constructor owner spec body =>
    exact Build.returned_acts (Build.constructor_acts owner spec body)
  | implicitConstructor owner =>
    exact Build.returned_acts (Build.pushMethod_acts _ _ _ _ fun _ _ _ _ => trivial)
  | localFunction owner spec body =>
    exact Build.returned_acts (Build.localFunction_acts owner spec body)
  | anonymousFunction form spec body =>
    exact Build.returned_acts (Build.anonymousFunction_acts form spec body)
  | property owner name => exact Build.returned_acts (Build.property_acts owner name)
  | event owner name => exact Build.returned_acts (Build.event_acts owner name)
  | newObject type arguments => exact Build.returned_acts (Build.newObject_acts type arguments)
  | phrase content =>
    obtain ⟨kind, hbuild, -⟩ := content.exists_build_eq_alloc
    rw [BuildCall.run, hbuild]
    exact Build.returned_acts (Build.alloc_acts kind)

/-- Any number of calls that return have done changes. -/
theorem Builder.Steps.changes {b b' : Builder} (h : b.Steps b') : b.Changes b' := by
  induction h with
  | refl => exact .refl
  | tail _ hstep ih =>
    obtain ⟨call, ids, hrun⟩ := hstep
    exact ih.trans ((call.run_acts _).ok ids _ hrun).1

end ModLint
