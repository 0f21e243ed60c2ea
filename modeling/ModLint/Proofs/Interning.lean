import ModLint.Build.Framework
import ModLint.Config.Validate
import ModLint.Proofs.BuildChanges
import ModLint.Proofs.Cutting

/-!
# Names that are found again

A builder makes a namespace or a type of another assembly once and finds it again later. A type is
looked for by its full name, which is put together from a chain of namespaces; a type is made from a
full name that is cut at its last dot. The two fit together in every builder that calls lead to: the
namespaces form a tree without twins, in which a namespace comes after the one around it, and no
type is inside another one. So a full name that was asked for stays with its type.
-/

namespace ModLint

open Builder (Change Changes Kept)

/-! ## Trees of namespaces -/

theorem Namespace.eq_of_name_parent {space space' : Namespace} (hname : space.name = space'.name)
    (hparent : space.parent = space'.parent) : space = space' := by
  cases space
  cases space'
  cases hname
  cases hparent
  rfl

namespace Program

/-- What calls of a builder keep true of namespaces and types. -/
structure Interned (p : Program) : Prop where
  distinct : ∀ id id' space, p.nameSpace id = .ok space → p.nameSpace id' = .ok space → id = id'
  ordered : ∀ id space, p.nameSpace id = .ok space → ∀ outer, space.parent = some outer →
    outer.index < id.index
  outermost : ∀ symbol ∈ p.types, symbol.containingType = none
  housed : ∀ symbol ∈ p.types, ∀ id, symbol.nameSpace = some id → p.Has id
  members : ∀ symbol ∈ p.types, ∀ id ∈ symbol.members, p.Has id

variable {p : Program} {id? : Option NamespaceId} {names : List String}

theorem Segmented.eq_none_iff (h : p.Segmented id? names) : id? = none ↔ names = [] := by
  cases h with
  | global => simp
  | inside => simp

/-- The walk up from a namespace meets all names if it is given as many steps. -/
theorem Segmented.segments_eq (h : p.Segmented id? names) {bound : Nat}
    (hbound : names.length ≤ bound) : p.segments bound id? = .ok names.reverse := by
  induction h generalizing bound with
  | global => cases bound <;> rfl
  | @inside id space names hspace _ ih =>
    rw [List.length_append, List.length_singleton] at hbound
    obtain ⟨bound, rfl⟩ : ∃ rest, bound = rest + 1 := ⟨bound - 1, by omega⟩
    rw [segments, hspace]
    simp only [bind, Except.bind, ih (by omega : names.length ≤ bound)]
    rw [List.reverse_append]
    rfl

namespace Interned

variable (h : p.Interned)

include h

/-- A namespace has at most as many names as there are namespaces up to it. -/
theorem length_le_index (hnames : p.Segmented id? names) :
    ∀ id, id? = some id → names.length ≤ id.index + 1 := by
  induction hnames with
  | global => simp
  | @inside id space names hspace houter ih =>
    rintro _ ⟨⟩
    rw [List.length_append, List.length_singleton]
    cases hparent : space.parent with
    | none =>
      rw [houter.eq_none_iff.mp hparent]
      simp
    | some outer =>
      have hlength := ih outer hparent
      have hlt := h.ordered id space hspace outer hparent
      omega

theorem length_le (hnames : p.Segmented id? names) : names.length ≤ p.namespaces.size := by
  cases hid : id? with
  | none =>
    rw [hnames.eq_none_iff.mp hid]
    simp
  | some id =>
    have hlength := h.length_le_index hnames id hid
    have hhas : id.index < p.namespaces.size := hnames.has id hid
    omega

theorem exists_segmented (hid : ∀ id, id? = some id → p.Has id) :
    ∃ names, p.Segmented id? names := by
  cases id? with
  | none => exact ⟨[], .global⟩
  | some id =>
    -- A namespace comes after the one around it, so the walk up goes down in the list.
    have hpath : ∀ n (id : NamespaceId), id.index = n → p.Has id →
        ∃ names, p.Segmented (some id) names := by
      intro n
      induction n using Nat.strong_induction_on with
      | _ n ih =>
        intro id hn hhas
        obtain ⟨space, hspace, -⟩ := fetch_answers hhas
        cases hparent : space.parent with
        | none => exact ⟨_, .inside hspace (hparent ▸ Segmented.global)⟩
        | some outer =>
          have hlt := h.ordered id space hspace outer hparent
          obtain ⟨names, hnames⟩ := ih outer.index (hn ▸ hlt) outer rfl (Nat.lt_trans hlt hhas)
          exact ⟨_, .inside hspace (hparent ▸ hnames)⟩
    exact hpath id.index id rfl (hid id rfl)

theorem namespacePath_eq (hnames : p.Segmented id? names) :
    p.namespacePath id? = .ok (".".intercalate names) := by
  rw [namespacePath, hnames.segments_eq (Nat.le_succ_of_le (h.length_le hnames))]
  simp [bind, Except.bind, pure, Except.pure]

theorem containers_eq {id : TypeId} {symbol : TypeSymbol} (hsymbol : p.type id = .ok symbol)
    (bound : Nat) : p.containers bound id = .ok [symbol] := by
  have hnone := h.outermost symbol (Array.mem_of_getElem? (fetch_eq_ok_iff.mp hsymbol))
  cases bound with
  | zero =>
    rw [containers, hsymbol]
    rfl
  | succ bound =>
    simp only [containers, hsymbol, hnone, bind, Except.bind]
    rfl

theorem fullTypeName_eq {id : TypeId} {symbol : TypeSymbol} (hsymbol : p.type id = .ok symbol)
    (hnames : p.Segmented symbol.nameSpace names) :
    p.fullTypeName id = .ok (dotted names [symbol.name]) := by
  rw [dotted_eq (by simp), fullTypeName, h.containers_eq hsymbol]
  simp only [bind, Except.bind, List.getLast?_singleton, Option.bind_some,
    h.namespacePath_eq hnames]
  rfl

theorem exists_fullTypeName {id : TypeId} (hid : p.Has id) :
    ∃ symbol names, p.type id = .ok symbol ∧ p.Segmented symbol.nameSpace names ∧
      p.fullTypeName id = .ok (dotted names [symbol.name]) := by
  obtain ⟨symbol, hsymbol, -⟩ := fetch_answers hid
  have hmem := Array.mem_of_getElem? (fetch_eq_ok_iff.mp hsymbol)
  obtain ⟨names, hnames⟩ := h.exists_segmented (h.housed symbol hmem)
  exact ⟨symbol, names, hsymbol, hnames, h.fullTypeName_eq hsymbol hnames⟩

end Interned

theorem has_of_fullTypeName {id : TypeId} {name : String} (h : p.fullTypeName id = .ok name) :
    p.Has id := by
  rw [fullTypeName, lookup_bind_eq_ok] at h
  obtain ⟨chain, hchain, -⟩ := h
  obtain ⟨symbol, hsymbol⟩ : ∃ symbol, p.type id = .ok symbol := by
    cases hbound : p.types.size with
    | zero =>
      rw [hbound, containers, lookup_bind_eq_ok] at hchain
      exact ⟨_, hchain.choose_spec.1⟩
    | succ bound =>
      rw [hbound, containers, lookup_bind_eq_ok] at hchain
      exact ⟨_, hchain.choose_spec.1⟩
  exact lt_size_of_fetch hsymbol

/-! ## The first type with a name -/

/-- The type with a full name that comes before all others with it. -/
structure FirstNamed (p : Program) (name : String) (id : TypeId) : Prop where
  named : p.fullTypeName id = .ok name
  first : ∀ other : TypeId, other.index < id.index → p.fullTypeName other ≠ .ok name

theorem mem_typeIds {id : TypeId} : id ∈ p.typeIds ↔ p.Has id := by
  rw [typeIds, List.mem_map]
  constructor
  · rintro ⟨i, hi, rfl⟩
    exact List.mem_range.mp hi
  · intro hid
    exact ⟨id.index, List.mem_range.mpr hid, rfl⟩

theorem pairwise_typeIds (p : Program) :
    p.typeIds.Pairwise fun id other => id.index < other.index :=
  List.pairwise_map.mpr List.pairwise_lt_range

theorem Interned.findType_answers (h : p.Interned) (name : String) :
    Answers (p.findType name) fun id? => ∀ id, id? = some id ↔ p.FirstNamed name id := by
  have hnamed : ∀ id ∈ p.typeIds, Answers (do return (← p.fullTypeName id) == name)
      fun b => b = true ↔ p.fullTypeName id = .ok name := by
    intro id hid
    obtain ⟨symbol, names, -, -, hfull⟩ := h.exists_fullTypeName (mem_typeIds.mp hid)
    rw [hfull, Except.ok.injEq]
    exact .pure beq_iff_eq
  refine (Answers.findM?_iff hnamed).mono fun id? hid? id => (hid? id).trans ⟨?_, ?_⟩
  · rintro ⟨before, after, hsplit, hid, hbefore⟩
    have hsorted := p.pairwise_typeIds
    rw [hsplit, List.pairwise_append, List.pairwise_cons] at hsorted
    refine ⟨hid, fun other hlt hother => ?_⟩
    have hmem : other ∈ before ++ id :: after :=
      hsplit ▸ mem_typeIds.mpr (has_of_fullTypeName hother)
    rcases List.mem_append.mp hmem with hmem | hmem
    · exact hbefore other hmem hother
    · rcases List.mem_cons.mp hmem with rfl | hmem
      · exact Nat.lt_irrefl _ hlt
      · exact Nat.lt_asymm hlt (hsorted.2.1.1 other hmem)
  · rintro ⟨hid, hfirst⟩
    obtain ⟨before, after, hsplit⟩ :=
      List.append_of_mem (mem_typeIds.mpr (has_of_fullTypeName hid))
    have hsorted := p.pairwise_typeIds
    rw [hsplit, List.pairwise_append] at hsorted
    exact ⟨before, after, hsplit, hid, fun other hother =>
      hfirst other (hsorted.2.2 other hother id (by simp))⟩

theorem Interned.findType_eq (h : p.Interned) {name : String} {id : TypeId}
    (hfirst : p.FirstNamed name id) : p.findType name = .ok (some id) := by
  obtain ⟨id?, hfind, hid?⟩ := h.findType_answers name
  rw [hfind, (hid? id).mpr hfirst]

/-- A name has a first type if it has one at all. -/
theorem exists_firstNamed {name : String} {id : TypeId} (hid : p.fullTypeName id = .ok name) :
    ∃ first, p.FirstNamed name first := by
  induction hn : id.index using Nat.strong_induction_on generalizing id with
  | _ n ih =>
    by_cases hearlier : ∃ other : TypeId, other.index < id.index ∧ p.fullTypeName other = .ok name
    · obtain ⟨other, hlt, hother⟩ := hearlier
      exact ih other.index (hn ▸ hlt) hother rfl
    · exact ⟨id, hid, fun other hlt hother => hearlier ⟨other, hlt, hother⟩⟩

theorem Interned.ne_of_findType_eq_none (h : p.Interned) {name : String}
    (hnone : p.findType name = .ok none) (id : TypeId) : p.fullTypeName id ≠ .ok name := by
  intro hid
  obtain ⟨first, hfirst⟩ := exists_firstNamed hid
  cases hnone.symm.trans (h.findType_eq hfirst)

end Program

/-! ## What calls keep -/

namespace Builder

variable {b b' : Builder}

theorem interned_new (assembly : String) : (Builder.new assembly).program.Interned where
  distinct _ _ _ h := nomatch Program.lt_size_of_fetch h
  ordered _ _ h := nomatch Program.lt_size_of_fetch h
  outermost _ h := nomatch h
  housed _ h := nomatch h
  members _ h := nomatch h

theorem interned_withNamespace (hb : b.program.Interned) {space : Namespace}
    (hparent : ∀ id, space.parent = some id → b.program.Has id)
    (hnew : space ∉ b.program.namespaces) : (b.program.withNamespace space).Interned where
  distinct id id' found hfound hfound' := by
    have hold : ∀ {id : NamespaceId}, b.program.nameSpace id = .ok found → found ≠ space := by
      rintro id hid rfl
      exact hnew (Array.mem_of_getElem? (Program.fetch_eq_ok_iff.mp hid))
    rcases fetch_push_eq_ok hfound with hid | ⟨hid, rfl⟩ <;>
      rcases fetch_push_eq_ok hfound' with hid' | ⟨hid', heq⟩
    · exact hb.distinct id id' found hid hid'
    · exact absurd heq (hold hid)
    · exact absurd rfl (hold hid')
    · cases id
      cases id'
      exact congrArg ItemId.mk (hid.trans hid'.symm)
  ordered id found hfound outer houter := by
    rcases fetch_push_eq_ok hfound with hid | ⟨hid, rfl⟩
    · exact hb.ordered id found hid outer houter
    · exact hid ▸ hparent outer houter
  outermost := hb.outermost
  housed symbol hsymbol id hid :=
    Nat.lt_of_lt_of_le (hb.housed symbol hsymbol id hid)
      (Program.size_le_withNamespace b.program space .nameSpace)
  members := hb.members

theorem Change.interned (h : b.Change b') (hb : b.program.Interned) : b'.program.Interned := by
  cases h with
  | nameSpace space hparent hnew => exact interned_withNamespace hb hparent hnew
  | type symbol hspace hcontaining hmembers =>
    exact { hb with
      outermost := forall_mem_push hb.outermost hcontaining
      housed := forall_mem_push hb.housed hspace
      members := forall_mem_push hb.members (by simp [hmembers]) }
  | retype id f hf =>
    refine { hb with
      outermost := forall_mem_modify hb.outermost fun symbol _ h => ?_
      housed := forall_mem_modify hb.housed fun symbol _ h => ?_
      members := forall_mem_modify hb.members fun symbol _ h id hid => ?_ }
    · rwa [hf.containingType]
    · rwa [hf.nameSpace]
    · rcases hf.members symbol id hid with hold | hhas
      · exact h id hold
      · exact hhas
  | members methods properties events hmethods hproperties =>
    exact { hb with
      members := fun symbol hsymbol id hid =>
        Nat.lt_of_lt_of_le (hb.members symbol hsymbol id hid) hmethods }
  | advance width => exact { hb with }
  | node file kind hfile => exact { hb with }
  | file path => exact { hb with }
  | rekind id f hf => exact { hb with }

theorem Changes.interned (h : b.Changes b') (hb : b.program.Interned) : b'.program.Interned := by
  induction h with
  | refl => exact hb
  | tail _ hchange ih => exact hchange.interned ih

theorem Kept.fullTypeName (h : Kept b b') (hb : b.program.Interned) (hb' : b'.program.Interned)
    {id : TypeId} {name : String} (hname : b.program.fullTypeName id = .ok name) :
    b'.program.fullTypeName id = .ok name := by
  obtain ⟨symbol, names, hsymbol, hnames, hfull⟩ :=
    hb.exists_fullTypeName (Program.has_of_fullTypeName hname)
  obtain ⟨symbol', hsymbol', hsame, hspace⟩ := h.type id symbol hsymbol
  rw [← lookup_unique hfull hname, ← hsame]
  exact hb'.fullTypeName_eq hsymbol' (hspace ▸ h.segmented hnames)

theorem Kept.ne_fullTypeName (h : Kept b b') (hb : b.program.Interned)
    (hb' : b'.program.Interned) {id : TypeId} (hid : b.program.Has id) {name : String}
    (hname : b.program.fullTypeName id ≠ .ok name) : b'.program.fullTypeName id ≠ .ok name := by
  obtain ⟨_, _, -, -, hfull⟩ := hb.exists_fullTypeName hid
  intro hname'
  have hfull' := h.fullTypeName hb hb' hfull
  exact hname (hfull.trans (congrArg Except.ok (lookup_unique hfull' hname')))

/-- The first type with a name stays the first. -/
theorem Changes.firstNamed (h : b.Changes b') (hb : b.program.Interned) {name : String}
    {id : TypeId} (hfirst : b.program.FirstNamed name id) : b'.program.FirstNamed name id where
  named := h.kept.fullTypeName hb (h.interned hb) hfirst.named
  first other hlt := by
    have hhas : b.program.Has id := Program.has_of_fullTypeName hfirst.named
    exact h.kept.ne_fullTypeName hb (h.interned hb) (Nat.lt_trans hlt hhas)
      (hfirst.first other hlt)

end Builder

namespace Build

variable {b : Builder}

/-! ## Namespaces again -/

theorem nameSpaceIn_eq (hb : b.program.Interned) {id : NamespaceId} {space : Namespace}
    (hspace : b.program.nameSpace id = .ok space) :
    (nameSpaceIn space.parent space.name).run b = .ok (id, b) := by
  have hget := Program.fetch_eq_ok_iff.mp hspace
  obtain ⟨hlt, hitem⟩ := Array.getElem?_eq_some_iff.mp hget
  -- The search stops at the first namespace with this name and parent, and there is only one.
  have hfind : b.program.namespaces.findIdx? (fun other =>
      other.name == space.name && other.parent == space.parent) = some id.index := by
    refine Array.findIdx?_eq_some_iff_getElem.mpr ⟨hlt, by simp [hitem], fun j hj hother => ?_⟩
    rw [Bool.and_eq_true, beq_iff_eq, beq_iff_eq] at hother
    have hsame : b.program.nameSpace ⟨j⟩ = .ok space := by
      rw [Program.nameSpace, Program.fetch_eq_ok_iff, Array.getElem?_eq_getElem (hj.trans hlt)]
      exact congrArg some (Namespace.eq_of_name_parent hother.1 hother.2)
    rw [← hb.distinct ⟨j⟩ id space hsame hspace] at hj
    exact Nat.lt_irrefl j hj
  simp only [nameSpaceIn, StateT.run_bind, StateT.run_get, pure_bind, hfind]
  rfl

theorem nameSpaces_append (parent : Option NamespaceId) (first second : List String) :
    nameSpaces parent (first ++ second) =
      nameSpaces parent first >>= fun outer => nameSpaces outer second := by
  induction first generalizing parent with
  | nil => rw [List.nil_append, nameSpaces, pure_bind]
  | cons name first ih => simp only [List.cons_append, nameSpaces, bind_assoc, ih]

/-- Namespaces that are there are found. -/
theorem nameSpaces_eq (hb : b.program.Interned) {id? : Option NamespaceId} {names : List String}
    (hnames : b.program.Segmented id? names) : (nameSpaces none names).run b = .ok (id?, b) := by
  induction hnames with
  | global => rfl
  | @inside id space names hspace _ ih =>
    have hinner : (nameSpaces space.parent [space.name]).run b = .ok (some id, b) := by
      rw [nameSpaces, StateT.run_bind, nameSpaceIn_eq hb hspace]
      rfl
    rw [nameSpaces_append, StateT.run_bind, ih]
    exact hinner

/-! ## Full names, cut and put together -/

/-- A name with dots in which no segment is empty. -/
def IsFullName (name : String) : Prop :=
  [] ∉ Text.splitAtEach '.' name.toList

instance (name : String) : Decidable (IsFullName name) :=
  inferInstanceAs (Decidable (¬ _))

theorem intercalate_namesOf {path : List Char} (h : [] ∉ Text.splitAtEach '.' path) :
    ".".intercalate (namesOf (String.ofList path)) = String.ofList path := by
  have hkept : (Text.splitAtEach '.' path).filter (fun segment => !segment.isEmpty) =
      path.splitOn '.' := by
    rw [Text.splitAtEach_eq_splitOn] at h ⊢
    refine List.filter_eq_self.mpr fun segment hmem => ?_
    cases segment with
    | nil => exact absurd hmem h
    | cons => rfl
  rw [namesOf, String.toList_ofList, hkept, ← String.toList_inj, String.toList_intercalate,
    List.map_map]
  have hlists : String.toList ∘ String.ofList = id := funext fun _ => String.toList_ofList
  rw [hlists, List.map_id, String.toList_ofList, String.toList_ofList, List.intercalate_splitOn]

/-- The parts of a full name give the full name again. -/
theorem dotted_pathAndName {name : String} (h : IsFullName name) :
    Program.dotted (namesOf (String.ofList (pathAndName name).1))
      [String.ofList (pathAndName name).2] = name := by
  rw [Program.dotted_eq (by simp), String.intercalate_singleton]
  by_cases hdot : '.' ∈ name.toList
  · obtain ⟨before, after, hname, hafter⟩ := Text.exists_last_of_mem hdot
    have hcut : pathAndName name = (before, after) := by
      rw [pathAndName, hname, Text.splitLast?_append before hafter]
      rfl
    have hbefore : [] ∉ Text.splitAtEach '.' before := by
      intro hmem
      rw [IsFullName, hname, Text.splitAtEach_eq_splitOn, List.splitOn_append_cons_self] at h
      rw [Text.splitAtEach_eq_splitOn] at hmem
      exact h (List.mem_append_left _ hmem)
    have hne : String.ofList before ≠ "" := by
      intro hempty
      rw [← String.toList_inj, String.toList_ofList] at hempty
      subst hempty
      exact hbefore (by decide)
    rw [hcut, intercalate_namesOf hbefore, if_neg (by simpa using hne), ← String.toList_inj, hname]
    simp
  · have hcut : pathAndName name = ([], name.toList) := by
      rw [pathAndName, Text.splitLast?_of_not_mem hdot]
      rfl
    rw [hcut]
    simp [namesOf, Text.splitAtEach]

/-! ## External types again -/

/-- A type that is found is returned, and nothing changes. -/
theorem externalType_eq {name : String} {id : TypeId}
    (hfind : b.program.findType name = .ok (some id)) (assembly : String) (base : Option TypeId) :
    (externalType name assembly base).run b = .ok (id, b) := by
  have hlook : (look fun p => p.findType name).run b = .ok (some id, b) := by
    rw [look, StateT.run_bind]
    simp [hfind]
  rw [externalType, StateT.run_bind, hlook]
  rfl

theorem externalType_firstNamed (hb : b.program.Interned) {name : String} (hname : IsFullName name)
    (assembly : String) (base : Option TypeId) :
    Acts False (externalType name assembly base) b fun id b' => b'.program.FirstNamed name id := by
  obtain ⟨id?, hfind, hid?⟩ := hb.findType_answers name
  refine externalType_acts name assembly base (fun fault hfault => ?_) (fun id hid => ?_)
    fun hnone => ?_
  · cases hfind.symm.trans hfault
  · exact (hid? id).mp (lookup_unique hfind hid)
  · refine (pushType_acts name assembly base).imp ?_
    rintro id b' hchanges ⟨rfl, symbol, namespaces, rfl, hlast, hpath⟩
    have hb' := hchanges.interned hb
    refine ⟨?_, fun other hlt => ?_⟩
    · rw [hb'.fullTypeName_eq (Builder.fetch_push_size _ _) hpath, hlast, dotted_pathAndName hname]
    · exact hchanges.kept.ne_fullTypeName hb hb' hlt (hb.ne_of_findType_eq_none hnone other)

/-! ## What lasts -/

variable {α β : Type}

/-- A step that meets no fault, with a value of which something is true from then on. -/
def Yields (x : Build α) (b : Builder) (P : α → Builder → Prop) : Prop :=
  b.program.Interned → Acts False x b fun a b' => ∀ b'', b'.Changes b'' → P a b''

namespace Yields

variable {P : α → Builder → Prop} {Q : β → Builder → Prop}

theorem pure {a : α} (h : ∀ b', P a b') : Yields (Pure.pure a) b P :=
  fun _ => .pure fun b' _ => h b'

/-- What the first step gives is there when the second one is done. -/
theorem bind {x : Build α} {f : α → Build β} (hx : Yields x b P)
    (hf : ∀ a b', b.Changes b' → P a b' → Yields (f a) b' fun c b'' => P a b'' → Q c b'') :
    Yields (x >>= f) b Q := by
  intro hb
  refine (hx hb).bind fun a b₁ hchanges ha => ?_
  have hrest := hf a b₁ hchanges (ha b₁ .refl) (hchanges.interned hb)
  refine hrest.imp fun c b₂ hchanges' hc b' hb' => ?_
  exact hc b' hb' (ha b' (hchanges'.trans hb'))

theorem imp {x : Build α} {P' : α → Builder → Prop} (hx : Yields x b P)
    (h : ∀ a b', P a b' → P' a b') : Yields x b P' :=
  fun hb => (hx hb).imp fun a _ _ ha b' hb' => h a b' (ha b' hb')

end Yields

theorem externalType_yields {name : String} (hname : IsFullName name) (assembly : String)
    (base : Option TypeId) : Yields (externalType name assembly base) b fun id b' =>
      b'.program.fullTypeName id = .ok name ∧
        ∀ assembly' base', (externalType name assembly' base').run b' = .ok (id, b') := by
  intro hb
  refine (externalType_firstNamed hb hname assembly base).imp ?_
  intro id b₁ hchanges hfirst b' hb'
  have hb₁ := hchanges.interned hb
  have hlasting := hb'.firstNamed hb₁ hfirst
  exact ⟨hlasting.named, externalType_eq ((hb'.interned hb₁).findType_eq hlasting)⟩

theorem nameSpace_yields (dotted : String) : Yields (nameSpace dotted) b fun id? b' =>
    b'.program.Segmented id? (namesOf dotted) ∧
      b'.program.namespacePath id? = .ok (".".intercalate (namesOf dotted)) ∧
      (nameSpace dotted).run b' = .ok (id?, b') := by
  intro hb
  refine (nameSpace_acts dotted).imp ?_
  rintro id? b₁ hchanges ⟨hnames, -⟩ b' hb'
  have hlasting := hb'.kept.segmented hnames
  have hinterned := hb'.interned (hchanges.interned hb)
  exact ⟨hlasting, hinterned.namespacePath_eq hlasting, nameSpaces_eq hinterned hlasting⟩

theorem property_yields (owner : TypeId) (name : String) :
    Yields (property owner name) b fun id b' =>
      b'.program.property id = .ok { name, containingType := owner } :=
  fun _ => (property_acts owner name).imp fun id _ _ hid _ hb' => hb'.kept.property id _ hid

theorem externalTypes_yields {names : List String} (hnames : ∀ name ∈ names, IsFullName name)
    (assembly : String) (base : Option TypeId) :
    Yields (names.mapM fun name => externalType name assembly base) b fun ids b' =>
      ids.mapM b'.program.fullTypeName = .ok names := by
  induction names generalizing b with
  | nil => exact .pure fun _ => rfl
  | cons name names ih =>
    rw [List.forall_mem_cons] at hnames
    rw [List.mapM_cons]
    refine (externalType_yields hnames.1 assembly base).bind fun id b₁ _ _ => ?_
    refine (ih hnames.2).bind fun ids _ _ _ => .pure fun _ hids hid => ?_
    rw [List.mapM_cons, hid.1, hids]
    rfl

theorem methodNamed_yields {owner : TypeId} (howner : b.program.Has owner) (name : String) :
    Yields (discard (methodNamed owner name)) b fun _ _ => True := by
  intro hb
  obtain ⟨symbol, hsymbol, -⟩ := Program.fetch_answers howner
  refine (methodNamed_acts owner name (fun fault hfault => ?_) fun symbol' hsymbol' fault hfault =>
    ?_).bind fun _ _ _ _ => .pure fun _ _ => trivial
  · cases hsymbol.symm.trans hfault
  · have hmem := Array.mem_of_getElem? (Program.fetch_eq_ok_iff.mp hsymbol')
    have hfound : Answers (symbol'.members.findM? fun member =>
        return (← b.program.method member).name == name) fun _ => True :=
      (Answers.findM? fun member hmember =>
        (Program.fetch_answers (hb.members symbol' hmem member hmember)).bind
          fun _ _ => .pure trivial).mono fun _ _ => trivial
    obtain ⟨found?, hfound, -⟩ := hfound
    cases hfound.symm.trans hfault

/-- The loop that adds methods to a type. -/
theorem methodsNamed_yields {owner : TypeId} (howner : b.program.Has owner) (names : List String) :
    Yields (forIn names PUnit.unit fun name _ => do
        discard (methodNamed owner name)
        return ForInStep.yield PUnit.unit) b fun _ _ => True := by
  induction names generalizing b with
  | nil => exact .pure fun _ => trivial
  | cons name names ih =>
    simp only [List.forIn_cons, bind_assoc, pure_bind]
    exact (methodNamed_yields howner name).bind fun _ _ hchanges _ =>
      (ih (hchanges.kept.has_type howner)).imp fun _ _ _ _ => trivial

end Build

/-! ## Framework types -/

namespace FrameworkStubs

/-- Types that have the configured names, and the scene of an entity. -/
structure Named (stubs : FrameworkStubs) (names : FrameworkNames) (p : Program) : Prop where
  object : p.fullTypeName stubs.object = .ok "System.Object"
  string : p.fullTypeName stubs.string = .ok "System.String"
  int : p.fullTypeName stubs.int = .ok "System.Int32"
  ilCursor : p.fullTypeName stubs.ilCursor = .ok names.ilCursor
  ilContext : p.fullTypeName stubs.ilContext = .ok names.ilContext
  hook : p.fullTypeName stubs.hook = .ok names.hook
  entity : p.fullTypeName stubs.entity = .ok names.entity
  scene : p.property stubs.scene =
    .ok { name := names.sceneProperty, containingType := stubs.entity }
  customEntityAttribute :
    p.fullTypeName stubs.customEntityAttribute = .ok names.customEntityAttribute
  trackedAttribute : p.fullTypeName stubs.trackedAttribute = .ok names.trackedAttribute
  trackedAsAttribute : p.fullTypeName stubs.trackedAsAttribute = .ok names.trackedAsAttribute
  tracker : p.fullTypeName stubs.tracker = .ok names.tracker
  entityList : p.fullTypeName stubs.entityList = .ok names.entityList
  vector2 : p.fullTypeName stubs.vector2 = .ok names.vector2
  entityData : p.fullTypeName stubs.entityData = .ok names.entityData
  entityId : p.fullTypeName stubs.entityId = .ok names.entityId
  level : p.fullTypeName stubs.level = .ok names.level
  levelData : p.fullTypeName stubs.levelData = .ok names.levelData
  sequenceTypes : stubs.sequenceTypes.mapM p.fullTypeName = .ok names.sequenceTypes

variable {names : FrameworkNames} {b : Builder}

open Build (IsFullName Yields externalType_yields)

theorem types_yields (hnames : ∀ named ∈ names.typeNames, IsFullName named.2) :
    Yields (types names) b fun stubs b' => stubs.Named names b'.program := by
  simp only [FrameworkNames.typeNames, List.cons_append, List.nil_append, List.forall_mem_cons,
    List.forall_mem_map] at hnames
  obtain ⟨hcursor, hcontext, hhook, hentity, hcustom, htracked, htrackedAs, htracker, hlist,
    hvector, hdata, hid, hlevel, hlevelData, hsequences⟩ := hnames
  unfold types
  refine (externalType_yields (by decide) _ _).bind fun object _ _ _ => ?_
  refine (externalType_yields (by decide) _ _).bind fun string _ _ _ => ?_
  refine (externalType_yields (by decide) _ _).bind fun int _ _ _ => ?_
  refine (externalType_yields (by decide) _ _).bind fun attributeBase _ _ _ => ?_
  refine (externalType_yields hcursor _ _).bind fun ilCursor _ _ _ => ?_
  refine (externalType_yields hcontext _ _).bind fun ilContext _ _ _ => ?_
  refine (externalType_yields hhook _ _).bind fun hook _ _ _ => ?_
  refine (externalType_yields hentity _ _).bind fun entity _ _ _ => ?_
  refine (Build.property_yields _ _).bind fun scene _ _ _ => ?_
  refine (externalType_yields hcustom _ _).bind fun customEntityAttribute _ _ _ => ?_
  refine (externalType_yields htracked _ _).bind fun trackedAttribute _ _ _ => ?_
  refine (externalType_yields htrackedAs _ _).bind fun trackedAsAttribute _ _ _ => ?_
  refine (externalType_yields htracker _ _).bind fun tracker _ _ _ => ?_
  refine (externalType_yields hlist _ _).bind fun entityList _ _ _ => ?_
  refine (externalType_yields hvector _ _).bind fun vector2 _ _ _ => ?_
  refine (externalType_yields hdata _ _).bind fun entityData _ _ _ => ?_
  refine (externalType_yields hid _ _).bind fun entityId _ _ _ => ?_
  refine (externalType_yields hlevel _ _).bind fun level _ _ _ => ?_
  refine (externalType_yields hlevelData _ _).bind fun levelData _ _ _ => ?_
  refine (Build.externalTypes_yields hsequences _ _).bind fun sequenceTypes _ _ _ => ?_
  -- What each step gave is true of the builder after all of them.
  refine .pure fun _ sequenceTypes levelData level entityId entityData vector2 entityList tracker
    trackedAsAttribute trackedAttribute customEntityAttribute scene entity hook ilContext ilCursor
    _ int string object => ?_
  exact ⟨object.1, string.1, int.1, ilCursor.1, ilContext.1, hook.1, entity.1, scene,
    customEntityAttribute.1, trackedAttribute.1, trackedAsAttribute.1, tracker.1, entityList.1,
    vector2.1, entityData.1, entityId.1, level.1, levelData.1, sequenceTypes⟩

theorem install_yields (hnames : ∀ named ∈ names.typeNames, IsFullName named.2) :
    Yields (install names) b fun stubs b' => stubs.Named names b'.program := by
  unfold install
  refine (types_yields hnames).bind fun stubs b₁ _ hnamed => ?_
  have hcursor := Program.has_of_fullTypeName hnamed.ilCursor
  have htracker := Program.has_of_fullTypeName hnamed.tracker
  have hlist := Program.has_of_fullTypeName hnamed.entityList
  refine (Build.methodsNamed_yields hcursor _).bind fun _ b₂ h₂ _ => ?_
  refine (Build.methodsNamed_yields (h₂.kept.has_type htracker) _).bind fun _ b₃ h₃ _ => ?_
  have hlist' := h₃.kept.has_type (h₂.kept.has_type hlist)
  exact (Build.methodsNamed_yields hlist' _).bind fun _ _ _ _ =>
    .pure fun _ _ _ _ hnamed' => hnamed'

end FrameworkStubs

/-- Names that a check of a configuration accepts are full names. -/
theorem Config.isFullName_of_validate {config : Config} (h : config.validate = .ok ()) :
    ∀ named ∈ config.framework.typeNames, Build.IsFullName named.2 := by
  have hfaults : config.faults = [] := by
    rw [validate] at h
    split at h
    · assumption
    · cases h
  simp only [faults, List.append_eq_nil_iff, List.filterMap_eq_nil_iff] at hfaults
  intro named hnamed
  have hdotted : isDottedName named.2 = true := by
    have hnone := hfaults.1.1.1.2 named hnamed
    by_contra hbad
    simp [hbad] at hnone
  rw [isDottedName, List.all_eq_true] at hdotted
  intro hempty
  cases hdotted [] hempty

/-! ## All builders that calls lead to -/

/-- In every builder that calls lead to, namespaces and types of other assemblies are made once and
found again.

* No two namespaces have the same name and parent, and a parent comes first.
* A namespace that is asked for has the path that was given, without the empty segments; asked for
  again at any later time, it is the same one and nothing changes.
* A type of another assembly that is asked for by a full name has that name at any later time; asked
  for again, with any assembly and base, it is the same one and nothing changes.
* Installed framework types have the names of the configuration at any later time, if a check
  accepts the configuration.
-/
theorem Builder.names_are_interned (assembly : String) {b : Builder}
    (h : (Builder.new assembly).Steps b) :
    (∀ id id' space space', b.program.nameSpace id = .ok space →
      b.program.nameSpace id' = .ok space' → space.name = space'.name →
      space.parent = space'.parent → id = id') ∧
    (∀ id space, b.program.nameSpace id = .ok space → ∀ outer, space.parent = some outer →
      outer.index < id.index) ∧
    (∀ dotted, ∃ id? b', (Build.nameSpace dotted).run b = .ok (id?, b') ∧
      (id? = none ↔ Build.namesOf dotted = []) ∧
      ∀ b'', b'.Steps b'' →
        b''.program.namespacePath id? = .ok (".".intercalate (Build.namesOf dotted)) ∧
        (Build.nameSpace dotted).run b'' = .ok (id?, b'')) ∧
    (∀ name, Build.IsFullName name → ∀ assembly base, ∃ id b',
      (Build.externalType name assembly base).run b = .ok (id, b') ∧
      ∀ b'', b'.Steps b'' → b''.program.fullTypeName id = .ok name ∧
        ∀ assembly' base', (Build.externalType name assembly' base').run b'' = .ok (id, b'')) ∧
    ∀ config : Config, config.validate = .ok () → ∃ stubs b',
      (FrameworkStubs.install config.framework).run b = .ok (stubs, b') ∧
      ∀ b'', b'.Steps b'' → stubs.Named config.framework b''.program := by
  have hb : b.program.Interned := h.changes.interned (interned_new assembly)
  refine ⟨?_, hb.ordered, fun dotted => ?_, fun name hname assembly base => ?_,
    fun config hconfig => ?_⟩
  · intro id id' space space' hspace hspace' hname hparent
    obtain rfl := Namespace.eq_of_name_parent hname hparent
    exact hb.distinct id id' space hspace hspace'
  · obtain ⟨id?, b', hrun, -, hlasting⟩ := (Build.nameSpace_yields dotted hb).exists_run
    obtain ⟨hnames, -⟩ := hlasting b' .refl
    exact ⟨id?, b', hrun, hnames.eq_none_iff, fun b'' hsteps => (hlasting b'' hsteps.changes).2⟩
  · obtain ⟨id, b', hrun, -, hlasting⟩ :=
      (Build.externalType_yields hname assembly base hb).exists_run
    exact ⟨id, b', hrun, fun b'' hsteps => hlasting b'' hsteps.changes⟩
  · obtain ⟨stubs, b', hrun, -, hlasting⟩ :=
      (FrameworkStubs.install_yields (Config.isFullName_of_validate hconfig) hb).exists_run
    exact ⟨stubs, b', hrun, fun b'' hsteps => hlasting b'' hsteps.changes⟩

-- A name with an empty segment is cut into parts that give another name, and is made anew each
-- time.
example : (Builder.built? "Mod" [.externalType "Monocle..Entity" "Celeste" none,
    .externalType "Monocle..Entity" "Celeste" none]).map (fun b => b.program.typeIds.map fun id =>
      (b.program.fullTypeName id).toOption) =
    some [some "Monocle.Entity", some "Monocle.Entity"] := by
  decide +kernel

/-- Calls that declare a class, make a type with the name of the namespace around it, and make a
namespace with the name of another one elsewhere. -/
def Builder.overlappingCalls : List BuildCall :=
  [.classType "Celeste.Mod.Spinner" none,
    .externalType "Celeste.Mod" "Celeste" (some ⟨7⟩),
    .nameSpace "On..Celeste."]

/-- A framework with short names, one of which is that of a namespace and of a type. -/
def FrameworkNames.terse : FrameworkNames where
  ilCursor := "Il.Cursor"
  ilContext := "Il"
  hook := "Il.H"
  hookNamespaces := ["On"]
  cursor := { emitDelegate := "Emit", remove := ["Cut"], navigation := ["To"] }
  entity := "Celeste.Mod"
  sceneProperty := "Scene"
  customEntityAttribute := "A.C"
  trackedAttribute := "A.T"
  trackedAsAttribute := "A.T.As"
  tracker := "T"
  trackerChecks := ["Has"]
  entityList := "L"
  entityListScans := ["All"]
  vector2 := "V"
  entityData := "D"
  entityId := "D.Id"
  level := "D.L"
  levelData := "D.L.D"
  sequenceTypes := ["S", "S.G"]

theorem Builder.overlappingCalls_names_are_interned : ∃ b : Builder,
    (Builder.new "Mod").Steps b ∧
    b.program.namespaces =
      #[⟨"Celeste", none⟩, ⟨"Mod", some ⟨0⟩⟩, ⟨"On", none⟩, ⟨"Celeste", some ⟨2⟩⟩] ∧
    (∃ id? b', (Build.nameSpace ".On.Celeste").run b = .ok (id?, b') ∧ id? ≠ none ∧
      ∀ b'', b'.Steps b'' → b''.program.namespacePath id? = .ok "On.Celeste" ∧
        (Build.nameSpace ".On.Celeste").run b'' = .ok (id?, b'')) ∧
    (Build.IsFullName "Celeste.Mod.Spinner" ∧ ∃ id b',
      (Build.externalType "Celeste.Mod.Spinner" "Celeste" none).run b = .ok (id, b') ∧
      ∀ b'', b'.Steps b'' → b''.program.fullTypeName id = .ok "Celeste.Mod.Spinner" ∧
        (Build.externalType "Celeste.Mod.Spinner" "Mod" (some id)).run b'' = .ok (id, b'')) ∧
    (({ framework := .terse } : Config).validate = .ok () ∧ ∃ stubs b',
      (FrameworkStubs.install .terse).run b = .ok (stubs, b') ∧
      ∀ b'', b'.Steps b'' → stubs.Named .terse b''.program) := by
  have hbuilt : (built? "Mod" overlappingCalls).map (fun b => b.program.namespaces) =
      some #[⟨"Celeste", none⟩, ⟨"Mod", some ⟨0⟩⟩, ⟨"On", none⟩, ⟨"Celeste", some ⟨2⟩⟩] := by
    decide +kernel
  obtain ⟨b, hb, hspaces⟩ := Option.map_eq_some_iff.mp hbuilt
  have hnames : Build.namesOf ".On.Celeste" = ["On", "Celeste"] := by decide +kernel
  have hspinner : Build.IsFullName "Celeste.Mod.Spinner" := by decide +kernel
  have hconfig : ({ framework := .terse } : Config).validate = .ok () := by decide +kernel
  obtain ⟨-, -, hspace, htype, hstubs⟩ :=
    Builder.names_are_interned "Mod" (Steps.of_built? hb)
  obtain ⟨id?, b', hrun, hnone, hlasting⟩ := hspace ".On.Celeste"
  rw [hnames] at hnone hlasting
  obtain ⟨id, b₁, htyped, hnamed⟩ := htype "Celeste.Mod.Spinner" hspinner "Celeste" none
  refine ⟨b, Steps.of_built? hb, hspaces, ⟨id?, b', hrun, ?_, hlasting⟩,
    ⟨hspinner, id, b₁, htyped, fun b'' hb'' => ?_⟩, hconfig, hstubs { framework := .terse } hconfig⟩
  · exact fun hid => List.cons_ne_nil _ _ (hnone.mp hid)
  · exact ⟨(hnamed b'' hb'').1, (hnamed b'' hb'').2 "Mod" (some id)⟩

end ModLint
