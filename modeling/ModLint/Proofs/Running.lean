import ModLint.Command.Input
import ModLint.File.Tree
import ModLint.Proofs.Lookup

/-!
# Commands on files with a state

The files that a command works on are a state; a part of a command takes the state to a next one
and gives a value or a reason to end the command. A part is *quiet* if it leaves the state as it is
and never ends the command with the code for success. Reading configurations, dumps and sources is
quiet wherever looking at files does not change them.
-/

namespace ModLint

variable {σ α β : Type}

theorem Halt.result_ne_ok_zero {halt : Halt} (h : halt.code ≠ some 0) :
    halt.outcome.result ≠ .ok 0 := by
  unfold outcome
  split
  · rename_i code hcode
    intro hresult
    cases hresult
    exact h hcode
  · intro hresult
    cases hresult

namespace Action

/-- What a part of a command comes to in a state, and the state after it. -/
def runIn (x : Action (StateM σ) α) (s : σ) : Except Halt α × σ :=
  (ExceptT.run x).run s

theorem runIn_lift (y : StateM σ α) (s : σ) :
    runIn (liftM y : Action (StateM σ) α) s = (.ok (y.run s).1, (y.run s).2) :=
  rfl

theorem runIn_lift_of_run {y : StateM σ α} {a : α} {s s' : σ} (h : y.run s = (a, s')) :
    runIn (liftM y : Action (StateM σ) α) s = (.ok a, s') := by
  rw [runIn_lift, h]

/-- A look-up gives its value to the command. -/
theorem found_of_runIn {x : Lookup α} {a : α} {s s' : σ}
    (h : (found x : Action (StateM σ) α).runIn s = (.ok a, s')) : x = .ok a := by
  cases x with
  | ok value =>
    cases h
    rfl
  | error fault => cases h

theorem run_outcome_ok {x : Action (StateM σ) Outcome} {outcome : Outcome} {s s' : σ}
    (h : x.runIn s = (.ok outcome, s')) : x.outcome.run s = (outcome, s') := by
  unfold runIn at h
  simp only [Action.outcome, StateT.run_bind, h]
  rfl

theorem run_outcome_error {x : Action (StateM σ) Outcome} {halt : Halt} {s s' : σ}
    (h : x.runIn s = (.error halt, s')) : x.outcome.run s = (halt.outcome, s') := by
  unfold runIn at h
  simp only [Action.outcome, StateT.run_bind, h]
  rfl

section Bind

variable {x : Action (StateM σ) α} {f : α → Action (StateM σ) β} {s s' : σ}

theorem runIn_bind_ok {a : α} (h : x.runIn s = (.ok a, s')) :
    (x >>= f).runIn s = (f a).runIn s' := by
  unfold runIn ExceptT.run StateT.run at h ⊢
  simp only [bind, ExceptT.bind, ExceptT.mk, StateT.bind]
  rw [h]
  rfl

theorem runIn_bind_error {halt : Halt} (h : x.runIn s = (.error halt, s')) :
    (x >>= f).runIn s = (.error halt, s') := by
  unfold runIn ExceptT.run StateT.run at h ⊢
  simp only [bind, ExceptT.bind, ExceptT.mk, StateT.bind]
  rw [h]
  rfl

/-- A sequence of two parts gives a value only if both do. -/
theorem runIn_bind_eq_ok {b : β} : (x >>= f).runIn s = (.ok b, s') ↔
    ∃ a s₁, x.runIn s = (.ok a, s₁) ∧ (f a).runIn s₁ = (.ok b, s') := by
  rcases hx : x.runIn s with ⟨halt | a, s₁⟩
  · rw [runIn_bind_error hx]
    simp
  · rw [runIn_bind_ok hx]
    constructor
    · intro h
      exact ⟨a, s₁, rfl, h⟩
    · rintro ⟨a', s₁', heq, h⟩
      cases heq
      exact h

end Bind

/-! ## Quiet parts -/

/-- A part of a command that leaves the state as it is, and ends the command, if at all, without the
code for success. -/
structure Quiet (x : Action (StateM σ) α) : Prop where
  state : ∀ s, (x.runIn s).2 = s
  halts : ∀ s halt, (x.runIn s).1 = .error halt → halt.code ≠ some 0

namespace Quiet

theorem pure (a : α) : Quiet (σ := σ) (Pure.pure a) :=
  ⟨fun _ => rfl, fun _ _ h => by cases h⟩

theorem throw {halt : Halt} (h : halt.code ≠ some 0) :
    Quiet (throw halt : Action (StateM σ) α) := by
  refine ⟨fun _ => rfl, fun _ halt' heq => ?_⟩
  cases heq
  exact h

theorem refuse (notice : Notice) : Quiet (refuse notice : Action (StateM σ) α) :=
  throw (by simp)

theorem fail (output : String) (notice : Notice) :
    Quiet (fail output notice : Action (StateM σ) α) :=
  throw (by simp)

theorem found (x : Lookup α) : Quiet (σ := σ) (found x) := by
  cases x with
  | ok a => exact pure a
  | error fault => exact fail _ _

theorem lift {y : StateM σ α} (h : ∀ s, (y.run s).2 = s) :
    Quiet (liftM y : Action (StateM σ) α) :=
  ⟨h, fun _ _ heq => by cases heq⟩

/-- What a quiet part comes to: a value, or an end of the command that is no success. -/
theorem cases {x : Action (StateM σ) α} (h : Quiet x) (s : σ) :
    (∃ a, x.runIn s = (.ok a, s)) ∨ ∃ halt, halt.code ≠ some 0 ∧ x.runIn s = (.error halt, s) := by
  have hstate := h.state s
  have hhalts := h.halts s
  rcases hx : x.runIn s with ⟨halt | a, s'⟩
  · rw [hx] at hstate hhalts
    cases hstate
    exact Or.inr ⟨halt, hhalts halt rfl, rfl⟩
  · rw [hx] at hstate
    cases hstate
    exact Or.inl ⟨a, rfl⟩

/-- What holds after the quiet part and after the rest holds of both together. -/
theorem runIn_bind {x : Action (StateM σ) α} {f : α → Action (StateM σ) β} {s : σ}
    {P : Except Halt β × σ → Prop} (hx : Quiet x)
    (hhalt : ∀ halt, halt.code ≠ some 0 → P (.error halt, s))
    (hf : ∀ a, x.runIn s = (.ok a, s) → P ((f a).runIn s)) : P ((x >>= f).runIn s) := by
  rcases hx.cases s with ⟨a, ha⟩ | ⟨halt, hcode, hhalts⟩
  · rw [runIn_bind_ok ha]
    exact hf a ha
  · rw [runIn_bind_error hhalts]
    exact hhalt halt hcode

theorem bind {x : Action (StateM σ) α} {f : α → Action (StateM σ) β} (hx : Quiet x)
    (hf : ∀ a, Quiet (f a)) : Quiet (x >>= f) := by
  constructor
  · intro s
    exact hx.runIn_bind (P := fun result => result.2 = s) (fun _ _ => rfl) fun a _ => (hf a).state s
  · intro s
    refine hx.runIn_bind (P := fun result => ∀ halt, result.1 = .error halt → halt.code ≠ some 0)
      (fun halt hcode halt' heq => ?_) fun a _ => (hf a).halts s
    cases heq
    exact hcode

/-- A quiet part that gives a value hands its state on to the rest. -/
theorem runIn_bind_eq_ok {x : Action (StateM σ) α} {f : α → Action (StateM σ) β} {b : β} {s s' : σ}
    (hx : Quiet x) (h : (x >>= f).runIn s = (.ok b, s')) :
    ∃ a, x.runIn s = (.ok a, s) ∧ (f a).runIn s = (.ok b, s') := by
  obtain ⟨a, s₁, ha, hf⟩ := Action.runIn_bind_eq_ok.mp h
  rcases hx.cases s with ⟨a', ha'⟩ | ⟨halt, -, hhalt⟩
  · rw [ha] at ha'
    cases ha'
    exact ⟨a, ha, hf⟩
  · rw [ha] at hhalt
    cases hhalt

end Quiet

end Action

/-! ## Files as a map -/

/-- A file system seen as a map from files to contents. Looking at files changes nothing, reading a
file gives its whole content, and writing replaces the content of the file at a path or fails
without effect. -/
structure FileSystem.View (fs : FileSystem (StateM σ)) (File : Type) where
  /-- The file that a path leads to. -/
  fileAt : σ → String → Option File
  /-- The content of a file, if there is one. -/
  content : σ → File → Option (List UInt8)
  kind_state : ∀ path s, ((fs.kind path).run s).2 = s
  read_state : ∀ path s, ((fs.read path).run s).2 = s
  read_content : ∀ path s text, ((fs.read path).run s).1 = .ok text →
    ∃ file, fileAt s path = some file ∧ content s file = some (bytesOf text)
  write_cases : ∀ path text s, (∃ error, (fs.write path text).run s = (.error error, s)) ∨
    ∃ file s', fileAt s path = some file ∧ (fs.write path text).run s = (.ok (), s') ∧
      content s' file = some (bytesOf text) ∧
        ∀ other, other ≠ file → content s' other = content s other

theorem state_bind {x : StateM σ α} {f : α → StateM σ β} (hx : ∀ s, (x.run s).2 = s)
    (hf : ∀ a s, ((f a).run s).2 = s) (s : σ) : ((x >>= f).run s).2 = s := by
  have hrun : (x >>= f).run s = (f (x.run s).1).run (x.run s).2 := rfl
  rw [hrun, hf, hx]

namespace Command

open ModLint.Action

section Inputs

variable {fs : FileSystem (StateM σ)} {File : Type} (view : fs.View File)

include view

theorem discoverConfig_state (names : List String) (s : σ) :
    ((discoverConfig fs names).run s).2 = s := by
  induction names generalizing s with
  | nil => rfl
  | cons name names ih =>
    unfold discoverConfig
    refine state_bind (view.kind_state _) (fun kind s => ?_) s
    split
    · rfl
    · exact ih s

theorem readSources_state (directory : String) (files : List SourceFile) (s : σ) :
    ((readSources fs directory files).run s).2 = s := by
  induction files generalizing s with
  | nil => rfl
  | cons file files ih =>
    unfold readSources
    refine state_bind ih (fun found s => ?_) s
    split
    · rfl
    · refine state_bind (view.read_state _) (fun result s => ?_) s
      split <;> rfl

theorem sourcesOf_quiet (directory : String) (p : Program) :
    Quiet (liftM (sourcesOf fs directory p) : Action (StateM σ) (String → Option String)) :=
  .lift (state_bind (readSources_state view directory _) fun _ _ => rfl)

theorem readConfig_quiet (path : String) : Quiet (readConfig fs path) := by
  unfold readConfig
  refine .bind (.lift (view.read_state path)) fun result => ?_
  split
  · exact .refuse _
  · split
    · exact .refuse _
    · split
      · exact .refuse _
      · exact .pure _

theorem loadConfig_quiet (explicit : Option String) : Quiet (loadConfig fs explicit) := by
  have hread : ∀ path, Quiet (do return (← readConfig fs path, some path) :
      Action (StateM σ) (Config × Option String)) :=
    fun path => .bind (readConfig_quiet view path) fun _ => .pure _
  unfold loadConfig
  cases explicit with
  | some path =>
    refine .bind (.pure _) fun path? => ?_
    cases path? with
    | none => exact .pure _
    | some path => exact hread path
  | none =>
    refine .bind (.lift (discoverConfig_state view _)) fun path? => ?_
    cases path? with
    | none => exact .pure _
    | some path => exact hread path

theorem loadModel_quiet (path : String) : Quiet (loadModel fs path) := by
  unfold loadModel
  refine .bind (.lift (view.read_state path)) fun result => ?_
  split
  · exact .refuse _
  · split
    · exact .refuse _
    · split
      · exact .refuse _
      · exact .pure _

end Inputs

/-- Without a configuration file the defaults are used. -/
theorem loadConfig_default {fs : FileSystem (StateM σ)} {s : σ}
    (h : ∀ name ∈ configFileNames, (fs.kind (Path.join "." name)).run s = (.error .notFound, s)) :
    (loadConfig fs none).runIn s = (.ok ({}, none), s) := by
  have hdiscover : (discoverConfig fs configFileNames).run s = (none, s) := by
    generalize configFileNames = names at h
    induction names with
    | nil => rfl
    | cons name names ih =>
      unfold discoverConfig
      simp only [StateT.run_bind, h name (List.mem_cons_self ..)]
      exact ih fun name hname => h name (List.mem_cons_of_mem _ hname)
  unfold loadConfig
  rw [runIn_bind_ok (runIn_lift_of_run hdiscover)]
  rfl

/-- A dump that is loaded is the text of a program in the format of its path. -/
theorem ofText_of_loadModel {fs : FileSystem (StateM σ)} {path : String} {p : Program}
    {s s' : σ} (h : (loadModel fs path).runIn s = (.ok p, s')) : ∃ text format,
      ((fs.read path).run s).1 = .ok text ∧ dumpFormat? path = some format ∧
        Program.ofText format text = .ok p := by
  unfold loadModel at h
  obtain ⟨result, s₁, hread, h⟩ := runIn_bind_eq_ok.mp h
  rw [runIn_lift] at hread
  cases hread
  cases htext : ((fs.read path).run s).1 with
  | error error =>
    rw [htext] at h
    cases h
  | ok text =>
    rw [htext] at h
    dsimp only at h
    cases hformat : dumpFormat? path with
    | none =>
      rw [hformat] at h
      cases h
    | some format =>
      rw [hformat] at h
      dsimp only at h
      cases hprogram : Program.ofText format text with
      | error error =>
        rw [hprogram] at h
        cases h
      | ok program =>
        rw [hprogram] at h
        cases h
        exact ⟨text, format, rfl, rfl, hprogram⟩

theorem analyzerOf_quiet (config : Config) : Quiet (σ := σ) (analyzerOf config) := by
  unfold analyzerOf
  split
  · exact .pure _
  · exact .fail _ _

theorem ofConfig_of_analyzerOf {config : Config} {analyzer : Analyzer} {s s' : σ}
    (h : (analyzerOf config : Action (StateM σ) Analyzer).runIn s = (.ok analyzer, s')) :
    Analyzer.ofConfig config = .ok analyzer ∧ s' = s := by
  unfold analyzerOf at h
  split at h
  · rename_i hok
    cases h
    exact ⟨hok, rfl⟩
  · cases h

end Command

/-! ## Trees of files -/

theorem bytes_toList_eq (bytes : ByteArray) : bytes.toList = bytes.data.toList := by
  have hloop : ∀ i read, ByteArray.toList.loop bytes i read =
      read.reverse ++ bytes.data.toList.drop i := by
    intro i read
    fun_induction ByteArray.toList.loop bytes i read with
    | case1 i read hlt ih =>
      have hget : bytes.data.toList.drop i = bytes.get! i :: bytes.data.toList.drop (i + 1) := by
        have hlt' : i < bytes.data.toList.length := by simpa using hlt
        rw [List.drop_eq_getElem_cons hlt']
        have hfirst : bytes.data[i]! = bytes.data.toList[i] := by
          rw [getElem!_pos bytes.data i (by simpa using hlt')]
          simp
        rw [← hfirst]
        rfl
      rw [ih, hget]
      simp
    | case2 i read hge =>
      have hlength : bytes.data.toList.length ≤ i := by simpa using hge
      rw [List.drop_eq_nil_of_le hlength, List.append_nil]
  exact (hloop 0 []).trans (by simp)

theorem bytesOf_of_textOf? {content : List UInt8} {text : String}
    (h : textOf? content = some text) : content = bytesOf text := by
  unfold textOf? String.fromUTF8? at h
  split at h
  · cases h
    rw [bytesOf, bytes_toList_eq]
    rfl
  · cases h

theorem textOf?_bytesOf (text : String) : textOf? (bytesOf text) = some text := by
  rw [textOf?, bytesOf, bytes_toList_eq, Array.toArray_toList]
  have hvalid : ({ data := text.toUTF8.data } : ByteArray).IsValidUTF8 := text.isValidUTF8
  rw [String.fromUTF8?, dif_pos hvalid]
  rfl

namespace FileTree

/-- The bytes of the file that names lead to. -/
def bytesAt (tree : FileTree) (names : List String) : Option (List UInt8) :=
  match tree.find? names with
  | some (.file content) => some content
  | _ => none

theorem lookup_putEntry (names other : List String) (entry : FileEntry)
    (entries : List (List String × FileEntry)) :
    (putEntry names entry entries).lookup other =
      if other = names then some entry else entries.lookup other := by
  have hcons : ∀ (key : List String) (value : FileEntry) (rest : List (List String × FileEntry)),
      ((key, value) :: rest).lookup other =
        if other = key then some value else rest.lookup other := by
    intro key value rest
    by_cases h : other = key
    · subst h
      simp
    · rw [List.lookup_cons, beq_false_of_ne h, if_neg h]
  induction entries with
  | nil => exact hcons names entry []
  | cons first entries ih =>
    obtain ⟨key, kept⟩ := first
    rw [putEntry]
    split
    · rename_i hkey
      subst hkey
      rw [hcons, hcons]
      split <;> rfl
    · rename_i hkey
      rw [hcons, hcons, ih]
      by_cases h : other = key
      · subst h
        simp [hkey]
      · simp [h]

/-- A path to a file in the root leads to its name. -/
theorem resolve_of_pieces {tree : FileTree} {path name : String}
    (hpath : (path.isEmpty || Path.isAbsolute path) = false)
    (hpieces : ((Path.pieces path.toList).map String.ofList).dropWhile (· == ".") = [name])
    (hname : (name.isEmpty || name == "." || name == "..") = false) :
    tree.resolve path = .ok [name] := by
  rw [resolve, hpath, if_neg (by simp)]
  generalize (Path.pieces path.toList).map String.ofList = pieces at hpieces
  simp only [Bool.or_eq_false_iff] at hname
  induction pieces with
  | nil => cases hpieces
  | cons piece pieces ih =>
    rw [List.dropWhile_cons] at hpieces
    rw [follow]
    split at hpieces
    · rename_i hpiece
      simp only [find?, List.isEmpty_nil, if_true, hpiece, Bool.or_true]
      exact ih hpieces
    · cases hpieces
      simp [find?, follow, hname]

theorem lookup_eq_ok {tree : FileTree} {path : String} {entry : FileEntry}
    (h : tree.lookup path = .ok entry) :
    ∃ names, tree.resolve path = .ok names ∧ tree.find? names = some entry := by
  unfold lookup at h
  cases hnames : tree.resolve path with
  | error error =>
    rw [hnames] at h
    cases h
  | ok names =>
    rw [hnames] at h
    dsimp only [bind, Except.bind] at h
    refine ⟨names, rfl, ?_⟩
    cases hfind : tree.find? names with
    | none =>
      rw [hfind] at h
      cases h
    | some found =>
      rw [hfind] at h
      cases h
      rfl

theorem read_eq_ok {tree : FileTree} {path text : String} (h : tree.read path = .ok text) :
    ∃ names content, tree.resolve path = .ok names ∧ tree.bytesAt names = some content ∧
      textOf? content = some text := by
  unfold read at h
  cases hentry : tree.lookup path with
  | error error =>
    rw [hentry] at h
    cases h
  | ok entry =>
    rw [hentry] at h
    obtain ⟨names, hnames, hfind⟩ := lookup_eq_ok hentry
    cases entry with
    | directory => cases h
    | file content =>
      dsimp only [bind, Except.bind] at h
      refine ⟨names, content, hnames, by rw [bytesAt, hfind], ?_⟩
      cases htext : textOf? content with
      | none =>
        rw [htext] at h
        cases h
      | some found =>
        rw [htext] at h
        cases h
        rfl

/-- Writing puts the bytes of a text into one file, at the names that the path leads to. -/
theorem write_eq_ok {tree tree' : FileTree} {path text : String}
    (h : tree.write path text = .ok tree') :
    ∃ names, tree.resolve path = .ok names ∧ tree'.bytesAt names = some (bytesOf text) ∧
      ∀ other, other ≠ names → tree'.bytesAt other = tree.bytesAt other := by
  unfold write at h
  cases hnames : tree.resolve (withoutSlashes path) with
  | error error =>
    rw [hnames] at h
    cases h
  | ok names =>
    rw [hnames] at h
    dsimp only [bind, Except.bind] at h
    split at h
    · cases h
    · rename_i hcondition
      cases h
      simp only [Bool.or_eq_true, bne_iff_ne, ne_eq, decide_eq_true_eq, not_or,
        Decidable.not_not] at hcondition
      obtain ⟨hpath, hdirectory⟩ := hcondition
      have hsome : names ≠ [] := by
        rintro rfl
        exact hdirectory rfl
      have hfind : ∀ other, other ≠ [] → (tree.put names (.file (bytesOf text))).find? other =
          if other = names then some (.file (bytesOf text)) else tree.find? other := by
        intro other hother
        rw [find?, find?, put, lookup_putEntry]
        simp [hother]
      refine ⟨names, by rw [← hnames, hpath], ?_, fun other hother => ?_⟩
      · rw [bytesAt, hfind names hsome, if_pos rfl]
      · by_cases hnil : other = []
        · subst hnil
          rfl
        · rw [bytesAt, bytesAt, hfind other hnil, if_neg hother]

section Names

variable {tree : FileTree} {path : String} {names : List String}
  (hnames : tree.resolve path = .ok names)

include hnames

theorem run_kind_of_find?_eq_none (hfind : tree.find? names = none) :
    (system.kind path).run tree = (.error .notFound, tree) := by
  have hlookup : tree.lookup path = .error .notFound := by
    rw [lookup, hnames]
    simp only [bind, Except.bind, hfind]
  exact Prod.ext (congrArg (Except.map FileEntry.kind) hlookup) rfl

theorem run_read_of_find? {text : String} (hfind : tree.find? names = some (.file (bytesOf text))) :
    (system.read path).run tree = (.ok text, tree) := by
  have hlookup : tree.lookup path = .ok (.file (bytesOf text)) :=
    except_bind_eq_ok.mpr ⟨names, hnames, by rw [hfind]; rfl⟩
  have hread : tree.read path = .ok text := by
    refine except_bind_eq_ok.mpr ⟨_, hlookup, ?_⟩
    simp only [textOf?_bytesOf]
    rfl
  exact Prod.ext hread rfl

theorem write_of_find? (hpath : withoutSlashes path = path) {content : List UInt8}
    (hfind : tree.find? names = some (.file content)) (text : String) :
    tree.write path text = .ok (tree.put names (.file (bytesOf text))) := by
  refine except_bind_eq_ok.mpr ⟨names, by rw [hpath, hnames], ?_⟩
  simp only [hpath, hfind, bne_self_eq_false, Bool.false_or, Option.some.injEq, reduceCtorEq,
    decide_false, Bool.false_eq_true, if_false]
  rfl

end Names

section Attempt

variable {operation : FileTree → Except FileError FileTree} {tree : FileTree}

theorem run_attempt_ok {tree' : FileTree} (h : operation tree = .ok tree') :
    (attempt operation).run tree = (.ok (), tree') := by
  unfold attempt
  simp only [StateT.run_bind, StateT.run_get, pure_bind, h]
  rfl

theorem run_attempt_error {error : FileError} (h : operation tree = .error error) :
    (attempt operation).run tree = (.error error, tree) := by
  unfold attempt
  simp only [StateT.run_bind, StateT.run_get, pure_bind, h]
  rfl

end Attempt

/-- A tree in memory is such a map: its files are the names that lead to them. -/
def view : FileSystem.View system (List String) where
  fileAt tree path := (tree.resolve path).toOption
  content tree names := tree.bytesAt names
  kind_state _ _ := rfl
  read_state _ _ := rfl
  read_content path tree text h := by
    obtain ⟨names, content, hnames, hbytes, htext⟩ := read_eq_ok h
    refine ⟨names, by rw [hnames]; rfl, ?_⟩
    rw [hbytes, bytesOf_of_textOf? htext]
  write_cases path text tree := by
    cases hwrite : tree.write path text with
    | error error => exact Or.inl ⟨error, run_attempt_error hwrite⟩
    | ok tree' =>
      obtain ⟨names, hnames, hbytes, hother⟩ := write_eq_ok hwrite
      exact Or.inr ⟨names, tree', by rw [hnames]; rfl, run_attempt_ok hwrite, hbytes, hother⟩

end FileTree

end ModLint
