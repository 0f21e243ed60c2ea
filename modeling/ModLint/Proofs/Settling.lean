import ModLint.Proofs.Arrival
import ModLint.Proofs.Directives
import ModLint.Proofs.Keys
import ModLint.Proofs.Reports

/-!
# What a run does with the diagnostics

A run goes through the diagnostics of an analysis three times: it drops those of excluded paths,
collects the suppressions of the paths that are left, and sets aside what these cover. A suppression
covers nothing outside of its own file, so all this amounts to one pass in which every diagnostic
is settled by itself: from the configuration and from the text of its own file.
-/

namespace ModLint

/-! ## Suppressions of a diagnostic -/

theorem mem_keys_insertByKey {α : Type} {key path : String} {value : α}
    {entries : List (String × α)} (h : path = key ∨ path ∈ entries.map Prod.fst) :
    path ∈ (insertByKey key value entries).map Prod.fst := by
  obtain ⟨before, after, heq, hentries⟩ := exists_insertByKey_eq key value entries
  rw [heq]
  simp only [List.map_append, List.map_cons, List.mem_append, List.mem_cons]
  rcases hentries with rfl | ⟨old, rfl⟩ <;>
    simp only [List.map_append, List.map_cons, List.mem_append, List.mem_cons] at h <;> tauto

theorem mem_keys_orderedByKey {α : Type} {path : String} {entries : List (String × α)}
    (h : path ∈ entries.map Prod.fst) : path ∈ (orderedByKey entries).map Prod.fst := by
  have hfold : ∀ (entries ordered : List (String × α)),
      path ∈ ordered.map Prod.fst ∨ path ∈ entries.map Prod.fst →
        path ∈ (entries.foldl (fun ordered entry =>
          insertByKey entry.1 entry.2 ordered) ordered).map Prod.fst := by
    intro entries
    induction entries with
    | nil => simp
    | cons entry entries ih =>
      intro ordered hpath
      refine ih _ ?_
      rw [List.map_cons, List.mem_cons] at hpath
      rcases hpath with hpath | hpath | hpath
      · exact Or.inl (mem_keys_insertByKey (Or.inr hpath))
      · exact Or.inl (mem_keys_insertByKey (Or.inl hpath))
      · exact Or.inr hpath
  exact hfold entries [] (Or.inr h)

namespace Program

theorem file_mem_pathsOf {diagnostics : List Diagnostic} {d : Diagnostic} (h : d ∈ diagnostics) :
    d.file ∈ pathsOf diagnostics := by
  refine mem_keys_orderedByKey ?_
  rw [List.map_map]
  exact List.mem_map_of_mem h

variable (p : Program) (disk : String → Option String)

/-- The text found for the first file with a path. -/
def textAt? (path : String) : Option String :=
  (p.files.find? fun file => file.path == path).bind fun file => file.text <|> disk path

/-- The suppressions in the text found for a path. -/
def directivesAt (path : String) : List Suppression :=
  ((p.textAt? disk path).map (Suppression.parse path)).getD []

/-- The suppression of a diagnostic: the first one in its own file that covers it. -/
def suppressionOf? (d : Diagnostic) : Option Suppression :=
  (p.directivesAt disk d.file).find? fun s => s.covers d

theorem suppressionsAt_eq (path : String) :
    p.suppressionsAt disk path = .ok (p.directivesAt disk path) := by
  unfold suppressionsAt fileByPath? directivesAt textAt?
  cases hfind : p.files.findIdx? fun file => file.path == path with
  | none =>
    have hnone : p.files.find? (fun file => file.path == path) = none := by
      rw [Array.find?_eq_none]
      intro file hfile
      rw [Array.findIdx?_eq_none_iff.mp hfind file hfile]
      exact Bool.false_ne_true
    rw [hnone]
    rfl
  | some i =>
    obtain ⟨hi, hpath, hbefore⟩ := Array.findIdx?_eq_some_iff_getElem.mp hfind
    have hfound : p.files.find? (fun file => file.path == path) = some p.files[i] :=
      Array.find?_eq_some_iff_getElem.mpr ⟨hpath, i, hi, rfl, by simpa using hbefore⟩
    have hsource : p.sourceText disk ⟨i⟩ = .ok (p.files[i].text <|> disk path) := by
      rw [sourceText, file, fetch_eq_ok_iff.mpr (Array.getElem?_eq_getElem hi),
        ← beq_iff_eq.mp hpath]
      rfl
    rw [hfound, Option.map_some]
    dsimp only
    rw [hsource, Option.bind_some]
    cases (p.files[i].text <|> disk path) <;> rfl

theorem file_of_mem_directivesAt {path : String} {s : Suppression}
    (h : s ∈ p.directivesAt disk path) : s.file = path := by
  unfold directivesAt at h
  cases htext : p.textAt? disk path with
  | none => simp [htext] at h
  | some text =>
    rw [htext] at h
    exact Suppression.file_of_mem_parse h

theorem suppressionsFor_eq (diagnostics : List Diagnostic) :
    p.suppressionsFor disk diagnostics =
      .ok ((pathsOf diagnostics).map (p.directivesAt disk)).flatten := by
  rw [suppressionsFor, mapM_eq_ok fun path _ => p.suppressionsAt_eq disk path]
  rfl

/-- Among the suppressions of all paths the first one for a diagnostic is that of its own file. -/
theorem find?_directives {diagnostics : List Diagnostic} {d : Diagnostic} (hd : d ∈ diagnostics) :
    ((pathsOf diagnostics).map (p.directivesAt disk)).flatten.find? (fun s => s.covers d) =
      p.suppressionOf? disk d := by
  -- the other files have no suppression that could be found before
  have hother : ∀ path, path ≠ d.file →
      (p.directivesAt disk path).find? (fun s => s.covers d) = none := by
    intro path hpath
    rw [List.find?_eq_none]
    intro s hs hcovers
    simp only [Suppression.covers, Bool.and_eq_true, beq_iff_eq] at hcovers
    exact hpath (by rw [hcovers.1.1, p.file_of_mem_directivesAt disk hs])
  have hsearch := findSome?_eq_of_unique hother (pathsOf diagnostics)
  rw [if_pos (file_mem_pathsOf hd)] at hsearch
  rw [List.find?_flatten, List.findSome?_map]
  exact hsearch

theorem suppressionOf?_eq_some_iff {d : Diagnostic} {s : Suppression} :
    p.suppressionOf? disk d = some s ↔ ∃ text i, p.textAt? disk d.file = some text ∧
      Suppression.SetsAside text i s d ∧
      ∀ j, j < i → ∀ s', ¬ Suppression.SetsAside text j s' d := by
  unfold suppressionOf? directivesAt
  cases htext : p.textAt? disk d.file with
  | none => simp
  | some text =>
    rw [Option.map_some, Option.getD_some, Suppression.find?_parse_eq_some_iff]
    constructor
    · rintro ⟨i, hsets, hfirst⟩
      exact ⟨text, i, rfl, hsets, hfirst⟩
    · rintro ⟨_, i, ⟨⟩, hsets, hfirst⟩
      exact ⟨i, hsets, hfirst⟩

theorem suppressionOf?_isSome_iff {d : Diagnostic} :
    (p.suppressionOf? disk d).isSome = true ↔
      ∃ text i s, p.textAt? disk d.file = some text ∧ Suppression.SetsAside text i s d := by
  constructor
  · intro hsome
    obtain ⟨s, hs⟩ := Option.isSome_iff_exists.mp hsome
    obtain ⟨text, i, htext, hsets, -⟩ := (p.suppressionOf?_eq_some_iff disk).mp hs
    exact ⟨text, i, s, htext, hsets⟩
  · rintro ⟨text, i, s, htext, hsets⟩
    obtain ⟨hstands, hcovers⟩ := Suppression.setsAside_iff.mp hsets
    rw [suppressionOf?, directivesAt, htext, Option.map_some, Option.getD_some, List.find?_isSome]
    exact ⟨s, Suppression.mem_parse_iff.mpr ⟨i, hstands⟩, hcovers⟩

end Program

/-! ## Settling diagnostics -/

/-- What suppressions do with diagnostics depends on the first that covers each of them. -/
theorem Suppression.apply_eq {suppressions : List Suppression} {diagnostics : List Diagnostic}
    {reason? : Diagnostic → Option Suppression}
    (h : ∀ d ∈ diagnostics, suppressions.find? (fun s => s.covers d) = reason? d) :
    apply suppressions diagnostics =
      (diagnostics.filter fun d => (reason? d).isNone,
        diagnostics.filterMap fun d => (reason? d).map (SuppressedDiagnostic.mk d)) := by
  have hany : ∀ d ∈ diagnostics,
      (!suppressions.any fun s => s.covers d) = (reason? d).isNone := by
    intro d hd
    rw [← h d hd, ← List.isSome_find?, Option.not_isSome]
  have hfirst : ∀ d ∈ diagnostics,
      (suppressions.find? fun s => s.covers d).map (SuppressedDiagnostic.mk d) =
        (reason? d).map (SuppressedDiagnostic.mk d) := by
    intro d hd
    rw [h d hd]
  exact Prod.ext (List.filter_congr hany) (List.filterMap_congr hfirst)

/-- The diagnostics of a result that were set aside. -/
def AnalysisResult.setAside (result : AnalysisResult) : List Diagnostic :=
  result.suppressed.map SuppressedDiagnostic.diagnostic

/-- The result in which every diagnostic is settled by itself. -/
def settle (isExcluded : String → Bool) (reason? : Diagnostic → Option Suppression)
    (all : List Diagnostic) : AnalysisResult where
  diagnostics := all.filter fun d => (reason? d).isNone && !isExcluded d.file
  suppressed := all.filterMap fun d =>
    if !isExcluded d.file then (reason? d).map (SuppressedDiagnostic.mk d) else none
  excluded := all.countP fun d => isExcluded d.file
  models := 1

namespace settle

variable {isExcluded : String → Bool} {reason? : Diagnostic → Option Suppression}
  {all : List Diagnostic}

theorem mem_diagnostics {d : Diagnostic} : d ∈ (settle isExcluded reason? all).diagnostics ↔
    d ∈ all ∧ isExcluded d.file = false ∧ reason? d = none := by
  simp [settle, and_comm]

theorem mem_suppressed {x : SuppressedDiagnostic} :
    x ∈ (settle isExcluded reason? all).suppressed ↔ x.diagnostic ∈ all ∧
      isExcluded x.diagnostic.file = false ∧ reason? x.diagnostic = some x.suppression := by
  rw [settle, List.mem_filterMap]
  constructor
  · rintro ⟨d, hd, hx⟩
    split at hx
    · rename_i hkept
      obtain ⟨s, hs, rfl⟩ := Option.map_eq_some_iff.mp hx
      exact ⟨hd, by simpa using hkept, hs⟩
    · cases hx
  · rintro ⟨hd, hkept, hs⟩
    exact ⟨x.diagnostic, hd, by simp [hkept, hs]⟩

theorem setAside_eq : (settle isExcluded reason? all).setAside =
    all.filter fun d => (reason? d).isSome && !isExcluded d.file := by
  rw [AnalysisResult.setAside, settle, List.map_filterMap, ← List.filterMap_eq_filter]
  refine List.filterMap_congr fun d _ => ?_
  cases hkept : isExcluded d.file <;> cases hd : reason? d <;> simp [Option.guard, hkept, hd]

theorem mem_setAside {d : Diagnostic} :
    d ∈ (settle isExcluded reason? all).setAside ↔
      d ∈ all ∧ isExcluded d.file = false ∧ (reason? d).isSome = true := by
  rw [setAside_eq, List.mem_filter, Bool.and_eq_true, Bool.not_eq_true']
  exact and_congr_right fun _ => and_comm

/-- No diagnostic is lost, and none is counted twice. -/
theorem length_eq : (settle isExcluded reason? all).diagnostics.length +
    (settle isExcluded reason? all).suppressed.length +
      (settle isExcluded reason? all).excluded = all.length := by
  have hdiagnostics : (settle isExcluded reason? all).diagnostics.length =
      all.countP fun d => (reason? d).isNone && !isExcluded d.file := by
    rw [List.countP_eq_length_filter, settle]
  have hsuppressed : (settle isExcluded reason? all).suppressed.length =
      all.countP fun d => (reason? d).isSome && !isExcluded d.file := by
    rw [List.countP_eq_length_filter, ← setAside_eq, AnalysisResult.setAside, List.length_map]
  rw [hdiagnostics, hsuppressed, settle]
  dsimp only
  clear hdiagnostics hsuppressed
  induction all with
  | nil => rfl
  | cons d all ih =>
    simp only [List.countP_cons, List.length_cons]
    cases isExcluded d.file <;> cases reason? d <;> simp <;> omega

/-- Excluding more paths takes away the diagnostics of these paths. -/
theorem diagnostics_of_le {isExcluded' : String → Bool}
    (h : ∀ path, isExcluded path = true → isExcluded' path = true) :
    (settle isExcluded' reason? all).diagnostics =
      (settle isExcluded reason? all).diagnostics.filter fun d => !isExcluded' d.file := by
  rw [settle, settle, List.filter_filter]
  refine List.filter_congr fun d _ => ?_
  by_cases hd : isExcluded d.file = true
  · simp [hd, h d.file hd]
  · simp [hd, Bool.and_comm]

theorem suppressed_of_le {isExcluded' : String → Bool}
    (h : ∀ path, isExcluded path = true → isExcluded' path = true) :
    (settle isExcluded' reason? all).suppressed =
      (settle isExcluded reason? all).suppressed.filter fun x =>
        !isExcluded' x.diagnostic.file := by
  rw [settle, settle, List.filter_filterMap]
  refine List.filterMap_congr fun d _ => ?_
  by_cases hd : isExcluded d.file = true
  · simp [hd, h d.file hd]
  · cases hd' : isExcluded' d.file <;> cases reason? d <;> simp [hd, hd', Option.filter]

theorem excluded_of_le {isExcluded' : String → Bool}
    (h : ∀ path, isExcluded path = true → isExcluded' path = true) :
    (settle isExcluded' reason? all).excluded = (settle isExcluded reason? all).excluded +
      ((settle isExcluded reason? all).diagnostics.length -
        (settle isExcluded' reason? all).diagnostics.length) +
      ((settle isExcluded reason? all).suppressed.length -
        (settle isExcluded' reason? all).suppressed.length) := by
  have htotal := @length_eq isExcluded reason? all
  have htotal' := @length_eq isExcluded' reason? all
  have hdiagnostics : (settle isExcluded' reason? all).diagnostics.length ≤
      (settle isExcluded reason? all).diagnostics.length := by
    rw [diagnostics_of_le h]
    exact List.length_filter_le _ _
  have hsuppressed : (settle isExcluded' reason? all).suppressed.length ≤
      (settle isExcluded reason? all).suppressed.length := by
    rw [suppressed_of_le h]
    exact List.length_filter_le _ _
  omega

/-- What happens to the diagnostics of a path depends on the suppressions of these only. -/
theorem filter_diagnostics {reason?' : Diagnostic → Option Suppression} {path : String}
    (h : ∀ d : Diagnostic, d.file = path → reason?' d = reason? d) :
    (settle isExcluded reason?' all).diagnostics.filter (fun d => d.file = path) =
      (settle isExcluded reason? all).diagnostics.filter fun d => d.file = path := by
  rw [settle, settle, List.filter_filter, List.filter_filter]
  refine List.filter_congr fun d _ => ?_
  by_cases hd : d.file = path
  · rw [h d hd]
  · simp [hd]

theorem filter_suppressed {reason?' : Diagnostic → Option Suppression} {path : String}
    (h : ∀ d : Diagnostic, d.file = path → reason?' d = reason? d) :
    (settle isExcluded reason?' all).suppressed.filter (fun x => x.diagnostic.file = path) =
      (settle isExcluded reason? all).suppressed.filter fun x => x.diagnostic.file = path := by
  rw [settle, settle, List.filter_filterMap, List.filter_filterMap]
  refine List.filterMap_congr fun d _ => ?_
  by_cases hd : d.file = path
  · rw [h d hd]
  · cases isExcluded d.file <;> cases reason? d <;> cases reason?' d <;> simp [Option.filter, hd]

end settle

theorem Analyzer.runBy_eq (isMatch : String → String → Bool) {analyzer : Analyzer} {p : Program}
    {all : List Diagnostic} (h : analyzer.analyze p = .ok all) (disk : String → Option String) :
    analyzer.runBy isMatch disk p =
      .ok (settle (analyzer.config.isPathExcludedBy isMatch) (p.suppressionOf? disk) all) := by
  refine lookup_bind_eq_ok.mpr ⟨all, h, ?_⟩
  rw [List.partition_eq_filter_filter]
  refine lookup_bind_eq_ok.mpr ⟨_, p.suppressionsFor_eq disk _, ?_⟩
  rw [Suppression.apply_eq fun d hd => p.find?_directives disk hd]
  dsimp only
  rw [List.filter_filter, List.filterMap_filter, settle, List.countP_eq_length_filter]
  rfl

theorem Analyzer.run_eq {analyzer : Analyzer} {p : Program} {all : List Diagnostic}
    (h : analyzer.analyze p = .ok all) (disk : String → Option String) :
    analyzer.run disk p =
      .ok (settle analyzer.config.isPathExcluded (p.suppressionOf? disk) all) :=
  runBy_eq Glob.isMatch h disk

/-- A path matches one of the patterns for excluded paths. -/
def Config.Excludes (config : Config) (path : String) : Prop :=
  ∃ pattern ∈ config.excludedPaths, Glob.isMatch pattern path = true

instance (config : Config) (path : String) : Decidable (config.Excludes path) :=
  inferInstanceAs (Decidable (∃ pattern ∈ config.excludedPaths, Glob.isMatch pattern path = true))

theorem Config.isPathExcluded_iff {config : Config} {path : String} :
    config.isPathExcluded path = true ↔ config.Excludes path := by
  rw [isPathExcluded, isPathExcludedBy, List.any_eq_true, Excludes]

/-- The analyzer with other patterns for excluded paths. -/
def Analyzer.excluding (analyzer : Analyzer) (patterns : List String) : Analyzer :=
  { analyzer with config := { analyzer.config with excludedPaths := patterns } }

theorem Analyzer.ofConfig_excluding {config : Config} {analyzer : Analyzer}
    (h : ofConfig config = .ok analyzer) (patterns : List String) :
    ofConfig { config with excludedPaths := patterns } = .ok (analyzer.excluding patterns) := by
  unfold ofConfig Catalog.ofConfig at h ⊢
  cases hcatalog : Catalog.builtin.withOverrides config.rules with
  | error rule =>
    rw [hcatalog] at h
    cases h
  | ok catalog =>
    rw [hcatalog] at h
    cases h
    rfl

namespace Program

/-! ## A program with comments -/

/-- A text with two calls and two comments. -/
def patchText : String :=
  "//celestecheck:ignore CL0005\nc.Remove(); //celestecheck:ignore *\nc.Remove();"

/-- Four calls of `Remove` in three files, with comments about some of them. -/
def scatteredRemovals : Program :=
  let calls : List (Nat × Nat × Nat) := [(1, 0, 1), (2, 29, 2), (0, 29, 2), (0, 65, 3)]
  let node (parent : Option NodeId) (kind : NodeKind) : Nat × Nat × Nat → SyntaxNode :=
    fun (file, start, line) =>
      { file := ⟨file⟩
        span := { startByte := start, endByte := start + 10, startLine := line, startColumn := 1 }
        parent
        kind }
  { assembly := "Mod"
    files := #[{ path := "Patch.cs", text := some patchText }, { path := "Generated.cs" },
      { path := "Old.cs", text := some "//celestecheck:ignore-file *\nc.Remove();" }]
    namespaces := #[{ name := "MonoMod" }, { name := "Cil", parent := some ⟨0⟩ }]
    types := #[{ name := "ILCursor", nameSpace := some ⟨1⟩, assembly := "MonoMod" }]
    methods := #[{ name := "Remove", kind := .ordinary, containingType := some ⟨0⟩ }]
    nodes := (calls.mapIdx fun i call =>
      [node none (.invocation ⟨2 * i + 1⟩ [] (some ⟨0⟩) []) call,
        node (some ⟨2 * i⟩) (.identifier "Remove" none) call]).flatten.toArray }

/-- The report on a call in `scatteredRemovals`. -/
def scatteredReport (file : String) (start line : Nat) : Diagnostic :=
  { removalReport (start + 10) with
    location := {
      file
      span := { startByte := start, endByte := start + 10, startLine := line, startColumn := 1 } } }

/-- The reports on `scatteredRemovals`, in order. -/
def scatteredReports : List Diagnostic :=
  [scatteredReport "Generated.cs" 0 1, scatteredReport "Old.cs" 29 2,
    scatteredReport "Patch.cs" 29 2, scatteredReport "Patch.cs" 65 3]

/-- The result of a run on `scatteredRemovals` without generated files. -/
def reviewedRemovals : AnalysisResult where
  diagnostics := [scatteredReport "Patch.cs" 65 3]
  suppressed :=
    [⟨scatteredReport "Old.cs" 29 2, ⟨"*", "", "Old.cs", 0, .file⟩⟩,
      ⟨scatteredReport "Patch.cs" 29 2, ⟨"CL0005", "", "Patch.cs", 1, .nextLine⟩⟩]
  excluded := 1
  models := 1

theorem check_scatteredRemovals : scatteredRemovals.check = .ok () := by
  decide +kernel

theorem link_scatteredRemovals : scatteredRemovals.link = .ok scatteredRemovals := by
  decide +kernel

theorem analyze_scatteredRemovals (patterns : List String) :
    (plainAnalyzer.excluding patterns).analyze scatteredRemovals = .ok scatteredReports := by
  have hcollect : plainAnalyzer.collect scatteredRemovals = .ok scatteredReports := rfl
  have hcanonical : Diagnostic.canonical scatteredReports = scatteredReports := by
    rw [Diagnostic.canonical_of_pairwise (by decide +kernel)]
    decide +kernel
  refine lookup_bind_eq_ok.mpr ⟨_, hcollect, ?_⟩
  rw [hcanonical]
  rfl

theorem run_scatteredRemovals :
    (plainAnalyzer.excluding ["Gen*"]).run (fun _ => none) scatteredRemovals =
      .ok reviewedRemovals := by
  rw [Analyzer.run_eq (analyze_scatteredRemovals _)]
  decide +kernel

/-! ## The groups of a result -/

/-- A run puts every diagnostic of the analysis into exactly one of three groups: the excluded ones,
which it counts, those that stay, and those that are set aside. The last two are listed in the
order of the analysis. A diagnostic that is not excluded is set aside if and only if a line of the
text found for its path asks for that, and the first such line is recorded. -/
theorem run_partitions_analysis {source p : Program} (hcheck : source.check = .ok ())
    (hlink : source.link = .ok p) (analyzer : Analyzer) (disk : String → Option String) :
    ∃ all result, analyzer.analyze p = .ok all ∧ analyzer.run disk p = .ok result ∧
      all.Nodup ∧ result.diagnostics.Sublist all ∧ result.setAside.Sublist all ∧
      result.diagnostics.Disjoint result.setAside ∧
      result.excluded = all.countP (fun d => analyzer.config.Excludes d.file) ∧
      (∀ d ∈ all,
        analyzer.config.Excludes d.file ∧ d ∉ result.diagnostics ∧ d ∉ result.setAside ∨
        ¬ analyzer.config.Excludes d.file ∧ d ∈ result.diagnostics ∧ d ∉ result.setAside ∨
        ¬ analyzer.config.Excludes d.file ∧ d ∉ result.diagnostics ∧ d ∈ result.setAside) ∧
      (∀ d ∈ all, ¬ analyzer.config.Excludes d.file →
        (d ∈ result.setAside ↔ ∃ text i s, p.textAt? disk d.file = some text ∧
          Suppression.SetsAside text i s d)) ∧
      ∀ x ∈ result.suppressed, ∃ text i, p.textAt? disk x.diagnostic.file = some text ∧
        Suppression.SetsAside text i x.suppression x.diagnostic ∧
        ∀ j, j < i → ∀ s, ¬ Suppression.SetsAside text j s x.diagnostic := by
  have hanalyze := (loaded_of_link hcheck hlink).analyze_eq analyzer
  generalize hall : Diagnostic.canonical (analyzer.reportList p) = all at hanalyze
  have hexcluded : ∀ path, analyzer.config.isPathExcluded path = false ↔
      ¬ analyzer.config.Excludes path := by
    intro path
    rw [← Config.isPathExcluded_iff, Bool.not_eq_true]
  refine ⟨all, _, hanalyze, Analyzer.run_eq hanalyze disk, ?_, List.filter_sublist, ?_, ?_, ?_, ?_,
    ?_, ?_⟩
  · rw [← hall]
    exact Diagnostic.nodup_of_pairwise_before (Diagnostic.canonical_pairwise _)
  · rw [settle.setAside_eq]
    exact List.filter_sublist
  · intro d hd hd'
    obtain ⟨-, -, hnone⟩ := settle.mem_diagnostics.mp hd
    obtain ⟨-, -, hsome⟩ := settle.mem_setAside.mp hd'
    rw [hnone] at hsome
    cases hsome
  · refine List.countP_congr fun d _ => ?_
    rw [decide_eq_true_iff, Config.isPathExcluded_iff]
  · intro d hd
    rw [settle.mem_diagnostics, settle.mem_setAside, hexcluded]
    cases p.suppressionOf? disk d <;> simp [hd, em]
  · intro d hd hkept
    rw [settle.mem_setAside, hexcluded, suppressionOf?_isSome_iff]
    simp [hd, hkept]
  · intro x hx
    obtain ⟨-, -, hfirst⟩ := settle.mem_suppressed.mp hx
    exact (p.suppressionOf?_eq_some_iff disk).mp hfirst

/-- Two comments ask to set the first call in `Patch.cs` aside, the one on the line before and the
one on its own line: the former is recorded. -/
theorem scatteredRemovals_partitioned :
    scatteredRemovals.check = .ok () ∧ scatteredRemovals.link = .ok scatteredRemovals ∧
      ∃ result, (plainAnalyzer.excluding ["Gen*"]).run (fun _ => none) scatteredRemovals =
          .ok result ∧ result.excluded = 1 ∧
        ⟨scatteredReport "Patch.cs" 29 2, ⟨"CL0005", "", "Patch.cs", 1, .nextLine⟩⟩ ∈
          result.suppressed := by
  have hcheck := check_scatteredRemovals
  have hlink := link_scatteredRemovals
  have htext : scatteredRemovals.textAt? (fun _ => none) "Patch.cs" = some patchText := by
    decide +kernel
  have hfirst : Suppression.SetsAside patchText 0
      ⟨"CL0005", "", "Patch.cs", 1, .nextLine⟩ (scatteredReport "Patch.cs" 29 2) :=
    ⟨by decide +kernel, Or.inr (Or.inl rfl), Or.inr (Or.inr ⟨rfl, rfl⟩)⟩
  obtain ⟨all, result, hanalyze, hrun, -, -, -, -, hexcluded, -, hiff, hrecorded⟩ :=
    run_partitions_analysis hcheck hlink (plainAnalyzer.excluding ["Gen*"]) fun _ => none
  rw [analyze_scatteredRemovals] at hanalyze
  cases hanalyze
  have haside := (hiff (scatteredReport "Patch.cs" 29 2) (by decide +kernel)
    (by decide +kernel)).mpr ⟨patchText, 0, _, htext, hfirst⟩
  obtain ⟨⟨_, s⟩, hmem, rfl⟩ := List.mem_map.mp haside
  obtain ⟨text, i, htext', hsets, hbefore⟩ := hrecorded _ hmem
  obtain rfl : patchText = text := Option.some.inj (htext.symm.trans htext')
  -- a later line cannot be the first one
  obtain rfl : i = 0 := by
    by_contra hi
    exact hbefore 0 (Nat.pos_of_ne_zero hi) _ hfirst
  obtain rfl : _ = s := Option.some.inj (hfirst.stands.symm.trans hsets.stands)
  exact ⟨hcheck, hlink, result, hrun, hexcluded.trans (by decide +kernel), hmem⟩

/-! ## Other exclusions -/

/-- With more patterns for excluded paths a run gives the same result, except that the diagnostics
of the paths that the patterns match are counted only. This is so for every way of matching, of
which the one with globs is in use. Patterns have no part in how an analyzer is made from a
configuration. -/
theorem excluding_more_only_filters {source p : Program} (hcheck : source.check = .ok ())
    (hlink : source.link = .ok p) (analyzer : Analyzer) (disk : String → Option String)
    {patterns : List String} (hmore : analyzer.config.excludedPaths ⊆ patterns)
    (isMatch : String → String → Bool) :
    (∀ config, Analyzer.ofConfig config = .ok analyzer →
      Analyzer.ofConfig { config with excludedPaths := patterns } =
        .ok (analyzer.excluding patterns)) ∧
      (∀ other : Analyzer, other.run disk p = other.runBy Glob.isMatch disk p) ∧
      ∃ result result', analyzer.runBy isMatch disk p = .ok result ∧
        (analyzer.excluding patterns).runBy isMatch disk p = .ok result' ∧
        result'.diagnostics = result.diagnostics.filter (fun d =>
          ¬ ∃ pattern ∈ patterns, isMatch pattern d.file = true) ∧
        result'.suppressed = result.suppressed.filter (fun x =>
          ¬ ∃ pattern ∈ patterns, isMatch pattern x.diagnostic.file = true) ∧
        result'.excluded = result.excluded +
          (result.diagnostics.length - result'.diagnostics.length) +
          (result.suppressed.length - result'.suppressed.length) := by
  have hanalyze := (loaded_of_link hcheck hlink).analyze_eq analyzer
  have hanalyze' : (analyzer.excluding patterns).analyze p = _ := hanalyze
  have hle : ∀ path, analyzer.config.isPathExcludedBy isMatch path = true →
      (analyzer.excluding patterns).config.isPathExcludedBy isMatch path = true := by
    intro path hpath
    obtain ⟨pattern, hpattern, hmatch⟩ := List.any_eq_true.mp hpath
    exact List.any_eq_true.mpr ⟨pattern, hmore hpattern, hmatch⟩
  have hkept : ∀ path, (!(analyzer.excluding patterns).config.isPathExcludedBy isMatch path) =
      decide (¬ ∃ pattern ∈ patterns, isMatch pattern path = true) := by
    intro path
    rw [Bool.eq_iff_iff, Bool.not_eq_true', decide_eq_true_iff, ← Bool.not_eq_true]
    exact not_congr List.any_eq_true
  refine ⟨fun config hconfig => Analyzer.ofConfig_excluding hconfig patterns, fun _ => rfl, _, _,
    Analyzer.runBy_eq isMatch hanalyze disk, Analyzer.runBy_eq isMatch hanalyze' disk, ?_, ?_, ?_⟩
  · rw [settle.diagnostics_of_le hle]
    exact List.filter_congr fun d _ => hkept d.file
  · rw [settle.suppressed_of_le hle]
    exact List.filter_congr fun x _ => hkept x.diagnostic.file
  · exact settle.excluded_of_le hle

/-- Excluding `Old.cs` as well takes away what a comment there had set aside. -/
theorem scatteredRemovals_without_old :
    scatteredRemovals.check = .ok () ∧ scatteredRemovals.link = .ok scatteredRemovals ∧
      ["Gen*"] ⊆ ["Old.cs", "Gen*"] ∧
      (plainAnalyzer.excluding ["Gen*"]).run (fun _ => none) scatteredRemovals =
        .ok reviewedRemovals ∧
      ∃ result, (plainAnalyzer.excluding ["Old.cs", "Gen*"]).run (fun _ => none)
          scatteredRemovals = .ok result ∧
        result.diagnostics = reviewedRemovals.diagnostics ∧
        result.suppressed = reviewedRemovals.suppressed.drop 1 ∧ result.excluded = 2 := by
  have hcheck := check_scatteredRemovals
  have hlink := link_scatteredRemovals
  have hmore : ["Gen*"] ⊆ ["Old.cs", "Gen*"] := by decide
  obtain ⟨-, hglobs, _, result, hrun, hrun', hdiagnostics, hsuppressed, hexcluded⟩ :=
    excluding_more_only_filters hcheck hlink (plainAnalyzer.excluding ["Gen*"])
      (fun _ => none) hmore Glob.isMatch
  rw [← hglobs] at hrun hrun'
  rw [run_scatteredRemovals] at hrun
  cases hrun
  have hdiagnostics' : result.diagnostics = reviewedRemovals.diagnostics := by
    rw [hdiagnostics]
    decide +kernel
  have hsuppressed' : result.suppressed = reviewedRemovals.suppressed.drop 1 := by
    rw [hsuppressed]
    decide +kernel
  refine ⟨hcheck, hlink, hmore, run_scatteredRemovals, result, hrun', hdiagnostics',
    hsuppressed', ?_⟩
  rw [hexcluded, hdiagnostics', hsuppressed']
  rfl

end Program

end ModLint
