import ModLint.Proofs.NumberFree
import ModLint.Proofs.Settling

/-!
# Comments act on their own file

No check reads the text of a file, so programs that differ in texts only are analysed alike. The
texts matter for what a run sets aside, but there a diagnostic is settled by the text of its own
file. Whatever is written into a file, the diagnostics of all other files are treated as before.
-/

namespace ModLint

namespace Program

/-! ## Programs with other texts -/

/-- The second program differs from the first one only in the texts of files with path `g`. -/
structure SameBesides (g : String) (p q : Program) : Prop where
  rest : q = { p with files := q.files }
  files : List.Forall₂ (fun a b : SourceFile => b.path = a.path ∧ (a.path ≠ g → b.text = a.text))
    p.files.toList q.files.toList

namespace SameBesides

variable {g : String} {p q : Program} (h : p.SameBesides g q)

include h

theorem alikeUnder : p.AlikeUnder (Equiv.refl NodeId) q := by
  have hpaths : q.files.toList.map SourceFile.path = p.files.toList.map SourceFile.path := by
    have hfiles := h.files
    generalize p.files.toList = old at hfiles ⊢
    generalize q.files.toList = new at hfiles ⊢
    induction hfiles with
    | nil => rfl
    | cons hfile _ ih => rw [List.map_cons, List.map_cons, hfile.1, ih]
  have hnodes : q.nodes = p.nodes := by rw [h.rest]
  refine ⟨?_, ?_, fun id => ?_, ?_, fun id _ => rfl⟩
  · rw [Equiv.coe_refl, TypeSymbol.mapNodes_id, MethodSymbol.mapNodes_id, Array.map_id,
      Array.map_id, hnodes]
    exact h.rest
  · exact Array.toList_inj.mp (by simpa using hpaths)
  · simp [hnodes]
  · simp [hnodes]

theorem textAt?_eq (disk : String → Option String) {path : String} (hpath : path ≠ g) :
    q.textAt? disk path = p.textAt? disk path := by
  have hfiles := h.files
  unfold textAt?
  rw [← Array.find?_toList, ← Array.find?_toList]
  generalize p.files.toList = old at hfiles ⊢
  generalize q.files.toList = new at hfiles ⊢
  induction hfiles with
  | nil => rfl
  | @cons a b _ _ hfile _ ih =>
    rw [List.find?_cons, List.find?_cons, hfile.1]
    cases hfound : a.path == path with
    | true =>
      have hne : a.path ≠ g := by rwa [beq_iff_eq.mp hfound]
      simp [hfile.2 hne]
    | false => exact ih

theorem suppressionOf?_eq (disk : String → Option String) {d : Diagnostic} (hd : d.file ≠ g) :
    q.suppressionOf? disk d = p.suppressionOf? disk d := by
  rw [suppressionOf?, suppressionOf?, directivesAt, directivesAt, h.textAt?_eq disk hd]

/-- No report depends on a text. -/
theorem reportList_eq (hp : p.Loaded) (analyzer : Analyzer) :
    analyzer.reportList q = analyzer.reportList p := by
  have halike := h.alikeUnder
  have hnodes : q.nodeIds.filterMap q.raisedAt? = p.nodeIds.filterMap p.raisedAt? := by
    rw [nodeIds, nodeIds, halike.nodes_size]
    refine List.filterMap_congr fun id _ => ?_
    simpa using halike.raisedAt?_eq id
  have hevents : Lookup.items q.raisedEvents = Lookup.items p.raisedEvents := by
    rw [hp.items_raisedEvents, (halike.loaded hp).items_raisedEvents, hnodes, halike.declared_eq,
      Equiv.coe_refl, Event.mapNodes_id, List.map_id]
  unfold Analyzer.reportList
  rw [hevents]
  refine List.flatMap_congr fun event _ => List.flatMap_congr fun checker _ => ?_
  simpa using halike.found_eq analyzer event checker

end SameBesides

/-- If the texts of the files with one path change, the analysis lists the same diagnostics, and a
run treats those of every other path as before: it lists the same ones, sets the same ones aside for
the same reasons, and excludes as many. -/
theorem comments_act_on_own_file {source p q : Program} {g : String}
    (hcheck : source.check = .ok ()) (hlink : source.link = .ok p) (h : p.SameBesides g q)
    (analyzer : Analyzer) (disk : String → Option String) :
    ∃ all result result', analyzer.analyze p = .ok all ∧ analyzer.analyze q = .ok all ∧
      analyzer.run disk p = .ok result ∧ analyzer.run disk q = .ok result' ∧
      (∀ path, path ≠ g →
        result'.diagnostics.filter (fun d => d.file = path) =
          result.diagnostics.filter (fun d => d.file = path) ∧
        result'.suppressed.filter (fun x => x.diagnostic.file = path) =
          result.suppressed.filter (fun x => x.diagnostic.file = path)) ∧
      result'.excluded = result.excluded := by
  have hp : p.Loaded := loaded_of_link hcheck hlink
  have hanalyze := hp.analyze_eq analyzer
  have hanalyze' := (h.alikeUnder.loaded hp).analyze_eq analyzer
  rw [h.reportList_eq hp] at hanalyze'
  refine ⟨_, _, _, hanalyze, hanalyze', Analyzer.run_eq hanalyze disk,
    Analyzer.run_eq hanalyze' disk, fun path hpath => ?_, rfl⟩
  have hsame : ∀ d : Diagnostic, d.file = path →
      q.suppressionOf? disk d = p.suppressionOf? disk d := by
    rintro d rfl
    exact h.suppressionOf?_eq disk hpath
  exact ⟨settle.filter_diagnostics hsame, settle.filter_suppressed hsame⟩

/-- `scatteredRemovals` without the comment in `Old.cs`. -/
def uncommentedRemovals : Program :=
  { scatteredRemovals with
    files := scatteredRemovals.files.setIfInBounds 2
      { path := "Old.cs", text := some "c.Remove();" } }

/-- Without its comment the call in `Old.cs` is listed, and those in `Patch.cs` are as before. -/
theorem uncommentedRemovals_keep_patch :
    scatteredRemovals.check = .ok () ∧ scatteredRemovals.link = .ok scatteredRemovals ∧
      scatteredRemovals.SameBesides "Old.cs" uncommentedRemovals ∧
      (plainAnalyzer.excluding ["Gen*"]).run (fun _ => none) scatteredRemovals =
        .ok reviewedRemovals ∧
      ∃ result, (plainAnalyzer.excluding ["Gen*"]).run (fun _ => none) uncommentedRemovals =
          .ok result ∧ scatteredReport "Old.cs" 29 2 ∈ result.diagnostics ∧
        result.diagnostics.filter (fun d => d.file = "Patch.cs") = reviewedRemovals.diagnostics ∧
        result.suppressed.filter (fun x => x.diagnostic.file = "Patch.cs") =
          reviewedRemovals.suppressed.drop 1 := by
  have hsame : scatteredRemovals.SameBesides "Old.cs" uncommentedRemovals :=
    ⟨rfl, .cons ⟨rfl, fun _ => rfl⟩ (.cons ⟨rfl, fun _ => rfl⟩
      (.cons ⟨rfl, fun hne => absurd rfl hne⟩ .nil))⟩
  obtain ⟨all, _, result, hanalyze, hanalyze', hrun, hrun', hpaths, -⟩ :=
    comments_act_on_own_file check_scatteredRemovals link_scatteredRemovals hsame
      (plainAnalyzer.excluding ["Gen*"]) fun _ => none
  rw [run_scatteredRemovals] at hrun
  cases hrun
  rw [analyze_scatteredRemovals] at hanalyze
  cases hanalyze
  obtain ⟨hdiagnostics, hsuppressed⟩ := hpaths "Patch.cs" (by decide)
  refine ⟨check_scatteredRemovals, link_scatteredRemovals, hsame, run_scatteredRemovals, result,
    hrun', ?_, hdiagnostics.trans (by decide +kernel), hsuppressed.trans (by decide +kernel)⟩
  rw [Analyzer.run_eq hanalyze'] at hrun'
  cases hrun'
  exact settle.mem_diagnostics.mpr ⟨by decide +kernel, by decide +kernel, by decide +kernel⟩

end Program

end ModLint
