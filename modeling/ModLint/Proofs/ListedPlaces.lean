import ModLint.Proofs.Cutting
import ModLint.Proofs.Decoding
import ModLint.Proofs.Directives
import ModLint.Proofs.SourceEdit

/-!
# Places that the command lists

Without a place the command that fixes diagnostics lists what it can fix, each diagnostic with a
path and a line. Given such a place back, it takes the first diagnostic on this line whose path is
the given one or ends in it. The listed diagnostic is one of these, so something is found on the
line; but diagnostics are sorted by path, and a path that only ends in the given one may come first.
So the listed place leads back to its file exactly if no such *namesake* is sorted before it.
-/

namespace ModLint

/-! ## Reading a place that was listed -/

namespace Place

theorem digits?_eq_ofDigitChars {cs : List Char} (h : ∀ c ∈ cs, c.isDigit = true) (value : Nat) :
    digits? value cs = some (Nat.ofDigitChars 10 cs value) := by
  induction cs generalizing value with
  | nil => rfl
  | cons c cs ih =>
    have hc : '0' ≤ c ∧ c ≤ '9' := by
      have := h c List.mem_cons_self
      simpa [Char.isDigit, Char.le_def] using this
    rw [digits?, if_pos hc, ih fun d hd => h d (List.mem_cons_of_mem c hd),
      Nat.ofDigitChars_cons]
    rfl

theorem isDigit_of_mem_toDigits {n : Nat} {c : Char} (h : c ∈ Nat.toDigits 10 n) :
    c.isDigit = true :=
  Nat.isDigit_of_mem_toDigits (by decide) (by decide) h

theorem number?_toDigits {n : Nat} (h : n < Nat.pow 2 64) :
    number? (Nat.toDigits 10 n) = some n := by
  have hvalue : digits? 0 (Nat.toDigits 10 n) = some n := by
    rw [digits?_eq_ofDigitChars fun c hc => isDigit_of_mem_toDigits hc,
      Nat.ofDigitChars_ten_toDigits]
  have hempty : (Nat.toDigits 10 n).isEmpty = false := by
    simp [Nat.toDigits_ne_nil]
  unfold number?
  dsimp only
  split
  · rename_i rest hplus
    have hdigit : '+' ∈ Nat.toDigits 10 n := by simp [hplus]
    exact absurd (isDigit_of_mem_toDigits hdigit) (by decide)
  · simp [hempty, hvalue, h]

theorem noBlanks_toDigits (n : Nat) : Text.NoBlanks (Nat.toDigits 10 n) := by
  intro c hc
  have hdigit := isDigit_of_mem_toDigits hc
  simp only [Char.isDigit, Bool.and_eq_true, decide_eq_true_eq, UInt32.le_iff_toNat_le] at hdigit
  have hlow : 48 ≤ c.toNat := hdigit.1
  have hhigh : c.toNat ≤ 57 := hdigit.2
  simp only [Text.isBlank, Bool.or_eq_false_iff, Bool.and_eq_false_iff, decide_eq_false_iff_not,
    beq_eq_false_iff_ne]
  omega

/-- A path and a line as the command lists them. -/
def listed (diagnostic : Diagnostic) : String :=
  diagnostic.file ++ ":" ++ toString diagnostic.line

theorem parse?_listed {diagnostic : Diagnostic} (hfile : diagnostic.file ≠ "")
    (hline : 1 ≤ diagnostic.line) (hbound : diagnostic.line < Nat.pow 2 64) :
    parse? (listed diagnostic) = some ⟨diagnostic.file, diagnostic.line⟩ := by
  have htext : (listed diagnostic).toList =
      diagnostic.file.toList ++ ':' :: Nat.toDigits 10 diagnostic.line := by
    simp [listed]
  have hcolon : ':' ∉ Nat.toDigits 10 diagnostic.line := by
    intro hmem
    exact absurd (isDigit_of_mem_toDigits hmem) (by decide)
  have hzero : diagnostic.line ≠ 0 := by omega
  unfold parse?
  rw [htext, Text.splitLast?_append _ hcolon]
  simp [(noBlanks_toDigits _).trim_eq, number?_toDigits hbound, hfile, hzero]

/-! ## Namesakes -/

/-- A path is the given one or ends in it, as far as slashes, backslashes and the current directory
in front do not matter. -/
def Namesake (path file : String) : Prop :=
  slashes path.toList = slashes file.toList ∨
    ∃ directories, slashes path.toList = directories ++ '/' :: dropCurrent (slashes file.toList)

theorem covers_iff {place : Place} {diagnostic : Diagnostic} : place.covers diagnostic = true ↔
    diagnostic.line = place.line ∧ Namesake diagnostic.file place.file := by
  have hsuffix : ∀ path file : List Char, isPathSuffix path file = true ↔
      path = file ∨ ∃ directories, path = directories ++ '/' :: dropCurrent file := by
    intro path file
    rw [isPathSuffix, Bool.or_eq_true, beq_iff_eq, List.isSuffixOf_iff_suffix]
    constructor
    · rintro (heq | ⟨directories, hdirectories⟩)
      · exact Or.inl heq
      · exact Or.inr ⟨directories, hdirectories.symm⟩
    · rintro (heq | ⟨directories, hdirectories⟩)
      · exact Or.inl heq
      · exact Or.inr ⟨directories, hdirectories.symm⟩
  rw [covers, Bool.and_eq_true, beq_iff_eq, hsuffix, Namesake]

end Place

/-! ## Lines of loaded programs -/

theorem Span.decode_gives :
    Decoder.Gives Span.decode fun span => span.startLine < Nat.pow 2 64 := by
  intro rules datum span h
  obtain ⟨fields, -, h⟩ := Option.bind_eq_some_iff.mp h
  obtain ⟨startByte, -, h⟩ := Option.bind_eq_some_iff.mp h
  obtain ⟨endByte, -, h⟩ := Option.bind_eq_some_iff.mp h
  obtain ⟨startLine, hline, h⟩ := Option.bind_eq_some_iff.mp h
  obtain ⟨startColumn, -, h⟩ := Option.bind_eq_some_iff.mp h
  obtain ⟨endLine, -, h⟩ := Option.bind_eq_some_iff.mp h
  obtain ⟨endColumn, -, h⟩ := Option.bind_eq_some_iff.mp h
  cases h
  exact Decoder.Gives.nat.required hline

theorem SyntaxNode.decode_gives :
    Decoder.Gives SyntaxNode.decode fun node => node.span.startLine < Nat.pow 2 64 := by
  intro rules datum node h
  unfold SyntaxNode.decode at h
  split at h
  · obtain ⟨inner, -, h⟩ := Option.bind_eq_some_iff.mp h
    obtain ⟨entries, -, h⟩ := Option.bind_eq_some_iff.mp h
    obtain ⟨others, -, h⟩ := Option.bind_eq_some_iff.mp h
    obtain ⟨file, -, h⟩ := Option.bind_eq_some_iff.mp h
    obtain ⟨span, hspan, h⟩ := Option.bind_eq_some_iff.mp h
    obtain ⟨trivia, -, h⟩ := Option.bind_eq_some_iff.mp h
    obtain ⟨kind, -, h⟩ := Option.bind_eq_some_iff.mp h
    cases h
    exact Span.decode_gives.required hspan
  · cases h

theorem Program.decode_gives : Decoder.Gives Program.decode fun p =>
    ∀ node ∈ p.nodes, node.span.startLine < Nat.pow 2 64 := by
  intro rules datum p h
  obtain ⟨fields, -, h⟩ := Option.bind_eq_some_iff.mp h
  obtain ⟨assembly, -, h⟩ := Option.bind_eq_some_iff.mp h
  obtain ⟨files, -, h⟩ := Option.bind_eq_some_iff.mp h
  obtain ⟨namespaces, -, h⟩ := Option.bind_eq_some_iff.mp h
  obtain ⟨types, -, h⟩ := Option.bind_eq_some_iff.mp h
  obtain ⟨methods, -, h⟩ := Option.bind_eq_some_iff.mp h
  obtain ⟨properties, -, h⟩ := Option.bind_eq_some_iff.mp h
  obtain ⟨events, -, h⟩ := Option.bind_eq_some_iff.mp h
  obtain ⟨nodes, hnodes, h⟩ := Option.bind_eq_some_iff.mp h
  cases h
  exact SyntaxNode.decode_gives.array.getD (by simp) hnodes

namespace Program

/-- A dump is loaded by decoding, checking and linking a program. -/
theorem decoded_of_ofText {format : DumpFormat} {text : String} {p : Program}
    (h : ofText format text = .ok p) : ∃ rules datum source,
      Program.decode rules datum = some source ∧ source.check = .ok () ∧ source.link = .ok p := by
  have hfinish : ∀ source : Program, source.finish = .ok p →
      source.check = .ok () ∧ source.link = .ok p := by
    intro source hsource
    unfold finish at hsource
    split at hsource
    · cases hsource
    · rename_i hcheck hlink
      cases hsource
      exact ⟨hcheck, hlink⟩
    · cases hsource
    · -- linking a checked program meets no fault
      rename_i fault hcheck hlink
      rcases link_cases (childrenInRange_of_inRange (inRange_of_check hcheck)) with
        ⟨_, _, _, _, herr⟩ | ⟨nodes, -, ⟨-, hok⟩ | ⟨-, _, herr⟩⟩
      · rw [herr] at hlink
        cases hlink
      · rw [hok] at hlink
        cases hlink
      · rw [herr] at hlink
        cases hlink
  cases format with
  | json =>
    change ofJson text = .ok p at h
    unfold ofJson at h
    split at h
    · rename_i datum _
      unfold ofDatum at h
      split at h
      · rename_i source hdecode
        exact ⟨_, datum, source, hdecode, hfinish source h⟩
      · cases h
    · cases h
  | yaml =>
    change ofYaml text = .ok p at h
    unfold ofYaml at h
    split at h
    · rename_i source hdecode
      obtain ⟨datum, -, hdecode⟩ := Option.bind_eq_some_iff.mp hdecode
      exact ⟨_, datum, source, hdecode, hfinish source h⟩
    · cases h

theorem startLine_lt_of_ofText {format : DumpFormat} {text : String} {p : Program}
    (h : ofText format text = .ok p) {node : SyntaxNode} (hnode : node ∈ p.nodes) :
    node.span.startLine < Nat.pow 2 64 := by
  obtain ⟨rules, datum, source, hdecode, hcheck, hlink⟩ := decoded_of_ofText h
  obtain ⟨nodes, hadopted, -, rfl⟩ :=
    adopted_of_link (childrenInRange_of_inRange (inRange_of_check hcheck)) hlink
  -- linking leaves the spans alone
  have horphan : orphan node ∈ source.nodes.map orphan := by
    rw [← hadopted.frame]
    exact Array.mem_map_of_mem hnode
  obtain ⟨before, hbefore, heq⟩ := Array.mem_map.mp horphan
  have hspan : before.span = node.span := by
    simpa [orphan] using congrArg SyntaxNode.span heq
  rw [← hspan]
  exact Program.decode_gives rules datum source hdecode before hbefore

theorem loaded_of_ofText {format : DumpFormat} {text : String} {p : Program}
    (h : ofText format text = .ok p) : p.Loaded := by
  obtain ⟨_, _, _, -, hcheck, hlink⟩ := decoded_of_ofText h
  exact loaded_of_link hcheck hlink

end Program

/-! ## What is listed -/

theorem Diagnostic.Before.not_file_lt {a b : Diagnostic} (h : a.Before b) : ¬ b.file < a.file := by
  intro hlt
  have hne : a.file ≠ b.file := by
    intro heq
    rw [heq] at hlt
    exact String.lt_irrefl _ hlt
  have hgt : compare a.file b.file = .gt := by
    change compareOfLessAndEq a.file b.file = .gt
    rw [compareOfLessAndEq, if_neg (String.lt_asymm hlt), if_neg hne]
  rw [Before, order, hgt] at h
  cases h

namespace Command

theorem fixable_sublist {p : Program} {diagnostics : List Diagnostic}
    {fixes : List (Diagnostic × CodeAction)} (h : fixable p diagnostics = .ok fixes) :
    (fixes.map Prod.fst).Sublist diagnostics := by
  unfold fixable at h
  induction diagnostics generalizing fixes with
  | nil =>
    cases h
    exact .slnil
  | cons first diagnostics ih =>
    rw [List.filterMapM_cons] at h
    obtain ⟨fix?, hfirst, h⟩ := lookup_bind_eq_ok.mp h
    obtain ⟨offered?, -, hfix⟩ := lookup_bind_eq_ok.mp hfirst
    cases hfix
    cases offered? with
    | none => exact (ih h).cons first
    | some offered =>
      obtain ⟨rest, hrest, hfixes⟩ := lookup_bind_eq_ok.mp h
      cases hfixes
      exact (ih hrest).cons_cons first

variable {σ : Type} {fs : FileSystem (StateM σ)} {File : Type} {overflow : Overflow}
  {color : Bool}
  {arguments : FixArguments} {s : σ} {p : Program} {disk : String → Option String}
  {fixes : List (Diagnostic × CodeAction)}

/-- What the command finds to fix in a program, with the source texts that it reads. -/
structure Lists (fs : FileSystem (StateM σ)) (arguments : FixArguments) (s : σ) (p : Program)
    (disk : String → Option String) (fixes : List (Diagnostic × CodeAction)) : Prop where
  model : (loadModel fs arguments.model).runIn s = (.ok p, s)
  sources : (sourcesOf fs (modelDirectory arguments.model) p).run s = (disk, s)
  found : ∃ config path analyzer result,
    (loadConfig fs arguments.config).runIn s = (.ok (config, path), s) ∧
    Analyzer.ofConfig config = .ok analyzer ∧ analyzer.run disk p = .ok result ∧
    fixable p result.diagnostics = .ok fixes

/-- What the command finds is sorted by path, on lines that a place can name. -/
theorem Lists.sorted (h : Lists fs arguments s p disk fixes) :
    (fixes.Pairwise fun a b => ¬ b.1.file < a.1.file) ∧
      ∀ fix ∈ fixes, fix.1.line < Nat.pow 2 64 := by
  obtain ⟨_, _, analyzer, result, -, -, hresult, hfixes⟩ := h.found
  obtain ⟨text, format, -, -, htext⟩ := ofText_of_loadModel h.model
  have hp := Program.loaded_of_ofText htext
  rw [Analyzer.run_eq (hp.analyze_eq analyzer)] at hresult
  cases hresult
  have hsub := (fixable_sublist hfixes).trans List.filter_sublist
  constructor
  · have hbefore := (Diagnostic.canonical_pairwise _).sublist hsub
    rw [List.pairwise_map] at hbefore
    exact hbefore.imp fun hab => hab.not_file_lt
  · intro fix hfix
    have hmem := Diagnostic.mem_of_mem_canonical (hsub.mem (List.mem_map_of_mem hfix))
    obtain ⟨_, _, _, _, _, finding, -, -, -, -, -, hreport, -⟩ :=
      Analyzer.mem_reportList_iff.mp hmem
    obtain ⟨node, file, hnode, -, hlocation⟩ :=
      Program.location_eq_ok (Finding.diagnostic?_eq_some hreport).2
    have hline : fix.1.line = node.span.startLine := by
      rw [Diagnostic.line, hlocation]
      rfl
    rw [hline]
    exact Program.startLine_lt_of_ofText htext
      (Array.mem_of_getElem? (Program.fetch_eq_ok_iff.mp hnode))

/-- The first diagnostic at a listed place. It is in another file than the listed one exactly if a
namesake with a diagnostic on the same line is sorted before that file. -/
theorem Lists.first_at_place (h : Lists fs arguments s p disk fixes)
    {fix : Diagnostic × CodeAction} (hfix : fix ∈ fixes) :
    ∃ chosen ∈ fixes,
      fixes.find? (fun other => Place.covers ⟨fix.1.file, fix.1.line⟩ other.1) = some chosen ∧
      chosen.1.line = fix.1.line ∧ Place.Namesake chosen.1.file fix.1.file ∧
      (chosen.1.file = fix.1.file ↔ ∀ other ∈ fixes, other.1.line = fix.1.line →
        Place.Namesake other.1.file fix.1.file → ¬ other.1.file < fix.1.file) := by
  have hown : Place.covers ⟨fix.1.file, fix.1.line⟩ fix.1 = true :=
    Place.covers_iff.mpr ⟨rfl, Or.inl rfl⟩
  cases hfind : fixes.find? fun other => Place.covers ⟨fix.1.file, fix.1.line⟩ other.1 with
  | none => exact absurd hown (List.find?_eq_none.mp hfind fix hfix)
  | some chosen =>
    have hmem := List.mem_of_find?_eq_some hfind
    obtain ⟨hcovers, before, after, hsplit, hearlier⟩ := List.find?_eq_some_iff_append.mp hfind
    obtain ⟨hline, hname⟩ := Place.covers_iff.mp hcovers
    -- of all diagnostics at the place the chosen one has the least path
    have hleast : ∀ other ∈ fixes, Place.covers ⟨fix.1.file, fix.1.line⟩ other.1 = true →
        ¬ other.1.file < chosen.1.file := by
      intro other hother hat
      have hsorted := h.sorted.1
      rw [hsplit, List.pairwise_append, List.pairwise_cons] at hsorted
      rw [hsplit, List.mem_append, List.mem_cons] at hother
      rcases hother with hother | rfl | hother
      · have hnot := hearlier other hother
        rw [hat] at hnot
        cases hnot
      · exact String.lt_irrefl _
      · exact hsorted.2.1.1 other hother
    refine ⟨chosen, hmem, rfl, hline, hname, ?_, ?_⟩
    · intro hfile other hother hsame hnamesake hlt
      rw [← hfile] at hlt
      exact hleast other hother (Place.covers_iff.mpr ⟨hsame, hnamesake⟩) hlt
    · intro hnone
      exact String.le_antisymm (hleast fix hfix hown) (hnone chosen hmem hline hname)

theorem lists_of_runFix (view : fs.View File) {outcome : Outcome} {s' : σ}
    (hat : arguments.at? = none)
    (h : (runFix fs overflow color arguments).runIn s = (.ok outcome, s')) :
    ∃ p disk fixes, Lists fs arguments s p disk fixes ∧
      outcome = { output := fixableList color fixes } ∧ s' = s := by
  unfold runFix at h
  obtain ⟨⟨config, path⟩, hconfig, h⟩ := (loadConfig_quiet view _).runIn_bind_eq_ok h
  obtain ⟨p, hmodel, h⟩ := (loadModel_quiet view _).runIn_bind_eq_ok h
  obtain ⟨analyzer, hanalyzer, h⟩ := (analyzerOf_quiet _).runIn_bind_eq_ok h
  obtain ⟨disk, hdisk, h⟩ := (sourcesOf_quiet view _ _).runIn_bind_eq_ok h
  obtain ⟨result, hresult, h⟩ := Action.Quiet.runIn_bind_eq_ok (.found _) h
  obtain ⟨fixes, hfixes, h⟩ := Action.Quiet.runIn_bind_eq_ok (.found _) h
  rw [hat] at h
  cases h
  rw [Action.runIn_lift, Prod.mk.injEq, Except.ok.injEq] at hdisk
  have hfound := Action.found_of_runIn hresult
  exact ⟨p, disk, fixes, ⟨hmodel, Prod.ext hdisk.1 hdisk.2, config, path, analyzer, result,
    hconfig, (ofConfig_of_analyzerOf hanalyzer).1, hfound, Action.found_of_runIn hfixes⟩, rfl, rfl⟩

theorem Lists.runFix_eq (h : Lists fs arguments s p disk fixes) {text : String} {place : Place}
    {chosen : Diagnostic × CodeAction} (hplace : Place.parse? text = some place)
    (hchosen : fixes.find? (fun fix => place.covers fix.1) = some chosen) (write : Bool) :
    (runFix fs overflow color { arguments with at? := some text, write }).runIn s =
      (applyFix fs overflow color write (modelDirectory arguments.model) disk p chosen.1
        chosen.2).runIn s := by
  obtain ⟨config, path, analyzer, result, hconfig, hanalyzer, hresult, hfixes⟩ := h.found
  exact runFix_eq_applyFix hconfig h.model hanalyzer h.sources hresult hfixes rfl hplace hchosen

theorem Lists.runFix_lists (h : Lists fs arguments s p disk fixes) (hat : arguments.at? = none) :
    (runFix fs overflow color arguments).runIn s =
      (.ok { output := fixableList color fixes }, s) := by
  obtain ⟨config, path, analyzer, result, hconfig, hanalyzer, hresult, hfixes⟩ := h.found
  unfold runFix
  rw [Action.runIn_bind_ok hconfig, Action.runIn_bind_ok h.model]
  simp only [analyzerOf, hanalyzer, pure_bind]
  rw [Action.runIn_bind_ok (Action.runIn_lift_of_run h.sources)]
  simp only [hresult, hfixes, hat, Action.found, pure_bind]
  rfl

/-- What the command finds is determined. -/
theorem Lists.unique (h : Lists fs arguments s p disk fixes) {p' : Program}
    {disk' : String → Option String} {fixes' : List (Diagnostic × CodeAction)}
    (h' : Lists fs arguments s p' disk' fixes') : p = p' ∧ disk = disk' ∧ fixes = fixes' := by
  obtain ⟨config, path, analyzer, result, hconfig, hanalyzer, hresult, hfixes⟩ := h.found
  obtain ⟨_, _, _, _, hconfig', hanalyzer', hresult', hfixes'⟩ := h'.found
  have hmodel := h'.model
  rw [h.model] at hmodel
  cases hmodel
  have hsources := h'.sources
  rw [h.sources] at hsources
  cases hsources
  rw [hconfig] at hconfig'
  cases hconfig'
  rw [hanalyzer] at hanalyzer'
  cases hanalyzer'
  rw [hresult] at hresult'
  cases hresult'
  rw [hfixes] at hfixes'
  cases hfixes'
  exact ⟨rfl, rfl, rfl⟩

/-- A fix is shown if it fits the source text. -/
theorem applyFix_shows {directory : String} {diagnostic : Diagnostic} {action : CodeAction}
    {applied : AppliedFix} {node : SyntaxNode} {source : SourceFile} {old new before after : String}
    (happlied : action.apply overflow p = .ok (some applied))
    (hnode : p.node action.target = .ok node) (hsource : p.file node.file = .ok source)
    (htext : p.sourceText disk node.file = .ok (some old))
    (hmatches : sourceMatches node old = true) (hedit : applied.edit.apply old = some new)
    (hbefore : lineAt old applied.edit.start = .ok before)
    (hafter : lineAt new applied.edit.start = .ok after) :
    (applyFix fs overflow color false directory disk p diagnostic action).runIn s =
      (.ok { output := editLines color diagnostic action before after }, s) := by
  unfold applyFix
  simp only [happlied, hnode, hsource, htext, hedit, hmatches, hbefore, hafter, Action.found,
    pure_bind, Bool.not_true, Bool.false_eq_true, if_false]
  rfl

theorem fixableLines_eq (color : Bool) (fix : Diagnostic × CodeAction) :
    ∃ rest, fixableLines color fix = Place.listed fix.1 ++ rest := by
  refine ⟨"  " ++ Style.bold.paint color fix.1.id.code ++ "  " ++ fix.1.message ++ "\n" ++ "    "
    ++ Style.dimmed.paint color "fix:" ++ " " ++ fix.2.title ++ "\n", ?_⟩
  simp only [fixableLines, Place.listed, String.append_assoc]

/-- If the command lists what it can fix, every listed diagnostic starts a line with its place.
Given such a place back, if its path is not empty and its line not zero, the command fixes a listed
diagnostic on the same line whose path is the listed one or ends in it. That diagnostic is in the
listed file exactly if no such path with a listed diagnostic on this line is sorted before it. -/
theorem listed_place_leads_back_unless_a_namesake_precedes (view : fs.View File)
    {outcome : Outcome} {s' : σ} (hat : arguments.at? = none)
    (hlisted : (runFix fs overflow color arguments).runIn s = (.ok outcome, s')) :
    ∃ p disk fixes, Lists fs arguments s p disk fixes ∧
      outcome = { output := fixableList color fixes } ∧ s' = s ∧
      ∀ fix ∈ fixes, (∃ rest, fixableLines color fix = Place.listed fix.1 ++ rest) ∧
        (fix.1.file ≠ "" → 1 ≤ fix.1.line → ∃ chosen ∈ fixes,
          chosen.1.line = fix.1.line ∧ Place.Namesake chosen.1.file fix.1.file ∧
          (chosen.1.file = fix.1.file ↔ ∀ other ∈ fixes, other.1.line = fix.1.line →
            Place.Namesake other.1.file fix.1.file → ¬ other.1.file < fix.1.file) ∧
          ∀ write, (runFix fs overflow color
              { arguments with at? := some (Place.listed fix.1), write }).runIn s =
            (applyFix fs overflow color write (modelDirectory arguments.model) disk p chosen.1
              chosen.2).runIn s) := by
  obtain ⟨p, disk, fixes, hlists, houtcome, hstate⟩ := lists_of_runFix view hat hlisted
  refine ⟨p, disk, fixes, hlists, houtcome, hstate, ?_⟩
  intro fix hfix
  refine ⟨fixableLines_eq color fix, ?_⟩
  intro hfile hline
  obtain ⟨chosen, hchosen, hfirst, hsame, hname, hiff⟩ := hlists.first_at_place hfix
  have hplace := Place.parse?_listed hfile hline (hlists.sorted.2 fix hfix)
  exact ⟨chosen, hchosen, hsame, hname, hiff, fun write => hlists.runFix_eq hplace hfirst write⟩

/-! ## Two files of one name -/

/-- The text of both files of `namesakeHooks`. -/
def namesakeText : String := "x += () => { };"

/-- Two files of one name, one of them in a directory, that each add an anonymous function to a hook
event. -/
def namesakeHooks : Program :=
  let node (file : FileId) (parent : Option NodeId) (start stop : Nat) (kind : NodeKind) :
      SyntaxNode :=
    { file
      span := { startByte := start, endByte := stop, startLine := 1, startColumn := start + 1 }
      parent
      kind }
  { assembly := "Mod"
    files := #[{ path := "A/Hooks.cs", text := some namesakeText },
      { path := "Hooks.cs", text := some namesakeText }]
    namespaces := #[{ name := "On" }]
    types := #[{ name := "Player", nameSpace := some ⟨0⟩, assembly := "Hooks" }]
    methods := #[{ name := "", kind := .anonymousFunction, declaration := some ⟨2⟩ },
      { name := "", kind := .anonymousFunction, declaration := some ⟨6⟩ }]
    events := #[{ name := "Jump", containingType := ⟨0⟩ }]
    nodes := #[node ⟨0⟩ none 0 14 (.assignment .addAssign ⟨1⟩ ⟨2⟩),
      node ⟨0⟩ (some ⟨0⟩) 0 1 (.identifier "x" (some (.event ⟨0⟩))),
      node ⟨0⟩ (some ⟨0⟩) 5 14 (.anonymousFunction .lambda [] [] ⟨3⟩ (some ⟨0⟩)),
      node ⟨0⟩ (some ⟨2⟩) 11 14 (.block []),
      node ⟨1⟩ none 0 14 (.assignment .addAssign ⟨5⟩ ⟨6⟩),
      node ⟨1⟩ (some ⟨4⟩) 0 1 (.identifier "x" (some (.event ⟨0⟩))),
      node ⟨1⟩ (some ⟨4⟩) 5 14 (.anonymousFunction .lambda [] [] ⟨7⟩ (some ⟨1⟩)),
      node ⟨1⟩ (some ⟨6⟩) 11 14 (.block [])] }

/-- The report on a function of `namesakeHooks`, with its fix. -/
def namesakeFix (file : String) (target : NodeId) : Diagnostic × CodeAction :=
  ({ id := .hooksShouldBeStatic
     severity := .warning
     location := {
       file
       span := { startByte := 5, endByte := 14, startLine := 1, startColumn := 6 } }
     message := "Hook 'lambda' should be static"
     args := ["lambda"] },
    { file, target })

/-- What can be fixed in `namesakeHooks`, in order. -/
def namesakeFixes : List (Diagnostic × CodeAction) :=
  [namesakeFix "A/Hooks.cs" ⟨2⟩, namesakeFix "Hooks.cs" ⟨6⟩]

theorem ofJson_namesakeHooks : Program.ofJson namesakeHooks.dump = .ok namesakeHooks := by
  rw [Program.ofJson, Program.dump, Json.ofJson?_pretty]
  decide +kernel

/-- No source texts are read, since the program has them. -/
def namesakeSource (path : String) : Option String :=
  ([] : List (String × String)).lookup path

theorem run_namesakeHooks : Program.plainAnalyzer.run namesakeSource namesakeHooks =
    .ok { diagnostics := namesakeFixes.map Prod.fst, suppressed := [], excluded := 0
          models := 1 } := by
  have hcollect : Program.plainAnalyzer.collect namesakeHooks =
      .ok (namesakeFixes.map Prod.fst) := rfl
  have hanalyze : Program.plainAnalyzer.analyze namesakeHooks =
      .ok (namesakeFixes.map Prod.fst) := by
    refine lookup_bind_eq_ok.mpr ⟨_, hcollect, ?_⟩
    rw [Diagnostic.canonical_of_pairwise (by decide +kernel)]
    rfl
  rw [Analyzer.run_eq hanalyze]
  decide +kernel

theorem lists_namesakeHooks : Lists FileTree.system { model := "Mod.model.json" }
    (addedTree namesakeHooks.dump) namesakeHooks namesakeSource namesakeFixes := by
  have hdirectory : modelDirectory "Mod.model.json" = "." := by decide +kernel
  have hanalyzer : Analyzer.ofConfig {} = .ok Program.plainAnalyzer :=
    Analyzer.ofConfig_eq_ok_iff.mpr ⟨_, rfl, rfl⟩
  refine ⟨loadModel_addedTree ofJson_namesakeHooks, ?_, {}, none, Program.plainAnalyzer, _,
    loadConfig_addedTree, hanalyzer, run_namesakeHooks, by decide +kernel⟩
  rw [hdirectory]
  rfl

/-- The place listed for the second file of `namesakeHooks` leads to the first one. -/
theorem namesakeHooks_listed_place_leads_elsewhere :
    let tree := addedTree namesakeHooks.dump
    (runFix FileTree.system .wraps false { model := "Mod.model.json" }).runIn tree =
        (.ok { output := fixableList false namesakeFixes }, tree) ∧
      namesakeFix "Hooks.cs" ⟨6⟩ ∈ namesakeFixes ∧
      Place.listed (namesakeFix "Hooks.cs" ⟨6⟩).1 = "Hooks.cs:1" ∧
      (runFix FileTree.system .wraps false
          { model := "Mod.model.json", at? := some "Hooks.cs:1" }).runIn tree =
        (.ok { output := "CL0004 A/Hooks.cs:1:6  Make hook static\n"
          ++ "  - x += () => { };\n  + x += static () => { };\n" }, tree) := by
  intro tree
  refine ⟨lists_namesakeHooks.runFix_lists rfl, by decide +kernel, by decide +kernel, ?_⟩
  have hplace : Place.parse? "Hooks.cs:1" = some ⟨"Hooks.cs", 1⟩ := by decide +kernel
  have hfirst : namesakeFixes.find? (fun fix => Place.covers ⟨"Hooks.cs", 1⟩ fix.1) =
      some (namesakeFix "A/Hooks.cs" ⟨2⟩) := by decide +kernel
  obtain ⟨applied, happly, hinsert⟩ : ∃ applied,
      (namesakeFix "A/Hooks.cs" ⟨2⟩).2.apply .wraps namesakeHooks = .ok (some applied) ∧
      applied.edit = .insert 5 "static " := ⟨_, rfl, rfl⟩
  have hedit : applied.edit.apply namesakeText = some "x += static () => { };" := by
    rw [hinsert]
    decide +kernel
  have hrun : (runFix FileTree.system .wraps false
      { model := "Mod.model.json", at? := some "Hooks.cs:1" }).runIn tree = _ :=
    lists_namesakeHooks.runFix_eq hplace hfirst false
  have hbefore : lineAt namesakeText applied.edit.start = .ok namesakeText := by
    rw [hinsert]
    decide +kernel
  have hafter : lineAt "x += static () => { };" applied.edit.start =
      .ok "x += static () => { };" := by
    rw [hinsert]
    decide +kernel
  rw [hrun, applyFix_shows happly rfl rfl rfl (by decide +kernel) hedit hbefore hafter]
  have hshown : editLines false (namesakeFix "A/Hooks.cs" ⟨2⟩).1 (namesakeFix "A/Hooks.cs" ⟨2⟩).2
      namesakeText "x += static () => { };" =
      "CL0004 A/Hooks.cs:1:6  Make hook static\n"
        ++ "  - x += () => { };\n  + x += static () => { };\n" := by
    decide +kernel
  rw [hshown]

/-- Both places listed for `namesakeHooks` lead to the file in the directory, which is sorted
first. -/
theorem namesakeHooks_places_lead_to_first_file :
    let tree := addedTree namesakeHooks.dump
    (runFix FileTree.system .wraps false { model := "Mod.model.json" }).runIn tree =
        (.ok { output := fixableList false namesakeFixes }, tree) ∧
      (∃ chosen ∈ namesakeFixes, chosen.1.file = "A/Hooks.cs" ∧ ∀ write,
        (runFix FileTree.system .wraps false
            { model := "Mod.model.json", at? := some "A/Hooks.cs:1", write }).runIn tree =
          (applyFix FileTree.system .wraps false write (modelDirectory "Mod.model.json")
            namesakeSource namesakeHooks chosen.1 chosen.2).runIn tree) ∧
      ∃ chosen ∈ namesakeFixes, chosen.1.file ≠ "Hooks.cs" ∧ ∀ write,
        (runFix FileTree.system .wraps false
            { model := "Mod.model.json", at? := some "Hooks.cs:1", write }).runIn tree =
          (applyFix FileTree.system .wraps false write (modelDirectory "Mod.model.json")
            namesakeSource namesakeHooks chosen.1 chosen.2).runIn tree := by
  intro tree
  have hlisted : (runFix FileTree.system .wraps false { model := "Mod.model.json" }).runIn tree =
      (.ok { output := fixableList false namesakeFixes }, tree) :=
    lists_namesakeHooks.runFix_lists rfl
  obtain ⟨p, disk, fixes, hlists, -, -, hback⟩ :=
    listed_place_leads_back_unless_a_namesake_precedes FileTree.view rfl hlisted
  obtain ⟨rfl, rfl, rfl⟩ := lists_namesakeHooks.unique hlists
  refine ⟨hlisted, ?_, ?_⟩
  · obtain ⟨-, hfirst⟩ := hback (namesakeFix "A/Hooks.cs" ⟨2⟩) (by decide +kernel)
    obtain ⟨chosen, hchosen, -, -, hiff, hrun⟩ := hfirst (by decide +kernel) (by decide +kernel)
    refine ⟨chosen, hchosen, hiff.mpr ?_, hrun⟩
    have hleast : ∀ other ∈ namesakeFixes, ¬ other.1.file < "A/Hooks.cs" := by decide +kernel
    intro other hother _ _
    exact hleast other hother
  · obtain ⟨-, hsecond⟩ := hback (namesakeFix "Hooks.cs" ⟨6⟩) (by decide +kernel)
    obtain ⟨chosen, hchosen, -, -, hiff, hrun⟩ := hsecond (by decide +kernel) (by decide +kernel)
    refine ⟨chosen, hchosen, fun hfile => ?_, hrun⟩
    have hnamesake : Place.Namesake "A/Hooks.cs" "Hooks.cs" := Or.inr ⟨['A'], by decide +kernel⟩
    exact hiff.mp hfile (namesakeFix "A/Hooks.cs" ⟨2⟩) (by decide +kernel) rfl hnamesake
      (by decide +kernel)

end Command

end ModLint
