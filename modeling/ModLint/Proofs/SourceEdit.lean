import Mathlib.Data.String.Basic
import ModLint.Command.Run
import ModLint.Proofs.Independence
import ModLint.Proofs.JsonText
import ModLint.Proofs.Lookup
import ModLint.Proofs.Running
import ModLint.Proofs.Settling
import ModLint.Proofs.StaticFix

/-!
# What a fix does to source files

The command that fixes a diagnostic edits one source file or none. All that it does before it writes
is quiet, so every way in which it ends is known: early, with a list, with an edit that is only
shown, or with one that is made. An edit that is shown or made has been found to fit the text, which
also makes the lines of the preview exist.
-/

namespace ModLint

open String (utf8Len)

namespace Text

/-! ## Cutting texts at bytes -/

/-- A text can be cut after a number of bytes exactly if some characters at its start take so
many. -/
theorem splitAtByte?_eq_some_iff {n : Nat} {cs before after : List Char} :
    splitAtByte? n cs = some (before, after) ↔ cs = before ++ after ∧ utf8Len before = n := by
  fun_induction splitAtByte? n cs generalizing before with
  | case1 cs =>
    rw [Option.some.injEq, Prod.mk.injEq, String.utf8Len_eq_zero]
    constructor
    · rintro ⟨rfl, rfl⟩
      exact ⟨rfl, rfl⟩
    · rintro ⟨rfl, rfl⟩
      exact ⟨rfl, rfl⟩
  | case2 n =>
    constructor
    · intro h
      cases h
    · rintro ⟨hcs, hlength⟩
      obtain ⟨rfl, -⟩ := List.nil_eq_append_iff.mp hcs
      cases hlength
  | case3 n c cs hlt =>
    constructor
    · intro h
      cases h
    · rintro ⟨hcs, hlength⟩
      cases before with
      | nil => cases hlength
      | cons d before =>
        obtain ⟨rfl, -⟩ := List.cons.inj hcs
        rw [String.utf8Len_cons] at hlength
        omega
  | case4 n c cs hge ih =>
    rw [Option.map_eq_some_iff]
    constructor
    · rintro ⟨⟨before', after'⟩, hsplit, heq⟩
      cases heq
      obtain ⟨rfl, hlength⟩ := ih.mp hsplit
      refine ⟨rfl, ?_⟩
      rw [String.utf8Len_cons]
      omega
    · rintro ⟨hcs, hlength⟩
      cases before with
      | nil => cases hlength
      | cons d before =>
        obtain ⟨rfl, rfl⟩ := List.cons.inj hcs
        rw [String.utf8Len_cons] at hlength
        exact ⟨(before, after), ih.mpr ⟨rfl, by omega⟩, rfl⟩

theorem slice?_eq_some_iff {start stop : Nat} {cs middle : List Char} :
    slice? start stop cs = some middle ↔ ∃ before after, cs = before ++ (middle ++ after) ∧
      utf8Len before = start ∧ utf8Len before + utf8Len middle = stop := by
  unfold slice?
  split
  · rename_i hlt
    constructor
    · intro h
      cases h
    · rintro ⟨before, after, -, hstart, hstop⟩
      omega
  · rename_i hge
    simp only [Option.bind_eq_bind, Option.bind_eq_some_iff, Prod.exists]
    constructor
    · rintro ⟨before, rest, hbefore, middle', after, hmiddle, hreturn⟩
      cases hreturn
      obtain ⟨rfl, hstart⟩ := splitAtByte?_eq_some_iff.mp hbefore
      obtain ⟨rfl, hlength⟩ := splitAtByte?_eq_some_iff.mp hmiddle
      exact ⟨before, after, rfl, hstart, by omega⟩
    · rintro ⟨before, after, rfl, hstart, hstop⟩
      exact ⟨before, middle ++ after, splitAtByte?_eq_some_iff.mpr ⟨rfl, hstart⟩, middle, after,
        splitAtByte?_eq_some_iff.mpr ⟨rfl, by omega⟩, rfl⟩

end Text

/-- An insertion can be made exactly at the end of some characters of the text. -/
theorem TextEdit.apply_insert_eq_some_iff {position : Nat} {replacement text fixed : String} :
    (TextEdit.insert position replacement).apply text = some fixed ↔
      ∃ head tail, text.toList = head ++ tail ∧ utf8Len head = position ∧
        fixed.toList = head ++ replacement.toList ++ tail := by
  unfold TextEdit.insert TextEdit.apply
  simp only [Nat.lt_irrefl, if_false, Nat.sub_self, Option.bind_eq_bind, Option.bind_eq_some_iff,
    Prod.exists, Text.splitAtByte?_eq_some_iff, String.utf8Len_eq_zero]
  constructor
  · rintro ⟨head, tail, ⟨htext, hposition⟩, _, after, ⟨rfl, rfl⟩, hreturn⟩
    cases hreturn
    exact ⟨head, after, htext, hposition, String.toList_ofList⟩
  · rintro ⟨head, tail, htext, hposition, hfixed⟩
    refine ⟨head, tail, ⟨htext, hposition⟩, [], tail, ⟨rfl, rfl⟩, ?_⟩
    rw [← hfixed, String.ofList_toList]
    rfl

/-! ## Lines of a preview -/

namespace Command

/-- The line that holds a position, cut out of a text by slices that need not exist: up to the
position, from it on, and from behind the last line break before it to the next one. -/
def slicedLine? (text : String) (position : Nat) : Option String := do
  let cs := text.toList
  let before ← Text.slice? 0 position cs
  let after ← Text.slice? position (utf8Len cs) cs
  let start := utf8Len (before.reverse.dropWhile (· != '\n')).reverse
  let stop := position + utf8Len (after.takeWhile (· != '\n'))
  let line ← Text.slice? start stop cs
  return String.ofList (line.reverse.dropWhile (· == '\r')).reverse

/-- At a position between two characters all three slices exist, and they give the line. -/
theorem slicedLine?_eq {text : String} {head tail : List Char} (h : text.toList = head ++ tail) :
    ∃ line, lineAt text (utf8Len head) = .ok line ∧
      slicedLine? text (utf8Len head) = some line := by
  have hbefore : Text.slice? 0 (utf8Len head) text.toList = some head :=
    Text.slice?_eq_some_iff.mpr ⟨[], tail, by simpa using h, rfl, by simp⟩
  have hafter : Text.slice? (utf8Len head) (utf8Len text.toList) text.toList = some tail :=
    Text.slice?_eq_some_iff.mpr ⟨head, [], by simpa using h, rfl, by simp [h]⟩
  have hsplit : Text.splitAtByte? (utf8Len head) text.toList = some (head, tail) :=
    Text.splitAtByte?_eq_some_iff.mpr ⟨h, rfl⟩
  have hhead : (head.reverse.dropWhile (· != '\n')).reverse ++ lastLine head = head := by
    rw [lastLine, ← List.reverse_append, List.takeWhile_append_dropWhile, List.reverse_reverse]
  have hline : Text.slice? (utf8Len (head.reverse.dropWhile (· != '\n')).reverse)
      (utf8Len head + utf8Len (tail.takeWhile (· != '\n'))) text.toList =
        some (lastLine head ++ tail.takeWhile (· != '\n')) := by
    refine Text.slice?_eq_some_iff.mpr ⟨_, tail.dropWhile (· != '\n'), ?_, rfl, ?_⟩
    · rw [List.append_assoc, List.takeWhile_append_dropWhile, ← List.append_assoc, hhead, h]
    · rw [String.utf8Len_append, ← Nat.add_assoc, ← String.utf8Len_append, hhead]
  refine ⟨_, by rw [lineAt, hsplit]; rfl, ?_⟩
  unfold slicedLine?
  simp only [hbefore, hafter, hline, Option.bind_eq_bind, Option.bind_some]
  rfl

/-! ## What the edit does -/

/-- An edit that makes the function at a node static, from one text to another: the text before it
has the modifiers of the node where the program has them, the text after it has the keyword and a
blank more, and both have a line to show at the position. -/
structure StaticEdit (node : SyntaxNode) (position : Nat) (old new : String) : Prop where
  modifiers : ∀ modifier ∈ node.kind.modifiers?.getD [],
    Text.slice? modifier.span.startByte modifier.span.endByte old.toList =
      some modifier.text.toList
  inserted : ∃ head tail, old.toList = head ++ tail ∧ utf8Len head = position ∧
    (new.toList = head ++ "static ".toList ++ tail ∨ new.toList = head ++ " static".toList ++ tail)
  lineBefore : ∃ line, lineAt old position = .ok line ∧ slicedLine? old position = some line
  lineAfter : ∃ line, lineAt new position = .ok line ∧ slicedLine? new position = some line

/-- What is known once a fix of a program has been found to fit the source text. -/
theorem staticEdit_of_apply {overflow : Overflow} {p : Program} {action : CodeAction}
    {applied : AppliedFix} {node : SyntaxNode} {old new : String}
    (happly : action.apply overflow p = .ok (some applied))
    (hnode : p.node action.target = .ok node) (hmatches : sourceMatches node old = true)
    (hedit : applied.edit.apply old = some new) : StaticEdit node applied.edit.start old new := by
  obtain ⟨node', fixed, hnode', hfixed, -⟩ := MakeStatic.apply_eq_some happly
  obtain rfl : node = node' := Except.ok.inj (hnode.symm.trans hnode')
  have hinsert : ∃ replacement, (replacement = "static " ∨ replacement = " static") ∧
      applied.edit = .insert applied.edit.start replacement :=
    (MakeStatic.fixes_of_fixedNode hfixed).2.inserts.elim (fun h => ⟨_, Or.inl rfl, h⟩)
      fun h => ⟨_, Or.inr rfl, h⟩
  obtain ⟨replacement, hreplacement, hinsert⟩ := hinsert
  rw [hinsert] at hedit
  obtain ⟨head, tail, hold, hposition, hnew⟩ := TextEdit.apply_insert_eq_some_iff.mp hedit
  have hafter : new.toList = head ++ (replacement.toList ++ tail) := by
    rw [hnew, List.append_assoc]
  constructor
  · intro modifier hmodifier
    exact eq_of_beq (List.all_eq_true.mp hmatches modifier hmodifier)
  · refine ⟨head, tail, hold, hposition, ?_⟩
    rcases hreplacement with rfl | rfl
    · exact Or.inl hnew
    · exact Or.inr hnew
  · rw [← hposition]
    exact slicedLine?_eq hold
  · rw [← hposition]
    exact slicedLine?_eq hafter

theorem StaticEdit.ne {node : SyntaxNode} {position : Nat} {old new : String}
    (h : StaticEdit node position old new) : bytesOf new ≠ bytesOf old := by
  intro hbytes
  have heq : new = old := by
    have htext := congrArg textOf? hbytes
    rw [textOf?_bytesOf, textOf?_bytesOf] at htext
    exact Option.some.inj htext
  obtain ⟨head, tail, hold, -, hnew⟩ := h.inserted
  have hlength : new.toList.length = old.toList.length + 7 := by
    rw [hold]
    rcases hnew with hnew | hnew <;> rw [hnew] <;> simp <;> omega
  rw [heq] at hlength
  omega

/-! ## How the command ends -/

variable {σ : Type}

variable {fs : FileSystem (StateM σ)} {File : Type}

/-- A fix of the source file of a function: the program, the diagnostic, the function and its file,
the edit, and the text of the file before and after it. -/
structure SourceFix where
  program : Program
  diagnostic : Diagnostic
  action : CodeAction
  node : SyntaxNode
  source : SourceFile
  edit : TextEdit
  old : String
  new : String

/-- The path of the file that a fix is for. -/
def SourceFix.path (fix : SourceFix) (arguments : FixArguments) : String :=
  Path.join (modelDirectory arguments.model) fix.source.path

/-- A fix is the one that a command asks for: the program is the one in the dump, the diagnostic
stands at the place, and the edit fits the source. -/
structure SourceFix.Answers (fix : SourceFix) (fs : FileSystem (StateM σ)) (overflow : Overflow)
    (arguments : FixArguments) (s : σ) : Prop where
  loaded : ∃ text format, ((fs.read arguments.model).run s).1 = .ok text ∧
    dumpFormat? arguments.model = some format ∧ Program.ofText format text = .ok fix.program
  place : ∃ text place, arguments.at? = some text ∧ Place.parse? text = some place ∧
    place.covers fix.diagnostic = true
  offered : CodeAction.offer fix.program fix.diagnostic = .ok (some fix.action)
  applied : ∃ program, fix.action.apply overflow fix.program = .ok (some ⟨program, fix.edit⟩)
  target : fix.program.node fix.action.target = .ok fix.node
  file : fix.program.file fix.node.file = .ok fix.source
  edits : StaticEdit fix.node fix.edit.start fix.old fix.new

/-- An output starts with the lines that show a fix: the line of the source that it changes, cut out
of the text before and of the text after the edit. -/
def SourceFix.ShownIn (fix : SourceFix) (color : Bool) (output : String) : Prop :=
  ∃ before after rest, slicedLine? fix.old fix.edit.start = some before ∧
    slicedLine? fix.new fix.edit.start = some after ∧
    output = editLines color fix.diagnostic fix.action before after ++ rest

/-- The files change as a fix says: the one at its path holds the text after the edit in place of
the text before it, and all others stay. -/
structure SourceFix.Written (fix : SourceFix) (view : fs.View File) (arguments : FixArguments)
    (s s' : σ) : Prop where
  changed : ∃ file, view.fileAt s (fix.path arguments) = some file ∧
    view.content s file = some (bytesOf fix.old) ∧ view.content s' file = some (bytesOf fix.new) ∧
    ∀ other, other ≠ file → view.content s' other = view.content s other

/-- How the command can end: early, with a list, with an edit that is only shown, or with one that
is made. -/
inductive FixEnd (view : fs.View File) (overflow : Overflow) (color : Bool)
    (arguments : FixArguments) (s : σ) : Except Halt Outcome × σ → Prop where
  | halted {halt : Halt} (hcode : halt.code ≠ some 0) :
    FixEnd view overflow color arguments s (.error halt, s)
  | listed {outcome : Outcome} (hat : arguments.at? = none) :
    FixEnd view overflow color arguments s (.ok outcome, s)
  | shown {outcome : Outcome} {fix : SourceFix} (hfix : fix.Answers fs overflow arguments s)
    (hshown : fix.ShownIn color outcome.output) (hwrite : arguments.write = false) :
    FixEnd view overflow color arguments s (.ok outcome, s)
  | written {outcome : Outcome} {fix : SourceFix} {s' : σ}
    (hfix : fix.Answers fs overflow arguments s) (hshown : fix.ShownIn color outcome.output)
    (hwrite : arguments.write = true) (hat : arguments.at?.isSome = true)
    (hwritten : fix.Written view arguments s s') (hresult : outcome.result = .ok 0) :
    FixEnd view overflow color arguments s (.ok outcome, s')

section Ends

variable {view : fs.View File} {overflow : Overflow} {color : Bool} {arguments : FixArguments}
  {s : σ}

theorem FixEnd.of_quiet {α : Type} {x : Action (StateM σ) α} {f : α → Action (StateM σ) Outcome}
    (hx : x.Quiet)
    (hf : ∀ a, x.runIn s = (.ok a, s) →
      FixEnd view overflow color arguments s ((f a).runIn s)) :
    FixEnd view overflow color arguments s ((x >>= f).runIn s) :=
  hx.runIn_bind (P := FixEnd view overflow color arguments s) (fun _ hcode => .halted hcode) hf

theorem FixEnd.refuse (notice : Notice) :
    FixEnd view overflow color arguments s (Action.runIn (.refuse notice) s) :=
  .halted (by simp)

theorem writeSource_ends {fix : SourceFix} (hfix : fix.Answers fs overflow arguments s)
    (hwrite : arguments.write = true) {shown : String}
    (hshown : ∀ rest, fix.ShownIn color (shown ++ rest)) :
    FixEnd view overflow color arguments s
      ((writeSource fs (fix.path arguments) fix.old fix.new shown).runIn s) := by
  unfold writeSource
  refine .of_quiet (.lift (view.read_state _)) fun result hresult => ?_
  rw [Action.runIn_lift, Prod.mk.injEq, Except.ok.injEq] at hresult
  cases result with
  | error error => exact .halted (by simp)
  | ok current =>
    dsimp only
    split
    · refine .of_quiet (.throw (by simp)) fun _ hthrown => ?_
      cases hthrown
    · rename_i hcurrent
      rw [Decidable.not_not.mp hcurrent] at hresult
      obtain ⟨file, hfile, hold⟩ := view.read_content _ _ _ hresult.1
      rcases view.write_cases (fix.path arguments) fix.new s with
        ⟨error, hfailed⟩ | ⟨file', s', hfile', hdone, hnew, hothers⟩
      · rw [Action.runIn_bind_ok (Action.runIn_lift _ _), hfailed]
        exact .halted (by simp)
      · obtain rfl : file = file' := Option.some.inj (hfile.symm.trans hfile')
        obtain ⟨text, -, htext, -⟩ := hfix.place
        rw [Action.runIn_bind_ok (Action.runIn_lift _ _), hdone]
        refine .written hfix ?_ hwrite (by rw [htext]; rfl) ⟨file, hfile, hold, hnew, hothers⟩ rfl
        show fix.ShownIn color (shown ++ "\nWrote " ++ fix.path arguments ++ "\n")
        rw [String.append_assoc, String.append_assoc]
        exact hshown _

theorem applyFix_ends (disk : String → Option String) {p : Program}
    {diagnostic : Diagnostic} {action : CodeAction}
    (hloaded : ∃ text format, ((fs.read arguments.model).run s).1 = .ok text ∧
      dumpFormat? arguments.model = some format ∧ Program.ofText format text = .ok p)
    (hplace : ∃ text place, arguments.at? = some text ∧ Place.parse? text = some place ∧
      place.covers diagnostic = true)
    (hoffered : CodeAction.offer p diagnostic = .ok (some action)) :
    FixEnd view overflow color arguments s ((applyFix fs overflow color arguments.write
      (modelDirectory arguments.model) disk p diagnostic action).runIn s) := by
  unfold applyFix
  refine .of_quiet (.found _) fun applied? happlied => ?_
  cases applied? with
  | none => exact .refuse _
  | some applied =>
    refine .of_quiet (.found _) fun node hnode => .of_quiet (.found _) fun source hsource =>
      .of_quiet (.found _) fun text? htext => ?_
    cases text? with
    | none => exact .refuse _
    | some old =>
      dsimp only
      split
      · refine .of_quiet (.refuse _) fun _ hrefused => ?_
        cases hrefused
      · rename_i hmatches
        cases hedit : applied.edit.apply old with
        | none => exact .refuse _
        | some new =>
          have hfix : SourceFix.Answers
              ⟨p, diagnostic, action, node, source, applied.edit, old, new⟩ fs overflow arguments
              s :=
            { loaded := hloaded
              place := hplace
              offered := hoffered
              applied := ⟨applied.program, Action.found_of_runIn happlied⟩
              target := Action.found_of_runIn hnode
              file := Action.found_of_runIn hsource
              edits := staticEdit_of_apply (Action.found_of_runIn happlied)
                (Action.found_of_runIn hnode) (by simpa using hmatches) hedit }
          refine .of_quiet (.found _) fun before hbefore => ?_
          refine .of_quiet (.found _) fun after hafter => ?_
          have hshown : ∀ rest, SourceFix.ShownIn
              ⟨p, diagnostic, action, node, source, applied.edit, old, new⟩ color
              (editLines color diagnostic action before after ++ rest) := by
            intro rest
            obtain ⟨line, hline, hsliced⟩ := hfix.edits.lineBefore
            obtain ⟨line', hline', hsliced'⟩ := hfix.edits.lineAfter
            obtain rfl := lookup_unique hline (Action.found_of_runIn hbefore)
            obtain rfl := lookup_unique hline' (Action.found_of_runIn hafter)
            exact ⟨line, line', rest, hsliced, hsliced', rfl⟩
          split
          · rename_i hwrite
            exact writeSource_ends hfix hwrite hshown
          · rename_i hwrite
            refine .shown hfix ?_ (by simpa using hwrite)
            have hlines := hshown ""
            rwa [String.append_empty] at hlines

/-- A diagnostic that can be fixed comes with the fix that is offered for it. -/
theorem offered_of_mem_fixable {p : Program} {diagnostics : List Diagnostic}
    {fixes : List (Diagnostic × CodeAction)} (h : fixable p diagnostics = .ok fixes)
    {diagnostic : Diagnostic} {action : CodeAction} (hmem : (diagnostic, action) ∈ fixes) :
    CodeAction.offer p diagnostic = .ok (some action) := by
  unfold fixable at h
  induction diagnostics generalizing fixes with
  | nil =>
    cases h
    cases hmem
  | cons first diagnostics ih =>
    rw [List.filterMapM_cons] at h
    obtain ⟨fix?, hfirst, h⟩ := lookup_bind_eq_ok.mp h
    obtain ⟨offered?, hoffered, hfix⟩ := lookup_bind_eq_ok.mp hfirst
    cases hfix
    cases offered? with
    | none => exact ih h hmem
    | some offered =>
      obtain ⟨rest, hrest, hfixes⟩ := lookup_bind_eq_ok.mp h
      cases hfixes
      rcases List.mem_cons.mp hmem with heq | hmem
      · cases heq
        exact hoffered
      · exact ih hrest hmem

theorem runFix_ends :
    FixEnd view overflow color arguments s ((runFix fs overflow color arguments).runIn s) := by
  unfold runFix
  refine .of_quiet (loadConfig_quiet view _) fun config _ =>
    .of_quiet (loadModel_quiet view _) fun p hloaded =>
    .of_quiet (analyzerOf_quiet _) fun analyzer _ =>
    .of_quiet (sourcesOf_quiet view _ _) fun disk _ =>
    .of_quiet (.found _) fun result _ => .of_quiet (.found _) fun fixes hfixes => ?_
  cases hat : arguments.at? with
  | none => exact .listed hat
  | some text =>
    dsimp only
    cases hplace : Place.parse? text with
    | none => exact .refuse _
    | some place =>
      dsimp only
      split
      · exact .refuse _
      · rename_i diagnostic action hfind
        have hmem := List.mem_of_find?_eq_some hfind
        have hcovers := List.find?_some hfind
        exact applyFix_ends disk (ofText_of_loadModel hloaded)
          ⟨text, place, hat, hplace, hcovers⟩
          (offered_of_mem_fixable (Action.found_of_runIn hfixes) hmem)

end Ends

section Succeeds

variable {s s' : σ} {overflow : Overflow} {color : Bool} {disk : String → Option String}
  {p : Program}

/-- A fix is made if it fits the source text and this is the text of the file. -/
theorem applyFix_writes {directory : String} {diagnostic : Diagnostic} {action : CodeAction}
    {applied : AppliedFix} {node : SyntaxNode} {source : SourceFile} {old new : String}
    (happlied : action.apply overflow p = .ok (some applied))
    (hnode : p.node action.target = .ok node) (hsource : p.file node.file = .ok source)
    (htext : p.sourceText disk node.file = .ok (some old))
    (hmatches : sourceMatches node old = true) (hedit : applied.edit.apply old = some new)
    (hread : (fs.read (Path.join directory source.path)).run s = (.ok old, s))
    (hwrite : (fs.write (Path.join directory source.path) new).run s = (.ok (), s')) :
    ∃ output, (applyFix fs overflow color true directory disk p diagnostic action).runIn s =
      (.ok { output }, s') := by
  have hstatic := staticEdit_of_apply happlied hnode hmatches hedit
  obtain ⟨before, hbefore, -⟩ := hstatic.lineBefore
  obtain ⟨after, hafter, -⟩ := hstatic.lineAfter
  unfold applyFix
  simp only [happlied, hnode, hsource, htext, hedit, hmatches, hbefore, hafter, Action.found,
    pure_bind, Bool.not_true, Bool.false_eq_true, if_false, if_true, writeSource]
  rw [Action.runIn_bind_ok (Action.runIn_lift_of_run hread)]
  simp only [ne_eq, not_true_eq_false, if_false]
  rw [Action.runIn_bind_ok (Action.runIn_lift_of_run hwrite)]
  exact ⟨_, rfl⟩

/-- The command applies the first fix at the place. -/
theorem runFix_eq_applyFix {arguments : FixArguments} {config : Config} {found : Option String}
    {analyzer : Analyzer} {result : AnalysisResult} {fixes : List (Diagnostic × CodeAction)}
    {text : String} {place : Place} {first : Diagnostic × CodeAction}
    (hconfig : (loadConfig fs arguments.config).runIn s = (.ok (config, found), s))
    (hmodel : (loadModel fs arguments.model).runIn s = (.ok p, s))
    (hanalyzer : Analyzer.ofConfig config = .ok analyzer)
    (hdisk : (sourcesOf fs (modelDirectory arguments.model) p).run s = (disk, s))
    (hresult : analyzer.run disk p = .ok result)
    (hfixes : fixable p result.diagnostics = .ok fixes) (hat : arguments.at? = some text)
    (hplace : Place.parse? text = some place)
    (hfirst : fixes.find? (fun fix => place.covers fix.1) = some first) :
    (runFix fs overflow color arguments).runIn s =
      (applyFix fs overflow color arguments.write (modelDirectory arguments.model) disk p first.1
        first.2).runIn s := by
  unfold runFix
  rw [Action.runIn_bind_ok hconfig, Action.runIn_bind_ok hmodel]
  simp only [analyzerOf, hanalyzer, pure_bind]
  rw [Action.runIn_bind_ok (Action.runIn_lift_of_run hdisk)]
  simp only [hresult, hfixes, hat, hplace, hfirst, Action.found, pure_bind]

end Succeeds

/-! ## Command lines -/

theorem at?_isSome_of_named? {word : String} {spec : CommandSpec}
    {make : ArgumentScan → Except UsageStop Command} (h : named? word = some (spec, make))
    {scan : ArgumentScan} {arguments : FixArguments} (hmake : make scan = .ok (.fix arguments))
    (hwrite : arguments.write = true) : arguments.at?.isSome = true := by
  unfold named? at h
  split at h
  case h_3 =>
    cases h
    obtain ⟨model, -, hmake⟩ := except_bind_eq_ok.mp hmake
    split at hmake
    · obtain ⟨_, hat, hmake⟩ := except_bind_eq_ok.mp hmake
      cases hmake
      obtain ⟨value, hvalue, -⟩ := except_bind_eq_ok.mp hat
      unfold ArgumentScan.required at hvalue
      split at hvalue
      · rename_i hsome
        exact Option.isSome_of_eq_some hsome
      · cases hvalue
    · rename_i hno
      cases hmake
      exact absurd hwrite hno
  case h_6 => cases h
  case h_1 | h_2 =>
    cases h
    obtain ⟨path, -, hmake⟩ := except_bind_eq_ok.mp hmake
    cases hmake
  case h_4 | h_5 =>
    cases h
    cases hmake

/-- The command is told to write only together with a place. -/
theorem at?_isSome_of_ofWords {words : List String} {invocation : Invocation}
    {arguments : FixArguments} (h : ofWords words = .ok invocation)
    (hcommand : invocation.command = .fix arguments) (hwrite : arguments.write = true) :
    arguments.at?.isSome = true := by
  unfold ofWords at h
  generalize ({} : ArgumentScan) = scan at h
  fun_induction readWords scan words with
  | case4 scan word rest _ _ spec make hnamed =>
    obtain ⟨inner, -, h⟩ := except_bind_eq_ok.mp h
    obtain ⟨command, hmake, h⟩ := except_bind_eq_ok.mp h
    cases h
    subst hcommand
    exact at?_isSome_of_named? hnamed hmake hwrite
  | case5 scan word rest _ _ _ _ ih => exact ih h
  | case6 scan word rest _ _ _ _ _ _ ih | case7 scan word rest _ _ _ _ _ _ _ _ ih =>
    obtain ⟨scan', -, h⟩ := except_bind_eq_ok.mp h
    exact ih scan' h
  | _ => cases h

/-! ## The command as a whole -/

/-- A fix is made as a whole or not at all, in whatever build. No file changes unless the command is
told to write and succeeds. If it succeeds at a place, with or without writing, it shows the line of
the source that the fix changes, cut out of the text before and after the edit. If it is told to
write as well, the source file of the function, at its path below the directory of the dump, and no
other file changes: its text, in which the modifiers of the function stand where the dump has them,
gets the keyword and one blank more. Command lines that tell it to write always name a place. -/
theorem fix_is_all_or_nothing (view : fs.View File) (overflow : Overflow) (color : Bool)
    (arguments : FixArguments) (s : σ) :
    let ended := (Command.run fs overflow color (.fix arguments)).run s
    (ended.2 = s ∨
      arguments.write = true ∧ arguments.at?.isSome = true ∧ ended.1.result = .ok 0) ∧
    (arguments.at?.isSome = true → ended.1.result = .ok 0 →
      ∃ fix : SourceFix, fix.Answers fs overflow arguments s ∧
        fix.ShownIn color ended.1.output ∧
        (arguments.write = true → fix.Written view arguments s ended.2 ∧
          bytesOf fix.new ≠ bytesOf fix.old)) ∧
    ∀ words invocation, ofWords words = .ok invocation → invocation.command = .fix arguments →
      arguments.write = true → arguments.at?.isSome = true := by
  intro ended
  refine ⟨?_, ?_, fun words invocation => at?_isSome_of_ofWords⟩
  all_goals
    have hended : FixEnd view overflow color arguments s _ := runFix_ends
    generalize hrun : (runFix fs overflow color arguments).runIn s = result at hended
  · cases hended with
    | halted => exact Or.inl (congrArg Prod.snd (Action.run_outcome_error hrun))
    | listed | shown => exact Or.inl (congrArg Prod.snd (Action.run_outcome_ok hrun))
    | written _ _ hwrite hat _ hresult =>
      refine Or.inr ⟨hwrite, hat, ?_⟩
      rw [← hresult]
      exact congrArg (·.1.result) (Action.run_outcome_ok hrun)
  · intro hat hsuccess
    cases hended with
    | halted hcode =>
      have hresult : ended.1.result = _ := congrArg (·.1.result) (Action.run_outcome_error hrun)
      exact absurd (hresult.symm.trans hsuccess) (Halt.result_ne_ok_zero hcode)
    | listed hnone => simp [hnone] at hat
    | shown hfix hshown hno =>
      have houtcome : ended.1 = _ := congrArg Prod.fst (Action.run_outcome_ok hrun)
      rw [houtcome]
      exact ⟨_, hfix, hshown, fun hwrite => by simp [hno] at hwrite⟩
    | written hfix hshown _ _ hwritten =>
      have houtcome : ended.1 = _ := congrArg Prod.fst (Action.run_outcome_ok hrun)
      have hstate : ended.2 = _ := congrArg Prod.snd (Action.run_outcome_ok hrun)
      rw [houtcome, hstate]
      exact ⟨_, hfix, hshown, fun _ => ⟨hwritten, hfix.edits.ne⟩⟩

/-- A file that adds an anonymous function to a hook event. -/
def addedHook : Program :=
  let node (parent : Option NodeId) (start stop : Nat) (kind : NodeKind) : SyntaxNode :=
    { file := ⟨0⟩
      span := { startByte := start, endByte := stop, startLine := 1, startColumn := start + 1 }
      parent
      kind }
  { assembly := "Mod"
    files := #[{ path := "Mod.cs" }]
    namespaces := #[{ name := "On" }]
    types := #[{ name := "Player", nameSpace := some ⟨0⟩, assembly := "Hooks" }]
    methods := #[{ name := "", kind := .anonymousFunction, declaration := some ⟨2⟩ }]
    events := #[{ name := "Jump", containingType := ⟨0⟩ }]
    nodes := #[node none 0 29 (.assignment .addAssign ⟨1⟩ ⟨2⟩),
      node (some ⟨0⟩) 0 14 (.memberAccess ⟨4⟩ "Jump" (some (.event ⟨0⟩))),
      node (some ⟨0⟩) 18 29 (.anonymousFunction .lambda [] [] ⟨3⟩ (some ⟨0⟩)),
      node (some ⟨2⟩) 24 29 (.identifier "Shout" none),
      node (some ⟨1⟩) 0 9 (.identifier "Player" none)] }

/-- The text of the file that `addedHook` is about. -/
def addedText : String := "On.Player.Jump += () => Shout;"

/-- The text with the fix. -/
def addedFixed : String := "On.Player.Jump += static () => Shout;"

/-- A dump next to the file that `addedHook` is about. -/
def addedTree (dump : String) : FileTree :=
  { entries :=
      [(["Mod.model.json"], .file (bytesOf dump)), (["Mod.cs"], .file (bytesOf addedText))] }

/-- The arguments that fix the function. -/
def addedArguments : FixArguments :=
  { model := "Mod.model.json", at? := some "Mod.cs:1", write := true }

/-- The report on the function. -/
def addedReport : Diagnostic :=
  { id := .hooksShouldBeStatic
    severity := .warning
    location := {
      file := "Mod.cs"
      span := { startByte := 18, endByte := 29, startLine := 1, startColumn := 19 } }
    message := "Hook 'lambda' should be static"
    args := ["lambda"] }

/-- The fix of the function. -/
def addedAction : CodeAction := { file := "Mod.cs", target := ⟨2⟩ }

/-- The source texts that are found. -/
def addedSource (path : String) : Option String :=
  [("Mod.cs", addedText)].lookup path

theorem ofJson_addedHook : Program.ofJson addedHook.dump = .ok addedHook := by
  rw [Program.ofJson, Program.dump, Json.ofJson?_pretty]
  decide +kernel

theorem run_addedHook : Program.plainAnalyzer.run addedSource addedHook =
    .ok { diagnostics := [addedReport], suppressed := [], excluded := 0, models := 1 } := by
  have hcollect : Program.plainAnalyzer.collect addedHook = .ok [addedReport] := rfl
  have hanalyze : Program.plainAnalyzer.analyze addedHook = .ok [addedReport] := by
    refine lookup_bind_eq_ok.mpr ⟨_, hcollect, ?_⟩
    rw [Diagnostic.canonical_of_pairwise (by decide +kernel)]
    rfl
  rw [Analyzer.run_eq hanalyze]
  decide +kernel

section AddedTree

variable {dump : String}

theorem resolve_addedTree_source :
    (addedTree dump).resolve (Path.join "." "Mod.cs") = .ok ["Mod.cs"] :=
  FileTree.resolve_of_pieces (by decide +kernel) (by decide +kernel) (by decide)

theorem loadConfig_addedTree :
    (loadConfig FileTree.system none).runIn (addedTree dump) =
      (.ok ({}, none), addedTree dump) := by
  refine loadConfig_default fun name hname => ?_
  have hother : name ≠ "Mod.model.json" ∧ name ≠ "Mod.cs" := by
    revert name
    decide +kernel
  have hnames : (addedTree dump).resolve (Path.join "." name) = .ok [name] := by
    clear hother
    refine FileTree.resolve_of_pieces ?_ ?_ ?_ <;> revert name <;> decide +kernel
  refine FileTree.run_kind_of_find?_eq_none hnames ?_
  simp [FileTree.find?, addedTree, List.lookup_cons, beq_false_of_ne hother.1,
    beq_false_of_ne hother.2]

theorem loadModel_addedTree {p : Program} (hdump : Program.ofJson dump = .ok p) :
    (loadModel FileTree.system "Mod.model.json").runIn (addedTree dump) =
      (.ok p, addedTree dump) := by
  have hnames : (addedTree dump).resolve "Mod.model.json" = .ok ["Mod.model.json"] :=
    FileTree.resolve_of_pieces (by decide +kernel) (by decide +kernel) (by decide)
  have hformat : dumpFormat? "Mod.model.json" = some .json := by decide +kernel
  unfold loadModel
  rw [Action.runIn_bind_ok (Action.runIn_lift_of_run (FileTree.run_read_of_find? hnames rfl))]
  simp only [hformat, Program.ofText, hdump]
  rfl

theorem sourcesOf_addedTree :
    (sourcesOf FileTree.system "." addedHook).run (addedTree dump) =
      (addedSource, addedTree dump) := by
  have hread : (readSources FileTree.system "." [{ path := "Mod.cs" }]).run (addedTree dump) =
      ([("Mod.cs", addedText)], addedTree dump) := by
    simp only [readSources, Option.isSome_none, Bool.false_eq_true, if_false, pure_bind,
      StateT.run_bind, FileTree.run_read_of_find? resolve_addedTree_source rfl]
    rfl
  unfold sourcesOf
  rw [StateT.run_bind]
  exact congrArg (fun read => (fun path => List.lookup path read.1, read.2)) hread

theorem runFix_addedTree (hdump : Program.ofJson dump = .ok addedHook) : ∃ output,
    (runFix FileTree.system .wraps false addedArguments).runIn (addedTree dump) =
      (.ok { output }, (addedTree dump).put ["Mod.cs"] (.file (bytesOf addedFixed))) := by
  have hanalyzer : Analyzer.ofConfig {} = .ok Program.plainAnalyzer :=
    Analyzer.ofConfig_eq_ok_iff.mpr ⟨_, rfl, rfl⟩
  have hfixes : fixable addedHook [addedReport] = .ok [(addedReport, addedAction)] := by
    decide +kernel
  have hplace : Place.parse? "Mod.cs:1" = some ⟨"Mod.cs", 1⟩ := by decide +kernel
  have hfirst : [(addedReport, addedAction)].find? (fun fix => Place.covers ⟨"Mod.cs", 1⟩ fix.1) =
      some (addedReport, addedAction) := by decide +kernel
  have hdirectory : modelDirectory addedArguments.model = "." := by decide +kernel
  have hdisk : (sourcesOf FileTree.system (modelDirectory addedArguments.model) addedHook).run
      (addedTree dump) = (addedSource, addedTree dump) := by
    rw [hdirectory]
    exact sourcesOf_addedTree
  obtain ⟨applied, happly, hinsert⟩ : ∃ applied,
      addedAction.apply .wraps addedHook = .ok (some applied) ∧
        applied.edit = .insert 18 "static " := ⟨_, rfl, rfl⟩
  have hedit : applied.edit.apply addedText = some addedFixed := by
    rw [hinsert]
    decide +kernel
  rw [runFix_eq_applyFix loadConfig_addedTree (loadModel_addedTree hdump) hanalyzer hdisk
    run_addedHook hfixes rfl hplace hfirst, hdirectory]
  exact applyFix_writes happly rfl rfl rfl (by decide +kernel) hedit
    (FileTree.run_read_of_find? resolve_addedTree_source rfl)
    (FileTree.run_attempt_ok
      (FileTree.write_of_find? resolve_addedTree_source (by decide +kernel) rfl _))

end AddedTree

theorem addedTree_is_fixed_as_a_whole :
    let tree := addedTree addedHook.dump
    let ended := (Command.run FileTree.system .wraps false (.fix addedArguments)).run tree
    ended.1.result = .ok 0 ∧ ended.2 = tree.put ["Mod.cs"] (.file (bytesOf addedFixed)) ∧
      ∃ fix : SourceFix, fix.Answers FileTree.system .wraps addedArguments tree ∧
        fix.ShownIn false ended.1.output ∧
        fix.Written FileTree.view addedArguments tree ended.2 := by
  obtain ⟨output, hrun⟩ := runFix_addedTree ofJson_addedHook
  have hended := Action.run_outcome_ok hrun
  obtain ⟨-, hfixed, -⟩ :=
    fix_is_all_or_nothing FileTree.view .wraps false addedArguments (addedTree addedHook.dump)
  have hresult := congrArg (fun ended => ended.1.result) hended
  obtain ⟨fix, hfix, hshown, hwritten⟩ := hfixed rfl hresult
  exact ⟨hresult, congrArg Prod.snd hended, fix, hfix, hshown, (hwritten rfl).1⟩

end Command

end ModLint
