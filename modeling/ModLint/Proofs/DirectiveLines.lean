import Mathlib.Data.List.Basic
import ModLint.Proofs.Lines
import ModLint.Proofs.Patterns

/-!
# Lines of directives

A suppression carries the number of the line that asks for it, counted by the line feeds above. What
a line asks for depends on the line and, for a directive for the whole file, on the header, which
only the lines above it and the line itself decide. So lines that are added below change nothing.
-/

namespace ModLint

namespace Suppression

open Text (isBlank trim)

/-! ## One line -/

theorem ofDirective?_trimReason (file : String) (inHeader : Bool) (number : Nat)
    (directive : Directive) : ofDirective? file inHeader number directive.trimReason =
      ofDirective? file inHeader number directive := by
  unfold ofDirective? Directive.trimReason
  dsimp only
  rw [Text.trim_trim]

/-- The directive in a line comment comes first. -/
theorem ofLine?_eq (file : String) (inHeader : Bool) (number : Nat) (line : List Char) :
    ofLine? file inHeader number line =
      ((Directive.first? Directive.lineComment? line).bind (ofDirective? file inHeader number)).or
        ((Directive.first? Directive.blockComment? line).bind
          (ofDirective? file inHeader number)) := by
  have hpair : ∀ line? block? : Option Directive,
      ([line?, block?].filterMap id).findSome? (ofDirective? file inHeader number) =
        (line?.bind (ofDirective? file inHeader number)).or
          (block?.bind (ofDirective? file inHeader number)) := by
    intro line? block?
    cases line? with
    | none => cases block? <;> simp
    | some directive =>
      cases block? with
      | none => simp
      | some other =>
        cases hasked : ofDirective? file inHeader number directive <;> simp [hasked]
  exact hpair _ _

/-- A blank at the end of a line does not matter to what the line asks for. -/
theorem ofLine?_append_blank {c : Char} (hc : isBlank c = true) (file : String) (inHeader : Bool)
    (number : Nat) (line : List Char) :
    ofLine? file inHeader number (line ++ [c]) = ofLine? file inHeader number line := by
  have hasked : ∀ read : List Char → Option Directive, read [] = none →
      (∀ text, (read (text ++ [c])).map Directive.trimReason =
        (read text).map Directive.trimReason) →
      (Directive.first? read (line ++ [c])).bind (ofDirective? file inHeader number) =
        (Directive.first? read line).bind (ofDirective? file inHeader number) := by
    intro read hnil hread
    have halike := Directive.first?_append_blank hnil hread line
    have hsame := congrArg (Option.bind · (ofDirective? file inHeader number)) halike
    simpa only [Option.bind_map, Function.comp_def, ofDirective?_trimReason] using hsame
  rw [ofLine?_eq, ofLine?_eq, hasked _ rfl (Directive.lineComment?_append_blank hc),
    hasked _ rfl fun text => by rw [Directive.blockComment?_append_blank hc]]

theorem ofLine?_dropCarriageReturn (file : String) (inHeader : Bool) (number : Nat)
    (line : List Char) : ofLine? file inHeader number (Text.dropCarriageReturn line) =
      ofLine? file inHeader number line := by
  rcases Text.dropCarriageReturn_cases line with hreturn | ⟨hsame, -⟩
  · conv => rhs; rw [hreturn]
    exact (ofLine?_append_blank (by decide) file inHeader number _).symm
  · rw [hsame]

theorem trim_dropCarriageReturn (line : List Char) :
    trim (Text.dropCarriageReturn line) = trim line := by
  rcases Text.dropCarriageReturn_cases line with hreturn | ⟨hsame, -⟩
  · conv => rhs; rw [hreturn]
    exact (Text.trim_append_blank (by decide) _).symm
  · rw [hsame]

/-! ## The header -/

/-- A line that a header can have: without blanks around it, it is empty or starts like a comment or
an instruction to the preprocessor. -/
def HeaderLine (line : List Char) : Prop :=
  trim line = [] ∨ ∃ sign ∈ ["//", "/*", "*", "#"], sign.toList <+: trim line

theorem isHeaderLine_iff {line : List Char} :
    isHeaderLine (trim line) = true ↔ HeaderLine line := by
  simp [isHeaderLine, HeaderLine, or_assoc]

/-- A directive for the whole file counts on the line with index `i`. -/
def FileAllowed (content : String) (i : Nat) : Prop :=
  i + 1 ≤ 10 ∨ ∀ line ∈ (Text.lines content.toList).take (i + 1), HeaderLine line

/-- Whether the header reaches beyond the line with index `i`. -/
def headerReaches (content : String) (i : Nat) : Bool :=
  ((Text.lines content.toList).take (i + 1)).all fun line => isHeaderLine (trim line)

theorem fileAllowed_iff {content : String} {i : Nat} :
    (headerReaches content i || decide (i + 1 ≤ headerLines)) = true ↔ FileAllowed content i := by
  rw [headerReaches, Bool.or_eq_true, List.all_eq_true, decide_eq_true_eq, FileAllowed, or_comm]
  simp only [isHeaderLine_iff]
  rfl

theorem atLine?_eq {content : String} {i : Nat} {line : List Char}
    (h : (Text.lines content.toList)[i]? = some line) (file : String) :
    atLine? file content i = ofLine? file (headerReaches content i) (i + 1) line := by
  rw [atLine?, h]
  rfl

/-! ## What a line makes -/

theorem ofDirective?_eq_some {file : String} {inHeader : Bool} {number : Nat}
    {directive : Directive} {s : Suppression}
    (h : ofDirective? file inHeader number directive = some s) :
    s.rule.toList = directive.rule ∧ s.reason.toList = trim directive.reason ∧
      s.line = if s.suppressionType = .file then 0 else number := by
  unfold ofDirective? at h
  split at h
  · split at h
    · cases h
      simp
    · cases h
  · cases h
    simp
  · split at h <;> cases h <;> simp

theorem ofLine?_eq_some {file : String} {inHeader : Bool} {number : Nat} {line : List Char}
    {s : Suppression} (hline : '\n' ∉ line) (h : ofLine? file inHeader number line = some s) :
    s.line = (if s.suppressionType = .file then 0 else number) ∧
      ∃ place ∈ Regex.found line, s.rule.toList = (place.2.group? 2).getD [] ∧
        s.reason.toList = trim ((place.2.group? 3).getD []) := by
  obtain ⟨directive, hmem, hmade⟩ := List.exists_of_findSome?_eq_some h
  rw [Regex.ofLine_eq hline] at hmem
  obtain ⟨place, hplace, rfl⟩ := List.mem_map.mp hmem
  obtain ⟨hrule, hreason, hnumber⟩ := ofDirective?_eq_some hmade
  exact ⟨hnumber, place, hplace, hrule, hreason⟩

theorem ofLine?_eq_none {line : List Char} (hline : '\n' ∉ line) (h : Regex.found line = [])
    (file : String) (inHeader : Bool) (number : Nat) :
    ofLine? file inHeader number line = none := by
  rw [ofLine?, Regex.ofLine_eq hline, h]
  rfl

/-- A line with nothing but a directive for the whole file. -/
theorem ofLine?_ignoreFile {line : List Char} {place : List Char × Regex.Match}
    (hline : '\n' ∉ line) (hfound : Regex.found line = [place])
    (hword : place.2.group? 1 = some "ignore-file".toList) (file : String) (inHeader : Bool)
    (number : Nat) :
    ofLine? file inHeader number line = if inHeader || number ≤ headerLines then
      some {
        rule := String.ofList ((place.2.group? 2).getD [])
        reason := String.ofList (trim ((place.2.group? 3).getD []))
        file, line := 0, suppressionType := .file }
    else none := by
  have hfile : Regex.directiveOf place.1 place.2.groups =
      { before := place.1, word := .ignoreFile, rule := (place.2.group? 2).getD []
        reason := (place.2.group? 3).getD [] } := by
    rw [Regex.Match.group?] at hword
    rw [Regex.directiveOf, hword]
    rfl
  rw [ofLine?, Regex.ofLine_eq hline, hfound, List.map_singleton, List.findSome?_singleton, hfile]
  rfl

/-! ## Adding lines -/

/-- Lines that are added below do not matter to a line. -/
theorem atLine?_append (file : String) {content more : String}
    (h : Text.StartsLine content.toList ∨ Text.EndsLine more.toList) {i : Nat}
    (hi : i < (Text.lines content.toList).length) :
    i < (Text.lines (content ++ more).toList).length ∧
      atLine? file (content ++ more) i = atLine? file content i := by
  rw [atLine?, atLine?, String.toList_append]
  rcases Text.lines_append_cases h with hnil | ⟨front, last, last', tail, hold, hnew, hlast⟩
  · rw [hnil] at hi
    cases hi
  -- only the last line of the old text can differ, by a carriage return at its end
  · have htrim : trim last' = trim last := by
      rcases hlast with rfl | rfl
      · rfl
      · exact trim_dropCarriageReturn last
    have hasked : ∀ inHeader number, ofLine? file inHeader number last' =
        ofLine? file inHeader number last := by
      rcases hlast with rfl | rfl
      · exact fun _ _ => rfl
      · exact fun inHeader number => ofLine?_dropCarriageReturn file inHeader number last
    rw [hold, List.length_append, List.length_singleton] at hi
    rw [hold, hnew]
    refine ⟨by simp; omega, ?_⟩
    by_cases hfront : i < front.length
    · rw [List.getElem?_append_left hfront, List.getElem?_append_left hfront,
        List.take_append_of_le_length hfront, List.take_append_of_le_length hfront]
    · obtain rfl : i = front.length := by omega
      have hcut : ∀ last tail,
          (front ++ last :: tail).take (front.length + 1) = front ++ [last] := by
        intro last tail
        simp [List.take_append, List.take_of_length_le]
      simp only [List.getElem?_append_right (Nat.le_refl _), Nat.sub_self, List.getElem?_cons_zero,
        Option.bind_some, hcut, List.all_append, List.all_cons, htrim, hasked]

/-- Lines that are added below only add suppressions. -/
theorem parse_prefix_append (file : String) {content more : String}
    (h : Text.StartsLine content.toList ∨ Text.EndsLine more.toList) :
    parse file content <+: parse file (content ++ more) := by
  have hlength : (Text.lines content.toList).length ≤
      (Text.lines (content ++ more).toList).length := by
    refine Nat.le_of_not_lt fun hlt => ?_
    exact Nat.lt_irrefl _ (atLine?_append file h hlt).1
  obtain ⟨added, hadded⟩ := Nat.exists_eq_add_of_le hlength
  have hsame : (List.range (Text.lines content.toList).length).filterMap
      (atLine? file (content ++ more)) = parse file content := by
    rw [parse_eq]
    exact List.filterMap_congr fun i hi => (atLine?_append file h (List.mem_range.mp hi)).2
  rw [parse_eq file (content ++ more), hadded, List.range_add, List.filterMap_append, hsame]
  exact List.prefix_append _ _

/-! ## Lines and their suppressions -/

/-- The lines of a text are counted by the line feeds above them. Each makes at most one
suppression, in their order, from what a pattern finds on it, and the suppression carries its
number, or zero if it is for the whole file. A line on which nothing is found makes none. One with
nothing but a directive for the whole file makes its suppression exactly among the first ten lines
or in the header. Lines that are added below change nothing. -/
theorem suppressions_keep_to_their_lines (file content : String) :
    (∀ i line, (Text.lines content.toList)[i]? = some line ↔
      ∃ above below, Text.LineAt content.toList above line below ∧ above.count '\n' = i) ∧
    parse file content = (List.range (Text.lines content.toList).length).filterMap
      (atLine? file content) ∧
    (∀ i s, atLine? file content i = some s →
      s.line = (if s.suppressionType = .file then 0 else i + 1) ∧
      ∃ line, (Text.lines content.toList)[i]? = some line ∧ ∃ place ∈ Regex.found line,
        s.rule.toList = (place.2.group? 2).getD [] ∧
          s.reason.toList = trim ((place.2.group? 3).getD [])) ∧
    (∀ i line, (Text.lines content.toList)[i]? = some line →
      (Regex.found line = [] → atLine? file content i = none) ∧
      ∀ place, Regex.found line = [place] → place.2.group? 1 = some "ignore-file".toList →
        (FileAllowed content i → atLine? file content i = some {
          rule := String.ofList ((place.2.group? 2).getD [])
          reason := String.ofList (trim ((place.2.group? 3).getD []))
          file, line := 0, suppressionType := .file }) ∧
        (¬ FileAllowed content i → atLine? file content i = none)) ∧
    ∀ more : String, Text.StartsLine content.toList ∨ Text.EndsLine more.toList →
      parse file content <+: parse file (content ++ more) ∧
      ∀ i, i < (Text.lines content.toList).length →
        atLine? file (content ++ more) i = atLine? file content i := by
  refine ⟨fun _ _ => Text.getElem?_lines_iff, parse_eq file content, ?_, ?_, ?_⟩
  · intro i s hs
    obtain ⟨line, hline, hmade⟩ := Option.bind_eq_some_iff.mp hs
    obtain ⟨hnumber, hplace⟩ := ofLine?_eq_some (Text.not_mem_of_getElem?_lines hline) hmade
    exact ⟨hnumber, line, hline, hplace⟩
  · intro i line hline
    have hfeed := Text.not_mem_of_getElem?_lines hline
    rw [atLine?_eq hline]
    refine ⟨fun hnone => ofLine?_eq_none hfeed hnone _ _ _, fun place hplace hword => ?_⟩
    rw [ofLine?_ignoreFile hfeed hplace hword]
    exact ⟨fun hallowed => if_pos (fileAllowed_iff.mpr hallowed),
      fun hnot => if_neg fun h => hnot (fileAllowed_iff.mp h)⟩
  · exact fun more h => ⟨parse_prefix_append file h, fun i hi => (atLine?_append file h hi).2⟩

end Suppression

end ModLint
