import ModLint.Proofs.Overrides
import ModLint.Suppression.Basic

/-!
# Suppressions line by line

The suppressions of a text are those of its lines, in order, and each line makes at most one. A
rule in a directive has no blanks, so it denotes a condition only if it is the code or the name of
the condition letter by letter. Whether a suppression sets a diagnostic aside can therefore be read
off the line it stands on, and the first one that does so is the one on the first such line.
-/

namespace ModLint

/-! ## Rules without blanks -/

namespace Text

/-- No character is blank. -/
def NoBlanks (cs : List Char) : Prop :=
  ∀ c ∈ cs, isBlank c = false

theorem NoBlanks.trimEnd_eq {cs : List Char} (h : NoBlanks cs) : trimEnd cs = cs := by
  induction cs with
  | nil => rfl
  | cons c cs ih =>
    have hc : isBlank c = false := h c List.mem_cons_self
    rw [trimEnd, ih fun d hd => h d (List.mem_cons_of_mem c hd)]
    cases cs with
    | nil => simp [hc]
    | cons d ds => rfl

theorem NoBlanks.trim_eq {cs : List Char} (h : NoBlanks cs) : trim cs = cs := by
  have hstart : trimStart cs = cs := by
    cases cs with
    | nil => rfl
    | cons c cs => exact List.dropWhile_cons_of_neg (by simp [h c List.mem_cons_self])
  rw [trim, hstart, h.trimEnd_eq]

end Text

theorem DiagnosticId.parse?_name (id : DiagnosticId) : parse? id.name = some id := by
  cases id <;> decide +kernel

theorem DiagnosticId.parse?_eq_some_iff {rule : String} (h : Text.NoBlanks rule.toList)
    {id : DiagnosticId} : parse? rule = some id ↔ rule = id.code ∨ rule = id.name := by
  have htrimmed : Text.trimmed rule = rule := by
    rw [Text.trimmed, h.trim_eq, String.ofList_toList]
  constructor
  · intro hparse
    rw [parse?, htrimmed] at hparse
    have hkey := List.find?_some hparse
    simp only [Bool.or_eq_true, beq_iff_eq] at hkey
    exact hkey.imp Eq.symm Eq.symm
  · rintro (rfl | rfl)
    · exact parse?_code id
    · exact parse?_name id

namespace Directive

open Text (NoBlanks)

theorem noBlanks_of_blockRule? {text rule reason : List Char}
    (h : blockRule? text = some (rule, reason)) : NoBlanks rule := by
  induction text generalizing rule reason with
  | nil => cases h
  | cons c text ih =>
    rw [blockRule?] at h
    split at h
    · cases h
    · rename_i hblank
      have hc : Text.isBlank c = false := by simpa using hblank
      split at h
      · cases h
        simpa [NoBlanks] using hc
      · obtain ⟨⟨rule', reason'⟩, hrest, heq⟩ := Option.map_eq_some_iff.mp h
        cases heq
        intro d hd
        rcases List.mem_cons.mp hd with rfl | hd
        · exact hc
        · exact ih hrest d hd

theorem noBlanks_of_blockComment? {text : List Char} {directive : Directive}
    (h : blockComment? text = some directive) : NoBlanks directive.rule := by
  obtain ⟨⟨word, rest⟩, -, h⟩ := Option.bind_eq_some_iff.mp h
  obtain ⟨⟨rule, reason⟩, hrule, h⟩ := Option.bind_eq_some_iff.mp h
  cases h
  exact noBlanks_of_blockRule? hrule

theorem noBlanks_of_lineComment? {text : List Char} {directive : Directive}
    (h : lineComment? text = some directive) : NoBlanks directive.rule := by
  obtain ⟨⟨word, rest⟩, -, h⟩ := Option.bind_eq_some_iff.mp h
  dsimp only at h
  split at h
  · cases h
  · cases h
    intro c hc
    have hall := List.all_eq_true.mp List.all_takeWhile c hc
    simpa using hall

/-- Where in a line a directive is found does not matter for its rule. -/
theorem noBlanks_of_first? {read : List Char → Option Directive}
    (hread : ∀ text directive, read text = some directive → NoBlanks directive.rule)
    {line : List Char} {directive : Directive} (h : first? read line = some directive) :
    NoBlanks directive.rule := by
  induction line generalizing directive with
  | nil => cases h
  | cons c line ih =>
    rw [first?] at h
    split at h
    · rename_i found hfound
      cases h
      exact hread _ _ hfound
    · obtain ⟨found, hfound, rfl⟩ := Option.map_eq_some_iff.mp h
      exact @ih found hfound

theorem noBlanks_of_mem_ofLine {line : List Char} {directive : Directive}
    (h : directive ∈ ofLine line) : NoBlanks directive.rule := by
  obtain ⟨found?, hfound, rfl⟩ := List.mem_filterMap.mp h
  simp only [List.mem_cons, List.not_mem_nil, or_false] at hfound
  rcases hfound with hline | hblock
  · exact noBlanks_of_first? (fun _ _ => noBlanks_of_lineComment?) hline.symm
  · exact noBlanks_of_first? (fun _ _ => noBlanks_of_blockComment?) hblock.symm

end Directive

namespace Suppression

/-! ## What a line asks for -/

/-- What is known of a suppression that a line made. -/
structure MadeAt (file : String) (number : Nat) (s : Suppression) : Prop where
  file_eq : s.file = file
  line_eq : s.suppressionType ≠ .file → s.line = number
  noBlanks : Text.NoBlanks s.rule.toList

theorem madeAt_of_ofDirective? {file : String} {inHeader : Bool} {number : Nat}
    {directive : Directive} {s : Suppression} (hrule : Text.NoBlanks directive.rule)
    (h : ofDirective? file inHeader number directive = some s) : MadeAt file number s := by
  have hnoBlanks : Text.NoBlanks (String.ofList directive.rule).toList := by
    rwa [String.toList_ofList]
  unfold ofDirective? at h
  split at h
  · split at h
    · cases h
      exact ⟨rfl, fun hne => absurd rfl hne, hnoBlanks⟩
    · cases h
  · cases h
    exact ⟨rfl, fun _ => rfl, hnoBlanks⟩
  · split at h <;> cases h <;> exact ⟨rfl, fun _ => rfl, hnoBlanks⟩

theorem madeAt_of_ofLine? {file : String} {inHeader : Bool} {number : Nat} {line : List Char}
    {s : Suppression} (h : ofLine? file inHeader number line = some s) :
    MadeAt file number s := by
  obtain ⟨directive, hmem, hmade⟩ := List.exists_of_findSome?_eq_some h
  exact madeAt_of_ofDirective? (Directive.noBlanks_of_mem_ofLine hmem) hmade

theorem MadeAt.covers_iff {file : String} {number : Nat} {s : Suppression}
    (h : MadeAt file number s) (d : Diagnostic) :
    s.covers d = true ↔ d.file = file ∧
      (s.rule = "*" ∨ s.rule = d.id.code ∨ s.rule = d.id.name) ∧
      (s.suppressionType = .file ∨ s.suppressionType = .line ∧ d.line = number ∨
        s.suppressionType = .nextLine ∧ d.line = number + 1) := by
  have hfor : s.isFor d.id = true ↔
      s.rule = "*" ∨ s.rule = d.id.code ∨ s.rule = d.id.name := by
    rw [← DiagnosticId.parse?_eq_some_iff h.noBlanks]
    simp [isFor]
  have hline : s.coversLine d.line = true ↔ s.suppressionType = .file ∨
      s.suppressionType = .line ∧ d.line = number ∨
        s.suppressionType = .nextLine ∧ d.line = number + 1 := by
    have hnumber := h.line_eq
    unfold coversLine
    cases htype : s.suppressionType with
    | file => simp
    | line => simp [hnumber (by simp [htype])]
    | nextLine => simp [hnumber (by simp [htype])]
  rw [covers, Bool.and_eq_true, Bool.and_eq_true, beq_iff_eq, hfor, hline, h.file_eq, and_assoc]

/-! ## Lines of a text -/

/-- The suppression that the line with index `i` makes. The line belongs to the header if the lines
up to it do. -/
def atLine? (file content : String) (i : Nat) : Option Suppression :=
  let lines := Text.lines content.toList
  let inHeader := (lines.take (i + 1)).all fun line => isHeaderLine (Text.trim line)
  lines[i]?.bind (ofLine? file inHeader (i + 1))

theorem ofLines_eq (file : String) (header : Bool) (number : Nat) (lines : List (List Char)) :
    ofLines file header number lines = (List.range lines.length).filterMap fun i =>
      lines[i]?.bind (ofLine? file (header &&
        (lines.take (i + 1)).all fun line => isHeaderLine (Text.trim line)) (number + i)) := by
  induction lines generalizing header number with
  | nil => rfl
  | cons line rest ih =>
    rw [ofLines, ih, List.length_cons, List.range_succ_eq_map, List.filterMap_cons,
      List.filterMap_map]
    have htail : ∀ i, number + 1 + i = number + (i + 1) := by omega
    cases hhead : ofLine? file (header && isHeaderLine (Text.trim line)) number line <;>
      simp [hhead, Function.comp_def, htail, Bool.and_assoc]

theorem parse_eq (file content : String) : parse file content =
    (List.range (Text.lines content.toList).length).filterMap (atLine? file content) := by
  rw [parse, ofLines_eq]
  congr 1
  funext i
  rw [Bool.true_and, Nat.add_comm 1 i]
  rfl

theorem lt_of_atLine? {file content : String} {i : Nat} {s : Suppression}
    (h : atLine? file content i = some s) : i < (Text.lines content.toList).length := by
  obtain ⟨line, hline, -⟩ := Option.bind_eq_some_iff.mp h
  exact (List.getElem?_eq_some_iff.mp hline).1

theorem madeAt_of_atLine? {file content : String} {i : Nat} {s : Suppression}
    (h : atLine? file content i = some s) : MadeAt file (i + 1) s := by
  obtain ⟨line, -, hmade⟩ := Option.bind_eq_some_iff.mp h
  exact madeAt_of_ofLine? hmade

theorem mem_parse_iff {file content : String} {s : Suppression} :
    s ∈ parse file content ↔ ∃ i, atLine? file content i = some s := by
  rw [parse_eq, List.mem_filterMap]
  constructor
  · rintro ⟨i, -, hmade⟩
    exact ⟨i, hmade⟩
  · rintro ⟨i, hmade⟩
    exact ⟨i, List.mem_range.mpr (lt_of_atLine? hmade), hmade⟩

theorem file_of_mem_parse {file content : String} {s : Suppression} (h : s ∈ parse file content) :
    s.file = file := by
  obtain ⟨i, hmade⟩ := mem_parse_iff.mp h
  exact (madeAt_of_atLine? hmade).file_eq

/-! ## First suppressions -/

/-- The line with index `i` of a text, which has number `i + 1`, asks to set a diagnostic aside. It
names the condition by its code or name, or all conditions, and it speaks of the whole file, of the
line of the diagnostic or of the one behind itself. -/
structure SetsAside (text : String) (i : Nat) (s : Suppression) (d : Diagnostic) : Prop where
  stands : atLine? d.file text i = some s
  names : s.rule = "*" ∨ s.rule = d.id.code ∨ s.rule = d.id.name
  reaches : s.suppressionType = .file ∨ s.suppressionType = .line ∧ d.line = i + 1 ∨
    s.suppressionType = .nextLine ∧ d.line = i + 2

theorem setsAside_iff {text : String} {i : Nat} {s : Suppression} {d : Diagnostic} :
    SetsAside text i s d ↔ atLine? d.file text i = some s ∧ s.covers d = true := by
  constructor
  · rintro ⟨hstands, hnames, hreaches⟩
    exact ⟨hstands, ((madeAt_of_atLine? hstands).covers_iff d).mpr ⟨rfl, hnames, hreaches⟩⟩
  · rintro ⟨hstands, hcovers⟩
    obtain ⟨-, hnames, hreaches⟩ := ((madeAt_of_atLine? hstands).covers_iff d).mp hcovers
    exact ⟨hstands, hnames, hreaches⟩

/-- The first suppression that covers a diagnostic stands on the first line that sets it aside. -/
theorem find?_parse_eq_some_iff {text : String} {d : Diagnostic} {s : Suppression} :
    (parse d.file text).find? (fun s => s.covers d) = some s ↔
      ∃ i, SetsAside text i s d ∧ ∀ j, j < i → ∀ s', ¬ SetsAside text j s' d := by
  have hcovered : ∀ i, (atLine? d.file text i).any (fun s => s.covers d) = true ↔
      ∃ s, SetsAside text i s d := by
    intro i
    simp only [Option.any_eq_true, setsAside_iff]
  rw [parse_eq, List.find?_filterMap, Option.bind_eq_some_iff]
  constructor
  · rintro ⟨i, hfirst, hstands⟩
    obtain ⟨hany, -, hbefore⟩ := List.find?_range_eq_some.mp hfirst
    obtain ⟨s', hs'⟩ := (hcovered i).mp hany
    obtain rfl : s' = s := Option.some.inj (hs'.stands.symm.trans hstands)
    refine ⟨i, hs', fun j hj s' hearlier => ?_⟩
    have hnot := hbefore j hj
    rw [(hcovered j).mpr ⟨s', hearlier⟩] at hnot
    cases hnot
  · rintro ⟨i, hs, hbefore⟩
    refine ⟨i, List.find?_range_eq_some.mpr ⟨(hcovered i).mpr ⟨s, hs⟩, ?_, fun j hj => ?_⟩,
      hs.stands⟩
    · exact List.mem_range.mpr (lt_of_atLine? hs.stands)
    · rw [Bool.not_eq_true', ← Bool.not_eq_true, hcovered]
      rintro ⟨s', hearlier⟩
      exact hbefore j hj s' hearlier

end Suppression

end ModLint
