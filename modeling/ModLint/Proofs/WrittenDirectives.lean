import ModLint.Proofs.DirectiveLines

/-!
# Written directives

A directive that is written in one of the two forms is read back: nothing in front of its comment
can be taken for a comment, the rule ends at the blank behind it, and the reason at the end of the
line or of the comment. What is written in a block comment cannot be taken for a line comment. The
converse does not hold: a line comment may have a block comment with a directive in its reason. This
one is read too, but it only counts where the first one does not.
-/

namespace ModLint

namespace Text

/-! ## Pairs of characters -/

/-- A pair of characters in two texts stands in one of them unless it is cut apart. -/
theorem pair_append {x y : Char} {left right : List Char}
    (hcut : left.getLast? ≠ some x ∨ right.head? ≠ some y) (h : [x, y] <:+: left ++ right) :
    [x, y] <:+: left ∨ [x, y] <:+: right := by
  induction left with
  | nil => exact Or.inr h
  | cons c left ih =>
    cases left with
    | nil =>
      right
      rcases List.infix_cons_iff.mp h with hstart | hlater
      · obtain ⟨rfl, tail, rfl⟩ := List.cons_prefix_cons.mp hstart
        exact absurd hcut (by simp)
      · exact hlater
    | cons d left =>
      rcases List.infix_cons_iff.mp h with hstart | hlater
      · left
        obtain ⟨rfl, hsecond⟩ := List.cons_prefix_cons.mp hstart
        obtain ⟨rfl, -⟩ := List.cons_prefix_cons.mp hsecond
        exact ⟨[], left, rfl⟩
      · rw [List.getLast?_cons_cons] at hcut
        exact (ih hcut hlater).imp_left List.infix_cons

theorem not_pair_of_not_mem {x y : Char} {text : List Char} (h : x ∉ text) : ¬ [x, y] <:+: text :=
  fun hpair => h (hpair.subset List.mem_cons_self)

theorem NoBlanks.trimStart_append {cs : List Char} (h : NoBlanks cs) (hne : cs ≠ [])
    (rest : List Char) : trimStart (cs ++ rest) = cs ++ rest := by
  cases cs with
  | nil => exact absurd rfl hne
  | cons c cs => exact trimStart_cons_sign (h c List.mem_cons_self) _

end Text

namespace Directive

open Text

variable {word : DirectiveWord} {rule reason : List Char}

/-! ## Finding a comment -/

theorem behind?_append (fixed tail : List Char) : behind? fixed (fixed ++ tail) = some tail :=
  behind?_eq_some_iff.mpr rfl

theorem sign_of_head? {sign text : List Char} {found : DirectiveWord × List Char}
    (h : head? sign text = some found) : sign <+: text := by
  obtain ⟨tail, htail, -⟩ := Option.bind_eq_some_iff.mp h
  exact ⟨tail, (behind?_eq_some_iff.mp htail).symm⟩

/-- A reader of comments with an opening of two characters. -/
def OpensWith (read : List Char → Option Directive) (x y : Char) : Prop :=
  ∀ text directive, read text = some directive → [x, y] <+: text

theorem lineComment?_opensWith : OpensWith lineComment? '/' '/' := by
  intro text directive h
  rw [lineComment?_eq] at h
  obtain ⟨found, hfound, -⟩ := Option.bind_eq_some_iff.mp h
  exact sign_of_head? hfound

theorem blockComment?_opensWith : OpensWith blockComment? '/' '*' := by
  intro text directive h
  rw [blockComment?_eq] at h
  obtain ⟨found, hfound, -⟩ := Option.bind_eq_some_iff.mp h
  exact sign_of_head? hfound

theorem OpensWith.first?_eq_none {read : List Char → Option Directive} {x y : Char}
    (h : OpensWith read x y) {line : List Char} (hline : ¬ [x, y] <:+: line) :
    first? read line = none := by
  induction line with
  | nil => rfl
  | cons c line ih =>
    have hhere : read (c :: line) = none := by
      refine Option.eq_none_iff_forall_not_mem.mpr fun directive hread => hline ?_
      exact (h _ _ hread).isInfix
    rw [first?, hhere, ih fun hlater => hline (List.infix_cons hlater)]
    rfl

/-- A search passes over text without the first character of an opening. -/
theorem OpensWith.first?_append {read : List Char → Option Directive} {x y : Char}
    (h : OpensWith read x y) {before : List Char} (hbefore : x ∉ before) (text : List Char) :
    first? read (before ++ text) = (first? read text).map fun directive =>
      { directive with before := before ++ directive.before } := by
  induction before with
  | nil =>
    rw [List.nil_append]
    cases first? read text <;> rfl
  | cons c before ih =>
    obtain ⟨hc, hbefore⟩ := List.ne_and_not_mem_of_not_mem_cons hbefore
    have hhere : read (c :: (before ++ text)) = none := by
      refine Option.eq_none_iff_forall_not_mem.mpr fun directive hread => ?_
      exact hc (List.cons_prefix_cons.mp (h _ _ hread)).1
    rw [List.cons_append, first?, hhere, ih hbefore]
    cases first? read text <;> rfl

theorem first?_of_read {read : List Char → Option Directive} {text : List Char}
    {directive : Directive} (hne : text ≠ []) (h : read text = some directive) :
    first? read text = some directive := by
  cases text with
  | nil => exact absurd rfl hne
  | cons c text => rw [first?, h]

/-! ## Reading what is written -/

theorem word?_written (word : DirectiveWord) (rest : List Char) :
    word? (word.text.toList ++ ' ' :: rest) = some (word, trimStart rest) := by
  have hsplit : word.text.toList = "ignore".toList ++ (word.text.toList.drop 6) := by
    cases word <;> decide +kernel
  rw [word?_eq, hsplit, List.append_assoc, behind?_append, Option.bind_some]
  cases word <;> rfl

/-- A comment up to its rule. -/
def writtenHead (sign : String) (word : DirectiveWord) : List Char :=
  sign.toList ++ ' ' :: (marker ++ (word.text.toList ++ [' ']))

theorem head?_written (sign : String) (word : DirectiveWord) (rest : List Char) :
    head? sign.toList (writtenHead sign word ++ rest) = some (word, trimStart rest) := by
  have hmarker : ∀ tail, trimStart (' ' :: (marker ++ tail)) = marker ++ tail := by
    intro tail
    have hblanks : NoBlanks marker := by decide +kernel
    rw [trimStart_cons_blank (by decide), hblanks.trimStart_append (by decide +kernel)]
  rw [writtenHead, head?, List.append_assoc, behind?_append, Option.bind_eq_bind, Option.bind_some,
    List.cons_append, List.append_assoc, hmarker, behind?_append, Option.bind_some,
    List.append_assoc]
  exact word?_written word rest

/-- A rule and a reason. -/
def writtenRest (rule reason : List Char) : List Char :=
  rule ++ ' ' :: '-' :: ' ' :: reason

theorem lineComment?_written (hrule : rule ≠ []) (hblanks : NoBlanks rule)
    (hreason : trim reason = reason) :
    lineComment? (writtenHead "//" word ++ writtenRest rule reason) =
      some { word, rule, reason } := by
  have hsign : ∀ c ∈ rule, (!isBlank c) = true := fun c hc => by simp [hblanks c hc]
  have htake : (writtenRest rule reason).takeWhile (fun c => !isBlank c) = rule := by
    rw [writtenRest, List.takeWhile_append_of_pos hsign, List.takeWhile_cons_of_neg (by decide),
      List.append_nil]
  have hdrop : (writtenRest rule reason).dropWhile (fun c => !isBlank c) =
      ' ' :: '-' :: ' ' :: reason := by
    rw [writtenRest, List.dropWhile_append_of_pos hsign, List.dropWhile_cons_of_neg (by decide)]
  have hdash : trimStart (' ' :: '-' :: ' ' :: reason) = '-' :: ' ' :: reason := by
    rw [trimStart_cons_blank (by decide), trimStart_cons_sign (by decide)]
  have hread : trimStart (' ' :: reason) = reason := by
    rw [trimStart_cons_blank (by decide), trimStart_eq_of_trim_eq hreason]
  rw [lineComment?_eq, head?_written, Option.bind_some, writtenRest, hblanks.trimStart_append hrule,
    ← writtenRest, lineRest?]
  dsimp only
  rw [htake, hdrop, hdash, if_neg (by simpa using hrule)]
  change some (Directive.mk [] word rule (trimStart (' ' :: reason))) = _
  rw [hread]

/-! ## Block comments -/

theorem endsComment_cons_eq_false {c : Char} {rest : List Char} (hc : isBlank c = false)
    (hrest : rest.head? ≠ some '/') : endsComment (c :: rest) = false := by
  rw [endsComment, trimStart_cons_sign hc, Option.isSome_eq_false_iff, Option.isNone_iff_eq_none]
  refine Option.eq_none_iff_forall_not_mem.mpr fun tail htail => hrest ?_
  have hsplit := behind?_eq_some_iff.mp htail
  rw [(List.cons.inj hsplit).2]
  rfl

/-- Neither a reason nor the end of a comment starts with this character. -/
theorem blockReason?_eq_none {c : Char} {rest : List Char} (hc : isBlank c = false)
    (hdash : c ≠ '-') (hrest : rest.head? ≠ some '/') : blockReason? (c :: rest) = none := by
  have hnodash : behind? ['-'] (c :: rest) = none := by
    rw [behind?, if_neg fun heq => hdash heq.symm]
  have hnoend : endsComment (c :: rest) = false := endsComment_cons_eq_false hc hrest
  rw [blockReason?_eq, trimStart_cons_sign hc, hnodash, hnoend]
  rfl

/-- The rule in a block comment ends where the reason starts. -/
theorem blockRule?_append {tail : List Char} (hblanks : NoBlanks rule) (hdash : '-' ∉ rule)
    (hslash : '/' ∉ rule) (hrule : rule ≠ []) (htail : tail.head? ≠ some '/')
    (hreason : blockReason? tail = some reason) :
    blockRule? (rule ++ tail) = some (rule, reason) := by
  induction rule with
  | nil => exact absurd rfl hrule
  | cons c rule ih =>
    obtain ⟨hc, hblanks⟩ := List.forall_mem_cons.mp hblanks
    rw [List.cons_append, blockRule?, if_neg (by simp [hc])]
    cases rule with
    | nil =>
      rw [List.nil_append, hreason]
    | cons d rule =>
      have hd : d ≠ '-' := fun heq => hdash (by simp [heq])
      have hnext : (rule ++ tail).head? ≠ some '/' := by
        cases rule with
        | nil => exact htail
        | cons e rule => exact fun heq => hslash (by simp [Option.some.inj heq])
      rw [ih hblanks (List.not_mem_of_not_mem_cons hdash) (List.not_mem_of_not_mem_cons hslash)
        (by simp), List.cons_append, blockReason?_eq_none (hblanks d List.mem_cons_self) hd hnext]
      rfl

/-- The end of a block comment. -/
def writtenEnd : List Char :=
  " */".toList

/-- A reason without the second character of the end is read up to the end. -/
theorem untilEnd?_append (hslash : '/' ∉ reason) (htrim : trimEnd reason = reason) :
    untilEnd? (reason ++ writtenEnd) = some reason := by
  induction reason with
  | nil => decide
  | cons c reason ih =>
    have hrest : trimEnd reason = reason := by
      rw [trimEnd_cons] at htrim
      split at htrim
      · cases htrim
      · exact (List.cons.inj htrim).2
    -- the first character that is not blank belongs to the reason, and no slash follows it
    have hnoend : endsComment ((c :: reason) ++ writtenEnd) = false := by
      have hne : trimStart (c :: reason) ≠ [] := by
        intro hnil
        rw [trimEnd_eq_nil_of_trimStart hnil] at htrim
        cases htrim
      rw [← endsComment_trimStart, trimStart_append hne]
      cases hstart : trimStart (c :: reason) with
      | nil => exact absurd hstart hne
      | cons d rest =>
        refine endsComment_cons_eq_false (isBlank_of_trimStart_eq_cons hstart) ?_
        have hrest : '/' ∉ rest := fun hmem =>
          not_mem_trimStart hslash (by simp [hstart, hmem])
        cases rest with
        | nil => decide
        | cons e rest => exact fun heq => hrest (by simp [Option.some.inj heq])
    rw [List.cons_append] at hnoend ⊢
    rw [untilEnd?, hnoend, ih (List.not_mem_of_not_mem_cons hslash) hrest]
    rfl

theorem blockReason?_written (hslash : '/' ∉ reason) (hreason : trim reason = reason) :
    blockReason? (' ' :: '-' :: ' ' :: (reason ++ writtenEnd)) = some reason := by
  have hdash : trimStart (' ' :: '-' :: ' ' :: (reason ++ writtenEnd)) =
      '-' :: ' ' :: (reason ++ writtenEnd) := by
    rw [trimStart_cons_blank (by decide), trimStart_cons_sign (by decide)]
  have hread : untilEnd? (trimStart (' ' :: (reason ++ writtenEnd))) = some reason := by
    rw [trimStart_cons_blank (by decide)]
    by_cases hnil : reason = []
    · rw [hnil]
      decide
    · have hstart := trimStart_eq_of_trim_eq hreason
      rw [trimStart_append (by rwa [hstart]), hstart,
        untilEnd?_append hslash (trimEnd_eq_of_trim_eq hreason)]
  have hbehind : behind? ['-'] ('-' :: ' ' :: (reason ++ writtenEnd)) =
      some (' ' :: (reason ++ writtenEnd)) := rfl
  rw [blockReason?_eq, hdash, hbehind, Option.bind_some, hread]
  rfl

theorem blockComment?_written (hrule : rule ≠ []) (hblanks : NoBlanks rule) (hdash : '-' ∉ rule)
    (hslash : '/' ∉ rule) (hreason : trim reason = reason) (hend : '/' ∉ reason) :
    blockComment? (writtenHead "/*" word ++ (writtenRest rule reason ++ writtenEnd)) =
      some { word, rule, reason } := by
  rw [blockComment?_eq, head?_written, Option.bind_some, writtenRest, List.append_assoc,
    hblanks.trimStart_append hrule, blockRest?]
  dsimp only [List.cons_append]
  rw [blockRule?_append hblanks hdash hslash hrule (by simp) (blockReason?_written hend hreason)]
  rfl

/-! ## Other comments -/

theorem getLast?_writtenHead (sign : String) (word : DirectiveWord) :
    (writtenHead sign word).getLast? = some ' ' := by
  have hend : writtenHead sign word =
      (sign.toList ++ ' ' :: (marker ++ word.text.toList)) ++ [' '] := by
    simp [writtenHead]
  rw [hend, List.getLast?_concat]

/-- A comment up to its rule has a pair that starts with a slash only in its opening. -/
theorem not_pair_writtenHead {sign : String} {y : Char} (hy : ' ' ≠ y)
    (hsign : ¬ ['/', y] <:+: sign.toList) (word : DirectiveWord) :
    ¬ ['/', y] <:+: writtenHead sign word := by
  have hmarker : '/' ∉ marker := by decide +kernel
  have hword : '/' ∉ word.text.toList := by cases word <;> decide +kernel
  intro hpair
  rcases pair_append (Or.inr (by simpa using hy)) hpair with hin | hin
  · exact hsign hin
  · exact not_pair_of_not_mem (by simp [hmarker, hword]) hin

/-- A directive in a line comment has a block comment only in its rule or its reason. -/
theorem first?_blockComment?_written (hrule : ¬ ['/', '*'] <:+: rule)
    (hreason : ¬ ['/', '*'] <:+: reason) :
    first? blockComment? (writtenHead "//" word ++ writtenRest rule reason) = none := by
  refine blockComment?_opensWith.first?_eq_none fun hpair => ?_
  have hcut : (writtenHead "//" word).getLast? ≠ some '/' := by simp [getLast?_writtenHead]
  rcases pair_append (Or.inl hcut) hpair with hhead | hrest
  · exact not_pair_writtenHead (by decide) (by decide) word hhead
  · rcases pair_append (Or.inr (by simp)) hrest with hin | hin
    · exact hrule hin
    · have hdash : [' ', '-', ' '].getLast? ≠ some '/' := by decide
      rcases @pair_append _ _ [' ', '-', ' '] reason (Or.inl hdash) hin with hin | hin
      · revert hin
        decide
      · exact hreason hin

/-- A directive in a block comment has no line comment. -/
theorem first?_lineComment?_written (hslash : '/' ∉ rule) (hend : '/' ∉ reason) :
    first? lineComment? (writtenHead "/*" word ++ (writtenRest rule reason ++ writtenEnd)) =
      none := by
  refine lineComment?_opensWith.first?_eq_none fun hpair => ?_
  have hcut : (writtenHead "/*" word).getLast? ≠ some '/' := by simp [getLast?_writtenHead]
  rcases pair_append (Or.inl hcut) hpair with hhead | hrest
  · exact not_pair_writtenHead (by decide) (by decide) word hhead
  · have hrest' : '/' ∉ writtenRest rule reason := by simp [writtenRest, hslash, hend]
    rcases pair_append (Or.inr (by decide)) hrest with hin | hin
    · exact not_pair_of_not_mem hrest' hin
    · revert hin
      decide

/-! ## The two forms -/

/-- A directive in a line comment behind a text. -/
def inLineComment (before : String) (word : DirectiveWord) (rule reason : String) : String :=
  before ++ "// celestecheck:" ++ word.text ++ " " ++ rule ++ " - " ++ reason

/-- A directive in a block comment behind a text. -/
def inBlockComment (before : String) (word : DirectiveWord) (rule reason : String) : String :=
  before ++ "/* celestecheck:" ++ word.text ++ " " ++ rule ++ " - " ++ reason ++ " */"

theorem toList_inLineComment (before : String) (word : DirectiveWord) (rule reason : String) :
    (inLineComment before word rule reason).toList =
      before.toList ++ (writtenHead "//" word ++ writtenRest rule.toList reason.toList) := by
  have hsign : "// celestecheck:".toList = "//".toList ++ ' ' :: marker := by decide +kernel
  have hblank : " ".toList = [' '] := by decide
  have hdash : " - ".toList = [' ', '-', ' '] := by decide
  simp only [inLineComment, String.toList_append, hsign, hblank, hdash, writtenHead, writtenRest,
    List.append_assoc, List.cons_append, List.nil_append]

theorem toList_inBlockComment (before : String) (word : DirectiveWord) (rule reason : String) :
    (inBlockComment before word rule reason).toList = before.toList ++ (writtenHead "/*" word ++
      (writtenRest rule.toList reason.toList ++ writtenEnd)) := by
  have hsign : "/* celestecheck:".toList = "/*".toList ++ ' ' :: marker := by decide +kernel
  have hblank : " ".toList = [' '] := by decide
  have hdash : " - ".toList = [' ', '-', ' '] := by decide
  simp only [inBlockComment, String.toList_append, hsign, hblank, hdash, writtenHead, writtenRest,
    writtenEnd, List.append_assoc, List.cons_append, List.nil_append]

end Directive

namespace Suppression

open Text (NoBlanks trim trimmed)

variable {file content before rule reason : String} {word : DirectiveWord} {i : Nat}
  {line : List Char}

/-! ## What is asked for -/

/-- What a directive asks for that stands on a line behind a text. -/
def asked (file : String) (number : Nat) (before : String) (word : DirectiveWord)
    (rule reason : String) : Suppression where
  rule := rule
  reason := reason
  file := file
  line := if word = .ignoreFile then 0 else number
  suppressionType :=
    match word with
    | .ignoreFile => .file
    | .ignoreNextLine => .nextLine
    | .ignore => if before.toList.all Text.isBlank then .nextLine else .line

/-- The suppressions of a text are those of the lines above the one with index `i`, these ones, and
those of the lines below. -/
def Contributes (file content : String) (i : Nat) (made : List Suppression) : Prop :=
  parse file content = (List.range i).filterMap (atLine? file content) ++
    (made ++ ((List.range (Text.lines content.toList).length).drop (i + 1)).filterMap
      (atLine? file content))

theorem contributes_atLine? (hi : i < (Text.lines content.toList).length) :
    Contributes file content i (atLine? file content i).toList := by
  have hrange : List.range (Text.lines content.toList).length = List.range i ++
      i :: (List.range (Text.lines content.toList).length).drop (i + 1) := by
    conv => lhs; rw [← List.take_append_drop i (List.range _)]
    rw [List.take_range, Nat.min_eq_left (Nat.le_of_lt hi),
      List.drop_eq_getElem_cons (by rwa [List.length_range]), List.getElem_range]
  rw [Contributes, parse_eq]
  conv => lhs; rw [hrange]
  rw [List.filterMap_append, List.filterMap_cons]
  cases atLine? file content i <;> rfl

theorem ofDirective?_asked (hreason : trim reason.toList = reason.toList)
    (h : word ≠ .ignoreFile ∨ FileAllowed content i) :
    ofDirective? file (headerReaches content i) (i + 1)
        { before := before.toList, word, rule := rule.toList, reason := reason.toList } =
      some (asked file (i + 1) before word rule reason) := by
  have hempty : (trim before.toList).isEmpty = before.toList.all Text.isBlank := by
    rw [Bool.eq_iff_iff, List.isEmpty_iff, Text.trim_eq_nil_iff, List.all_eq_true]
  have hrule : String.ofList rule.toList = rule := String.ofList_toList
  have hmade : String.ofList (trim reason.toList) = reason := by
    rw [hreason, String.ofList_toList]
  cases word with
  | ignoreFile =>
    have hallowed := fileAllowed_iff.mpr (h.resolve_left fun hne => hne rfl)
    simp only [ofDirective?, asked, hallowed, hrule, hmade, if_true]
  | ignoreNextLine => simp only [ofDirective?, asked, hrule, hmade, reduceCtorEq, if_false]
  | ignore =>
    simp only [ofDirective?, asked, hempty, hrule, hmade, reduceCtorEq, if_false]
    split <;> rfl

theorem ofDirective?_rejected {directive : Directive} (hword : directive.word = .ignoreFile)
    (h : ¬ FileAllowed content i) :
    ofDirective? file (headerReaches content i) (i + 1) directive = none := by
  rw [← fileAllowed_iff] at h
  simp only [ofDirective?, hword]
  rw [if_neg h]

/-! ## Reading back -/

/-- The directives of a line with a written line comment. -/
theorem atLine?_inLineComment (hline : (Text.lines content.toList)[i]? =
      some (Directive.inLineComment before word rule reason).toList)
    (hbefore : '/' ∉ before.toList) (hrule : rule.toList ≠ []) (hblanks : NoBlanks rule.toList)
    (hreason : trim reason.toList = reason.toList) :
    atLine? file content i = (ofDirective? file (headerReaches content i) (i + 1)
        { before := before.toList, word, rule := rule.toList, reason := reason.toList }).or
      ((Directive.first? Directive.blockComment?
        (Directive.inLineComment before word rule reason).toList).bind
          (ofDirective? file (headerReaches content i) (i + 1))) := by
  have hread := @Directive.lineComment?_written word _ _ hrule hblanks hreason
  have hfirst := Directive.first?_of_read (by simp [Directive.writtenRest]) hread
  have hfound : Directive.first? Directive.lineComment?
      (Directive.inLineComment before word rule reason).toList =
        some { before := before.toList, word, rule := rule.toList, reason := reason.toList } := by
    rw [Directive.toList_inLineComment, Directive.lineComment?_opensWith.first?_append hbefore,
      hfirst, Option.map_some, List.append_nil]
  rw [atLine?_eq hline, ofLine?_eq, hfound, Option.bind_some]

/-- The directive of a line with a written block comment. -/
theorem atLine?_inBlockComment (hline : (Text.lines content.toList)[i]? =
      some (Directive.inBlockComment before word rule reason).toList)
    (hbefore : '/' ∉ before.toList) (hrule : rule.toList ≠ []) (hblanks : NoBlanks rule.toList)
    (hreason : trim reason.toList = reason.toList) (hdash : '-' ∉ rule.toList)
    (hslash : '/' ∉ rule.toList) (hend : '/' ∉ reason.toList) :
    atLine? file content i = ofDirective? file (headerReaches content i) (i + 1)
      { before := before.toList, word, rule := rule.toList, reason := reason.toList } := by
  have hread := @Directive.blockComment?_written word _ _ hrule hblanks hdash hslash hreason hend
  have hfirst := Directive.first?_of_read (by simp [Directive.writtenRest]) hread
  rw [atLine?_eq hline, ofLine?_eq, Directive.toList_inBlockComment,
    Directive.lineComment?_opensWith.first?_append hbefore,
    Directive.first?_lineComment?_written hslash hend,
    Directive.blockComment?_opensWith.first?_append hbefore, hfirst, Option.map_none,
    Option.bind_none, Option.none_or, Option.map_some, Option.bind_some, List.append_nil]

/-- A directive that is written in one of the two forms, on any line of any text, makes one
suppression with its rule and its reason, unless it is for the whole file and the header does not
reach it. In a block comment it then makes none. In a line comment it gives way to a directive in a
block comment, which can only stand in its rule and its reason. -/
theorem written_directives_are_read_back (hline : (Text.lines content.toList)[i]? = some line)
    (hbefore : '/' ∉ before.toList) (hrule : rule ≠ "") (hblanks : NoBlanks rule.toList)
    (hreason : trimmed reason = reason) :
    (line = (Directive.inLineComment before word rule reason).toList →
      (word ≠ .ignoreFile ∨ FileAllowed content i →
        Contributes file content i [asked file (i + 1) before word rule reason]) ∧
      (word = .ignoreFile → ¬ FileAllowed content i →
        Contributes file content i
          ((Regex.blockForm.search line).bind (ofDirective? file false (i + 1))).toList ∧
        (¬ "/*".toList <:+: rule.toList → ¬ "/*".toList <:+: reason.toList →
          Contributes file content i []))) ∧
    ('-' ∉ rule.toList → '/' ∉ rule.toList → '/' ∉ reason.toList →
      line = (Directive.inBlockComment before word rule reason).toList →
      (word ≠ .ignoreFile ∨ FileAllowed content i →
        Contributes file content i [asked file (i + 1) before word rule reason]) ∧
      (word = .ignoreFile → ¬ FileAllowed content i → Contributes file content i [])) := by
  have hi := (List.getElem?_eq_some_iff.mp hline).1
  have hfeed := Text.not_mem_of_getElem?_lines hline
  have hmade : ∀ made, atLine? file content i = made → Contributes file content i made.toList := by
    rintro made rfl
    exact contributes_atLine? hi
  have hrule' : rule.toList ≠ [] := by simpa using hrule
  have hreason' : trim reason.toList = reason.toList := by
    have hlists := congrArg String.toList hreason
    rwa [trimmed, String.toList_ofList] at hlists
  constructor
  · rintro rfl
    have hread := @atLine?_inLineComment file _ _ _ _ _ _ hline hbefore hrule' hblanks hreason'
    refine ⟨fun hallowed => hmade (some _) ?_, fun hword hnot => ?_⟩
    · rw [hread, ofDirective?_asked hreason' hallowed]
      rfl
    · rw [ofDirective?_rejected hword hnot, Option.none_or] at hread
      have hheader : headerReaches content i = false := by
        cases hreach : headerReaches content i with
        | false => rfl
        | true => exact absurd (fileAllowed_iff.mp (by rw [hreach]; rfl)) hnot
      rw [hheader] at hread
      refine ⟨hmade _ ?_, fun hnorule hnoreason => hmade none ?_⟩
      · rw [hread, Regex.search_blockForm hfeed]
      · rw [hread, Directive.toList_inLineComment,
          Directive.blockComment?_opensWith.first?_append hbefore,
          Directive.first?_blockComment?_written hnorule hnoreason]
        rfl
  · rintro hdash hslash hend rfl
    have hread := @atLine?_inBlockComment file _ _ _ _ _ _ hline hbefore hrule' hblanks hreason'
      hdash hslash hend
    refine ⟨fun hallowed => hmade (some _) ?_, fun hword hnot => hmade none ?_⟩
    · rw [hread, ofDirective?_asked hreason' hallowed]
    · rw [hread, ofDirective?_rejected hword hnot]

/-- A directive behind code, and one in a block comment alone on its line. -/
def twoForms : String :=
  Directive.inLineComment "x += y; " .ignore "CL0001" "see // and /* - */" ++ "\r\n" ++
    Directive.inBlockComment "\t" .ignore "*" "a - b * c"

theorem twoForms_read_back :
    Contributes "Hooks.cs" twoForms 0
      [asked "Hooks.cs" 1 "x += y; " .ignore "CL0001" "see // and /* - */"] ∧
    Contributes "Hooks.cs" twoForms 1 [asked "Hooks.cs" 2 "\t" .ignore "*" "a - b * c"] := by
  have hlines : (Text.lines twoForms.toList)[0]? =
        some (Directive.inLineComment "x += y; " .ignore "CL0001" "see // and /* - */").toList ∧
      (Text.lines twoForms.toList)[1]? =
        some (Directive.inBlockComment "\t" .ignore "*" "a - b * c").toList := by
    decide +kernel
  have hfirst : '/' ∉ "x += y; ".toList ∧ NoBlanks "CL0001".toList ∧
      trimmed "see // and /* - */" = "see // and /* - */" := by
    decide +kernel
  have hsecond : ('/' ∉ "\t".toList ∧ NoBlanks "*".toList ∧ trimmed "a - b * c" = "a - b * c") ∧
      '-' ∉ "*".toList ∧ '/' ∉ "*".toList ∧ '/' ∉ "a - b * c".toList := by
    decide +kernel
  constructor
  · exact ((written_directives_are_read_back hlines.1 hfirst.1 (by decide) hfirst.2.1
      hfirst.2.2).1 rfl).1 (Or.inl (by decide))
  · exact ((written_directives_are_read_back hlines.2 hsecond.1.1 (by decide) hsecond.1.2.1
      hsecond.1.2.2).2 hsecond.2.1 hsecond.2.2.1 hsecond.2.2.2 rfl).1 (Or.inl (by decide))

/-- A directive for the whole file behind ten lines of code, with a directive in its reason. -/
def buriedDirective : String :=
  "x\nx\nx\nx\nx\nx\nx\nx\nx\nx\n" ++
    Directive.inLineComment "x " .ignoreFile "CL0001" "/* celestecheck:ignore CL0002 - */"

/-- The directive for the whole file does not count, but the line still makes a suppression. -/
theorem buriedDirective_surfaces :
    ((Text.lines buriedDirective.toList)[10]? = some (Directive.inLineComment "x " .ignoreFile
        "CL0001" "/* celestecheck:ignore CL0002 - */").toList ∧
      '/' ∉ "x ".toList ∧ "CL0001" ≠ "" ∧ NoBlanks "CL0001".toList ∧
      trimmed "/* celestecheck:ignore CL0002 - */" =
        "/* celestecheck:ignore CL0002 - */" ∧
      ¬ FileAllowed buriedDirective 10) ∧
    ¬ Contributes "Hooks.cs" buriedDirective 10 [] ∧
    parse "Hooks.cs" buriedDirective = [asked "Hooks.cs" 11 "x " .ignore "CL0002" ""] := by
  rw [← fileAllowed_iff]
  unfold Contributes
  decide +kernel

end Suppression

end ModLint
