import ModLint.Proofs.Readers
import ModLint.Proofs.Regex

/-!
# The patterns of directives

The two forms of a directive are given by regular expressions, and the groups of a match are what is
read. The readers of directives go over the text once and never back. They find the same, because
blanks in front of a character that is not blank are best taken as a whole, and because the shortest
rule and the shortest reason that work are those that the readers stop at.
-/

namespace ModLint

namespace Regex

/-! ## The two forms -/

/-- Blanks, as many as possible. -/
def blanks : Regex :=
  many true Text.isBlank

/-- Whether a character is not blank. -/
def isSign (c : Char) : Bool :=
  !Text.isBlank c

/-- Whether a character does not end a line. -/
def staysOnLine (c : Char) : Bool :=
  c != '\n'

/-- One blank or more. -/
def someBlanks : Regex :=
  seq (one Text.isBlank) blanks

/-- The word of a directive. -/
def word : Regex :=
  seq (lit "ignore".toList) (optional (alt (lit "-file".toList) (lit "-next-line".toList)))

/-- A directive up to its rule: the opening of the comment, the marker, the word as the first group
and blanks. -/
def opening (sign : String) : List Regex :=
  [lit sign.toList, blanks, lit Directive.marker, group 1 word, someBlanks]

/-- The rule as the second group. -/
def rule (greedy : Bool) : Regex :=
  group 2 (seq (one isSign) (many greedy isSign))

/-- A dash and the reason as the third group, or nothing. -/
def reason (greedy : Bool) : Regex :=
  optional (seqs [lit ['-'], blanks, group 3 (many greedy staysOnLine)])

/-- A directive in a line comment: the rule and the reason are as long as possible. -/
def lineForm : Regex :=
  seqs (opening "//" ++ [rule true, blanks, reason true])

/-- A directive in a block comment: the rule and the reason are as short as possible. -/
def blockForm : Regex :=
  seqs (opening "/*" ++ [rule false, blanks, reason false, blanks, lit "*/".toList])

/-- The word that a group took. -/
def wordOf (text : List Char) : DirectiveWord :=
  if text = "ignore-file".toList then .ignoreFile
  else if text = "ignore-next-line".toList then .ignoreNextLine
  else .ignore

/-- What is read from the groups of a match behind a text. -/
def directiveOf (before : List Char) (groups : List (Nat × List Char)) : Directive :=
  { before, word := wordOf ((groups.lookup 1).getD []), rule := (groups.lookup 2).getD []
    reason := (groups.lookup 3).getD [] }

/-! ## Parts of the patterns -/

section Parts

open Directive (behind? behindBlanks? endsComment untilEnd? blockReason? blockRule?
  behind?_eq_some_iff behind?_blank word_unique word?_bind suffix_of_head? endsComment_trimStart
  untilEnd?_eq_none_of_trimStart blockReason?_eq lineRest? lineComment?_eq blockRest?
  blockComment?_eq)
open Text (trimStart isBlank trimStart_cons_blank trimStart_cons_sign trimStart_trimStart
  not_mem_trimStart)

variable {α : Type} {rest : List Regex} {result : List (Nat × List Char) → Option α}
  {text : List Char}

theorem first_lit (answer : Match → Option α) (fixed : List Char) :
    (lit fixed).first answer text =
      (behind? fixed text).bind fun rest => answer ⟨fixed, rest, []⟩ := by
  induction fixed generalizing text answer with
  | nil =>
    rw [lit, first_empty]
    rfl
  | cons c fixed ih =>
    rw [lit, first_seq]
    cases text with
    | nil => rfl
    | cons d text =>
      rw [first_one_cons, behind?]
      by_cases heq : c = d
      · rw [if_pos heq, if_pos (by simp [heq]), ih, heq]
        rfl
      · have hne : ¬ (d == c) = true := by simpa using fun hdc => heq hdc.symm
        rw [if_neg heq, if_neg hne]
        rfl

/-- The answer to the groups of the first match of some expressions one after the other. -/
def answer (rest : List Regex) (result : List (Nat × List Char) → Option α) (text : List Char) :
    Option α :=
  (seqs rest).first (fun m => result m.groups) text

theorem answer_nil : answer [] result text = result [] := first_empty

theorem answer_lit (fixed : List Char) :
    answer (lit fixed :: rest) result text = (behind? fixed text).bind (answer rest result) := by
  rw [answer, first_seqs_cons, first_lit]
  rfl

/-- Blanks are best taken as a whole if what follows gains nothing from one in front of it. -/
theorem answer_blanks (h : ∀ c tail, c :: tail <:+ text → isBlank c = true →
      answer rest result (trimStart tail) = none → answer rest result (c :: tail) = none) :
    answer (blanks :: rest) result text = answer rest result (trimStart text) := by
  rw [answer, first_seqs_cons]
  exact first_greedy fun taken c tail htext hc => h c tail ⟨taken, htext⟩ hc

theorem answer_someBlanks (h : ∀ c tail, isBlank c = true → answer rest result (c :: tail) = none) :
    answer (someBlanks :: rest) result text = (behindBlanks? text).bind (answer rest result) := by
  rw [answer, first_seqs_cons, someBlanks, first_seq]
  cases text with
  | nil => rfl
  | cons c text =>
    rw [first_one_cons, behindBlanks?]
    by_cases hc : isBlank c = true
    · rw [if_pos hc, if_pos hc]
      exact first_greedy fun _ d tail _ hd _ => h d tail hd
    · rw [if_neg hc, if_neg hc]
      rfl

theorem answer_group (number : Nat) (inner : Regex) :
    answer (group number inner :: rest) result text = inner.first (fun m => answer rest
      (fun groups => result ((number, m.taken) :: (m.groups ++ groups))) m.rest) text := by
  rw [answer, first_seqs_cons, first_group]
  rfl

/-! ## The opening -/

/-- A word and the blanks behind it. The pattern tries the words in another order. -/
theorem first_word (next : List (Nat × List Char) → List Char → Option α) :
    (group 1 word).first (fun m => (behindBlanks? m.rest).bind (next m.groups)) text =
      (Directive.word? text).bind fun found => next [(1, found.1.text.toList)] found.2 := by
  rw [first_group, word, first_seq, first_lit, word?_bind]
  refine Option.bind_congr fun tail _ => ?_
  have hunique := word_unique tail
  change (optional _).first _ tail = _
  rw [optional, first_alt, first_alt, first_lit, first_lit, first_empty]
  change (((behind? "-file".toList tail).bind fun tail => (behindBlanks? tail).bind
      (next [(1, DirectiveWord.ignoreFile.text.toList)])).or
    ((behind? "-next-line".toList tail).bind fun tail => (behindBlanks? tail).bind
      (next [(1, DirectiveWord.ignoreNextLine.text.toList)]))).or
    ((behindBlanks? tail).bind (next [(1, DirectiveWord.ignore.text.toList)])) = _
  rw [← Option.bind_assoc, ← Option.bind_assoc]
  generalize behindBlanks? tail = plain at hunique ⊢
  generalize (behind? "-next-line".toList tail).bind behindBlanks? = line at hunique ⊢
  generalize (behind? "-file".toList tail).bind behindBlanks? = file at hunique ⊢
  rcases hunique with ⟨rfl | ⟨rfl, rfl⟩, hnone⟩
  · rcases hnone with rfl | rfl <;> simp
  · simp

/-- The opening of a directive, in front of something that does not start with a blank. -/
theorem answer_opening (sign : String)
    (hrest : ∀ (result : List (Nat × List Char) → Option α) c tail, isBlank c = true →
      answer rest result (c :: tail) = none) :
    answer (opening sign ++ rest) result text =
      (Directive.head? sign.toList text).bind fun found =>
        answer rest (fun groups => result ((1, found.1.text.toList) :: groups)) found.2 := by
  have hword : ∀ text, answer (group 1 word :: someBlanks :: rest) result text =
      (Directive.word? text).bind fun found =>
        answer rest (fun groups => result ((1, found.1.text.toList) :: groups)) found.2 := by
    intro text
    rw [answer, first_seqs_cons]
    refine Eq.trans (first_congr fun m _ => ?_) (first_word fun groups tail =>
      answer rest (fun groups' => result (groups ++ groups')) tail)
    exact @answer_someBlanks α rest (fun groups => result (m.groups ++ groups)) m.rest
      fun c tail hc => hrest _ c tail hc
  have hmarker : ∀ text, answer (lit Directive.marker :: group 1 word :: someBlanks :: rest)
      result text = ((behind? Directive.marker text).bind Directive.word?).bind fun found =>
        answer rest (fun groups => result ((1, found.1.text.toList) :: groups)) found.2 := by
    intro text
    rw [answer_lit, Option.bind_assoc]
    exact Option.bind_congr fun tail _ => hword tail
  change answer (lit sign.toList :: blanks :: lit Directive.marker :: group 1 word :: someBlanks ::
    rest) result text = _
  rw [answer_lit, Directive.head?]
  cases behind? sign.toList text with
  | none => rfl
  | some tail =>
    -- the marker does not start with a blank, so giving one back never helps
    refine (answer_blanks fun c tail _ hc _ => ?_).trans (hmarker (trimStart tail))
    have hnone : behind? Directive.marker (c :: tail) = none := by
      have hsign : Directive.marker = 'c' :: "elestecheck:".toList := by decide +kernel
      rw [hsign, behind?_blank hc (by decide)]
    rw [hmarker, hnone]
    rfl

/-! ## Reasons -/

section Reasons

variable (answerTo : List Char → α)

/-- Answers to what the third group took. -/
def toReason (groups : List (Nat × List Char)) : Option α :=
  some (answerTo ((groups.lookup 3).getD []))

theorem answer_reason (greedy : Bool) :
    answer (reason greedy :: rest) result text =
      ((behind? ['-'] text).bind (answer (blanks :: group 3 (many greedy staysOnLine) :: rest)
        result)).or (answer rest result text) := by
  have hdash := @first_seqs_append α (fun m => result m.groups) text
    [lit ['-'], blanks, group 3 (many greedy staysOnLine)] rest
  rw [← answer_lit, answer, first_seqs_cons, reason, optional, first_alt, first_empty]
  exact congrArg (Option.or · _) hdash.symm

theorem takeWhile_staysOnLine (h : '\n' ∉ text) : text.takeWhile staysOnLine = text := by
  have hall : ∀ c ∈ text, staysOnLine c = true := by
    intro c hc
    have hne : c ≠ '\n' := fun heq => h (heq ▸ hc)
    simpa [staysOnLine] using hne
  have hsplit : (text ++ []).takeWhile staysOnLine = text ++ [].takeWhile staysOnLine :=
    List.takeWhile_append_of_pos hall
  simpa using hsplit

/-- The reason in a line comment is what follows the dash. -/
theorem answer_lineReason (h : '\n' ∉ text) :
    answer [blanks, reason true] (toReason answerTo) text =
      some (answerTo (((behind? ['-'] (trimStart text)).map trimStart).getD [])) := by
  -- the reason is optional, so whatever the blanks leave is accepted
  have hsome : ∀ text, answer [reason true] (toReason answerTo) text ≠ none := by
    intro text hnone
    rw [answer_reason, Option.or_eq_none_iff] at hnone
    exact absurd hnone.2 (by simp [answer_nil, toReason])
  have hgroup : ∀ text, answer [group 3 (many true staysOnLine)] (toReason answerTo) text =
      some (answerTo (text.takeWhile staysOnLine)) := by
    intro text
    rw [answer_group]
    exact first_greedy fun _ _ _ _ _ hnone => by cases hnone
  have hgroupSome : ∀ text,
      answer [group 3 (many true staysOnLine)] (toReason answerTo) text ≠ none := by
    intro text
    rw [hgroup]
    exact Option.some_ne_none _
  rw [answer_blanks fun c tail _ _ hnone => absurd hnone (hsome _), answer_reason]
  cases hdash : behind? ['-'] (trimStart text) with
  | none => rfl
  | some tail =>
    have htail : '\n' ∉ trimStart tail := by
      have htext := not_mem_trimStart h
      rw [behind?_eq_some_iff.mp hdash, List.mem_append, not_or] at htext
      exact not_mem_trimStart htext.2
    have hread : answer [blanks, group 3 (many true staysOnLine)] (toReason answerTo) tail =
        some (answerTo (trimStart tail)) := by
      rw [answer_blanks fun c tail _ _ hnone => absurd hnone (hgroupSome _), hgroup,
        takeWhile_staysOnLine htail]
    rw [Option.bind_some, hread]
    rfl

/-- The end of a block comment. -/
theorem answer_end :
    answer [blanks, lit "*/".toList] result text =
      if endsComment text then result [] else none := by
  have hstar : "*/".toList = '*' :: ['/'] := by decide
  have hend : ∀ text, answer [lit "*/".toList] result text =
      if (behind? "*/".toList text).isSome then result [] else none := by
    intro text
    rw [answer_lit]
    cases behind? "*/".toList text with
    | none => rfl
    | some tail => exact answer_nil
  rw [answer_blanks, hend, endsComment]
  intro c tail _ hc _
  rw [hend, hstar, behind?_blank hc (by decide)]
  rfl

/-- The reason in a block comment ends where the comment can end. -/
theorem first_untilEnd (h : '\n' ∉ text) :
    (many false staysOnLine).first
        (fun m => if endsComment m.rest then some (answerTo m.taken) else none) text =
      (untilEnd? text).map answerTo := by
  induction text generalizing answerTo with
  | nil => rfl
  | cons c text ih =>
    obtain ⟨hc, htext⟩ := List.ne_and_not_mem_of_not_mem_cons h
    have hstays : staysOnLine c = true := by
      have hne : c ≠ '\n' := fun heq => hc heq.symm
      simpa [staysOnLine] using hne
    have hmore := ih (fun reason => answerTo (c :: reason)) htext
    rw [first_lazy_cons, if_pos hstays, untilEnd?]
    by_cases hend : endsComment (c :: text) = true
    · simp [hend]
    · rw [if_neg hend, if_neg hend, Option.none_or, Option.map_map]
      exact hmore

/-- What follows the rule in a block comment. -/
theorem answer_blockReason (h : '\n' ∉ text) :
    answer [blanks, reason false, blanks, lit "*/".toList] (toReason answerTo) text =
      (blockReason? text).map answerTo := by
  have hgroup : ∀ text, '\n' ∉ text →
      answer [group 3 (many false staysOnLine), blanks, lit "*/".toList] (toReason answerTo) text =
        (untilEnd? text).map answerTo := by
    intro text htext
    rw [answer_group, ← first_untilEnd answerTo htext]
    refine first_congr fun m _ => ?_
    rw [answer_end]
    rfl
  have hdash : ∀ text, '\n' ∉ text →
      answer [blanks, group 3 (many false staysOnLine), blanks, lit "*/".toList]
        (toReason answerTo) text = (untilEnd? (trimStart text)).map answerTo := by
    intro text htext
    rw [answer_blanks, hgroup _ (not_mem_trimStart htext)]
    intro c tail hsuffix hc hnone
    have hmem : '\n' ∉ c :: tail := fun hmem => htext (hsuffix.subset hmem)
    rw [hgroup _ (not_mem_trimStart (List.not_mem_of_not_mem_cons hmem)),
      Option.map_eq_none_iff] at hnone
    rw [hgroup _ hmem, untilEnd?_eq_none_of_trimStart, Option.map_none]
    rwa [trimStart_cons_blank hc]
  have hreason : ∀ text, '\n' ∉ text →
      answer [reason false, blanks, lit "*/".toList] (toReason answerTo) text =
        (((behind? ['-'] text).bind fun tail => untilEnd? (trimStart tail)).or
          (if endsComment text then some [] else none)).map answerTo := by
    intro text htext
    rw [answer_reason, answer_end, Option.map_or, Option.map_bind]
    congr 1
    · refine Option.bind_congr fun tail htail => hdash tail fun hmem => htext ?_
      rw [behind?_eq_some_iff.mp htail]
      exact List.mem_append_right _ hmem
    · split <;> rfl
  rw [answer_blanks, hreason _ (not_mem_trimStart h), blockReason?_eq]
  · intro c tail hsuffix hc hnone
    have hmem : '\n' ∉ c :: tail := fun hmem => h (hsuffix.subset hmem)
    rw [hreason _ (not_mem_trimStart (List.not_mem_of_not_mem_cons hmem)), Option.map_eq_none_iff,
      Option.or_eq_none_iff, endsComment_trimStart] at hnone
    rw [hreason _ hmem, behind?_blank hc (by decide), ← endsComment_trimStart,
      trimStart_cons_blank hc, endsComment_trimStart, hnone.2]
    rfl

end Reasons

/-! ## Rules -/

section Rules

variable (answerTo : List Char → List Char → α)

/-- Answers to what the second and the third group took. -/
def toRule (groups : List (Nat × List Char)) : Option α :=
  some (answerTo ((groups.lookup 2).getD []) ((groups.lookup 3).getD []))

theorem answer_rule_cons (greedy : Bool) (c : Char) :
    answer (rule greedy :: rest) result (c :: text) =
      if isSign c then (many greedy isSign).first (fun m => answer rest
        (fun groups => result ((2, c :: m.taken) :: groups)) m.rest) text
      else none := by
  rw [rule, answer_group, first_seq, first_one_cons, first_many]
  rfl

/-- A rule does not start with a blank. -/
theorem answer_rule_blank (greedy : Bool) {c : Char} (hc : isBlank c = true) :
    answer (rule greedy :: rest) result (c :: text) = none := by
  rw [answer_rule_cons, if_neg (by simp [isSign, hc])]

/-- The rule in a line comment ends at a blank. -/
theorem answer_lineRule (h : '\n' ∉ text) :
    answer [rule true, blanks, reason true] (toRule answerTo) text =
      if (text.takeWhile isSign).isEmpty then none
      else some (answerTo (text.takeWhile isSign)
        (((behind? ['-'] (trimStart (text.dropWhile isSign))).map trimStart).getD [])) := by
  cases text with
  | nil => rfl
  | cons c text =>
    have htext := List.not_mem_of_not_mem_cons h
    rw [answer_rule_cons]
    by_cases hc : isSign c = true
    · have hread : ∀ taken tail, tail <:+ text →
          answer [blanks, reason true] (toReason (answerTo (c :: taken))) tail =
            some (answerTo (c :: taken)
              (((behind? ['-'] (trimStart tail)).map trimStart).getD [])) :=
        fun taken tail htail => answer_lineReason _ fun hmem => htext (htail.subset hmem)
      rw [if_pos hc, List.takeWhile_cons_of_pos hc, List.dropWhile_cons_of_pos hc,
        if_neg (by simp)]
      refine Eq.trans (first_greedy fun taken d tail hsplit _ hnone => ?_)
        (hread _ _ (List.dropWhile_suffix isSign))
      have hsuffix : tail.dropWhile isSign <:+ text := by
        refine (List.dropWhile_suffix isSign).trans ⟨taken ++ [d], ?_⟩
        rw [← hsplit, List.append_assoc]
        rfl
      exact absurd ((hread _ _ hsuffix).symm.trans hnone) (Option.some_ne_none _)
    · rw [if_neg hc, List.takeWhile_cons_of_neg hc]
      rfl

/-- The rule in a block comment is the shortest one that a reason or the end can follow. -/
theorem first_blockRule :
    (many false isSign).first (fun m => (blockReason? m.rest).map (answerTo m.taken)) text =
      ((blockReason? text).map (answerTo [])).or
        ((blockRule? text).map fun found => answerTo found.1 found.2) := by
  induction text generalizing answerTo with
  | nil =>
    rw [first_lazy_nil, blockRule?, Option.map_none, Option.or_none]
  | cons c text ih =>
    -- one character more in the rule is a rule of the rest, for another answer
    have hmore := ih fun rule => answerTo (c :: rule)
    rw [first_lazy_cons, blockRule?]
    congr 1
    by_cases hc : isBlank c = true
    · rw [if_neg (by simp [isSign, hc]), if_pos hc]
      rfl
    · rw [if_pos (by simpa [isSign] using hc), if_neg hc]
      refine hmore.trans ?_
      cases blockReason? text with
      | none =>
        cases blockRule? text <;> rfl
      | some reason => rfl

theorem answer_blockRule (h : '\n' ∉ text) :
    answer [rule false, blanks, reason false, blanks, lit "*/".toList] (toRule answerTo) text =
      (blockRule? text).map fun found => answerTo found.1 found.2 := by
  cases text with
  | nil => rfl
  | cons c text =>
    have htext := List.not_mem_of_not_mem_cons h
    rw [answer_rule_cons, blockRule?]
    by_cases hc : isBlank c = true
    · rw [if_neg (by simp [isSign, hc]), if_pos hc]
      rfl
    · rw [if_pos (by simpa [isSign] using hc), if_neg hc]
      refine Eq.trans (first_congr fun m hm => ?_)
        ((first_blockRule fun rule => answerTo (c :: rule)).trans ?_)
      · refine answer_blockReason (answerTo (c :: m.taken)) fun hmem => htext ?_
        rw [← taken_append_rest hm]
        exact List.mem_append_right _ hmem
      · cases blockReason? text with
        | none =>
          cases blockRule? text <;> rfl
        | some reason => rfl

end Rules

/-! ## Readers -/

/-- What the first match at the start of a text reads. -/
def read (r : Regex) (text : List Char) : Option Directive :=
  (r.runs text).head?.map fun m => directiveOf [] m.groups

theorem read_seqs (list : List Regex) (text : List Char) :
    (seqs list).read text = answer list (fun groups => some (directiveOf [] groups)) text := by
  rw [answer, read, first_some]

theorem directiveOf_word (word : DirectiveWord) :
    (fun groups => some (directiveOf [] ((1, word.text.toList) :: groups))) =
      toRule fun rule reason => ({ word, rule, reason } : Directive) := by
  funext groups
  have hword : wordOf word.text.toList = word := by cases word <;> decide +kernel
  change some ({ word := wordOf word.text.toList, rule := _, reason := _ } : Directive) = _
  rw [hword]
  rfl

theorem read_lineForm (h : '\n' ∉ text) : lineForm.read text = Directive.lineComment? text := by
  rw [lineForm, read_seqs, answer_opening "//" fun _ _ _ hc => answer_rule_blank true hc,
    lineComment?_eq]
  refine Option.bind_congr fun found hfound => ?_
  rw [directiveOf_word, answer_lineRule _ fun hmem => h ((suffix_of_head? hfound).subset hmem)]
  rfl

theorem read_blockForm (h : '\n' ∉ text) : blockForm.read text = Directive.blockComment? text := by
  rw [blockForm, read_seqs, answer_opening "/*" fun _ _ _ hc => answer_rule_blank false hc,
    blockComment?_eq]
  refine Option.bind_congr fun found hfound => ?_
  rw [directiveOf_word, answer_blockRule _ fun hmem => h ((suffix_of_head? hfound).subset hmem)]
  rfl

/-- What the leftmost match in a line reads. -/
def search (r : Regex) (line : List Char) : Option Directive :=
  (r.find? line).map fun found => directiveOf found.1 found.2.groups

/-- A search goes from place to place, as the readers do. -/
theorem search_eq_first? {r : Regex} {readAt : List Char → Option Directive}
    (hnil : readAt [] = none) (hread : ∀ text, '\n' ∉ text → r.read text = readAt text)
    {line : List Char} (h : '\n' ∉ line) : r.search line = Directive.first? readAt line := by
  induction line with
  | nil =>
    have hnone := (hread [] h).trans hnil
    rw [read, Option.map_eq_none_iff] at hnone
    rw [search, find?, hnone]
    rfl
  | cons c line ih =>
    have hhere := hread (c :: line) h
    have hlater := ih (List.not_mem_of_not_mem_cons h)
    rw [read] at hhere
    rw [search, find?, Directive.first?, ← hhere, ← hlater, search]
    cases (r.runs (c :: line)).head? with
    | some m => rfl
    | none => cases r.find? line <;> rfl

theorem search_lineForm {line : List Char} (h : '\n' ∉ line) :
    lineForm.search line = Directive.first? Directive.lineComment? line :=
  search_eq_first? rfl (fun _ => read_lineForm) h

theorem search_blockForm {line : List Char} (h : '\n' ∉ line) :
    blockForm.search line = Directive.first? Directive.blockComment? line :=
  search_eq_first? rfl (fun _ => read_blockForm) h

/-- What the two patterns find in a line. -/
def found (line : List Char) : List (List Char × Match) :=
  [lineForm, blockForm].filterMap fun r => r.find? line

/-- The directives of a line are what the two patterns find. -/
theorem ofLine_eq {line : List Char} (h : '\n' ∉ line) :
    Directive.ofLine line = (found line).map fun place => directiveOf place.1 place.2.groups := by
  rw [Directive.ofLine, ← search_lineForm h, ← search_blockForm h, found, List.map_filterMap]
  rfl

end Parts

end Regex

end ModLint
