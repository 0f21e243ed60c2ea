import ModLint.Text.Blank

/-!
# Directives in comments

A directive is a comment that asks to ignore a rule: the marker, a word, a rule and, behind a dash,
a reason. It stands in a line comment or in a block comment that ends on the same line. What a line
says is decided by its leftmost comment with a directive.
-/

namespace ModLint

/-- What a directive asks for. -/
inductive DirectiveWord where
  /-- To ignore the rule here. -/
  | ignore
  /-- To ignore the rule on the next line. -/
  | ignoreNextLine
  /-- To ignore the rule in the whole file. -/
  | ignoreFile
deriving DecidableEq

/-- A word as it is written. -/
def DirectiveWord.text : DirectiveWord → String
  | .ignore => "ignore"
  | .ignoreNextLine => "ignore-next-line"
  | .ignoreFile => "ignore-file"

/-- A directive. -/
structure Directive where
  /-- The text in front of its comment. -/
  before : List Char := []
  /-- What it asks for. -/
  word : DirectiveWord
  /-- The rule. -/
  rule : List Char
  /-- The reason, with blanks around it. -/
  reason : List Char
deriving DecidableEq

namespace Directive

/-- The text behind a fixed beginning, if a text has it. -/
def behind? : List Char → List Char → Option (List Char)
  | [], text => some text
  | _ :: _, [] => none
  | c :: start, d :: text => if c = d then behind? start text else none

/-- The text behind one blank or more. -/
def behindBlanks? : List Char → Option (List Char)
  | [] => none
  | c :: text => if Text.isBlank c then some (Text.trimStart text) else none

/-- The marker of all directives. -/
def marker : List Char :=
  "celestecheck:".toList

/-- Reads the word of a directive and the blanks behind it. -/
def word? (text : List Char) : Option (DirectiveWord × List Char) := do
  let rest ← behind? "ignore".toList text
  let plain := (behindBlanks? rest).map (Prod.mk DirectiveWord.ignore)
  let nextLine := do
    return (DirectiveWord.ignoreNextLine, ← behindBlanks? (← behind? "-next-line".toList rest))
  let file := do
    return (DirectiveWord.ignoreFile, ← behindBlanks? (← behind? "-file".toList rest))
  plain <|> nextLine <|> file

/-- Reads a comment up to the rule: its opening, the marker and the word. -/
def head? (opening text : List Char) : Option (DirectiveWord × List Char) := do
  let rest ← behind? opening text
  word? (← behind? marker (Text.trimStart rest))

/-- Reads a line comment: the rule ends at a blank, the reason at the end of the line. -/
def lineComment? (text : List Char) : Option Directive := do
  let (word, rest) ← head? "//".toList text
  let rule := rest.takeWhile fun c => !Text.isBlank c
  if rule.isEmpty then none
  else
    let rest := Text.trimStart (rest.dropWhile fun c => !Text.isBlank c)
    let reason := ((behind? ['-'] rest).map Text.trimStart).getD []
    return { word, rule, reason }

/-- Whether a block comment ends here, with blanks in front of its end. -/
def endsComment (text : List Char) : Bool :=
  (behind? "*/".toList (Text.trimStart text)).isSome

/-- The text up to the end of a block comment and the blanks in front of it. -/
def untilEnd? : List Char → Option (List Char)
  | [] => none
  | c :: text =>
    if endsComment (c :: text) then some []
    else (untilEnd? text).map (c :: ·)

/-- What follows the rule in a block comment: a reason behind a dash, or only the end. -/
def blockReason? (text : List Char) : Option (List Char) :=
  let rest := Text.trimStart text
  let reason := do untilEnd? (Text.trimStart (← behind? ['-'] rest))
  reason <|> if endsComment rest then some [] else none

/-- Reads the rule of a block comment and what follows it. The rule is the shortest one that can be
followed so. -/
def blockRule? : List Char → Option (List Char × List Char)
  | [] => none
  | c :: text =>
    if Text.isBlank c then none
    else
      match blockReason? text with
      | some reason => some ([c], reason)
      | none => (blockRule? text).map fun (rule, reason) => (c :: rule, reason)

/-- Reads a block comment. -/
def blockComment? (text : List Char) : Option Directive := do
  let (word, rest) ← head? "/*".toList text
  let (rule, reason) ← blockRule? rest
  return { word, rule, reason }

/-- The first directive that `read` finds in a line. -/
def first? (read : List Char → Option Directive) : List Char → Option Directive
  | [] => none
  | c :: text =>
    match read (c :: text) with
    | some directive => some directive
    | none => (first? read text).map fun directive =>
      { directive with before := c :: directive.before }

/-- The directives of a line: the one in a line comment, then the one in a block comment. -/
def ofLine (line : List Char) : List Directive :=
  [first? lineComment? line, first? blockComment? line].filterMap id

end Directive

end ModLint
