import ModLint.Datum

/-!
# Tokens of a YAML text

The scanner cuts a YAML text into tokens. Indentation is turned into tokens here: a deeper column
opens a block collection and a return to the left closes it, so that the reader of tokens needs no
columns. A key is recognised only by the colon behind it, which may come after the key has been
scanned; the place of a possible key is therefore kept and the key token is inserted there later.

Block and flow collections, comments, document marks and the plain, quoted and block scalars are
known; anchors, aliases, tags and directives are refused.
-/

namespace ModLint.Yaml

/-- A token. -/
inductive Token where
  /-- The mark that opens a document. -/
  | documentStart
  /-- The mark that closes a document. -/
  | documentEnd
  /-- A block sequence opens. -/
  | blockSequence
  /-- A block mapping opens. -/
  | blockMapping
  /-- The innermost block collection ends. -/
  | blockEnd
  /-- An opening square bracket. -/
  | flowSequence
  /-- A closing square bracket. -/
  | flowSequenceEnd
  /-- An opening brace. -/
  | flowMapping
  /-- A closing brace. -/
  | flowMappingEnd
  /-- The dash of a block sequence. -/
  | entry
  /-- The comma of a flow collection. -/
  | comma
  /-- A key follows. -/
  | key
  /-- A value follows. -/
  | value
  /-- A scalar: `plain` if it is not quoted, else `text`. -/
  | scalar (datum : Datum)

/-- A place where a key may have started. -/
structure KeyPlace where
  /-- Whether it still may be a key. -/
  possible : Bool := false
  /-- Whether it must be one, since it stands where the next key of a block mapping is due. -/
  required : Bool := false
  /-- How many tokens precede it. -/
  token : Nat := 0
  /-- Its line. -/
  line : Nat := 0
  /-- Its column. -/
  column : Nat := 0
  /-- How many characters precede it. -/
  offset : Nat := 0

/-- The state of the scanner. -/
structure Scan where
  /-- The characters not yet read. -/
  rest : List Char
  /-- How many characters have been read. -/
  offset : Nat := 0
  /-- The current line. -/
  line : Nat := 0
  /-- The current column. -/
  column : Nat := 0
  /-- The tokens so far. -/
  tokens : Array Token := #[]
  /-- One more than the column of the innermost block collection; zero outside of all. -/
  indent : Nat := 0
  /-- The indents of the block collections around it. -/
  outer : List Nat := []
  /-- How many flow collections are open. -/
  flow : Nat := 0
  /-- Whether a key may start here. -/
  keyAllowed : Bool := true
  /-- The possible keys, one for each open flow collection and one for the block context. -/
  keys : List KeyPlace := [{}]

/-- A line break. -/
def isBreak (c : Char) : Bool :=
  c == '\n' || c == '\r' || c == '\x85' || c == '\u2028' || c == '\u2029'

/-- A space or a tab. -/
def isSpaceOrTab (c : Char) : Bool :=
  c == ' ' || c == '\t'

/-- A character that a YAML text may contain. -/
def isAllowed (c : Char) : Bool :=
  let n := c.toNat
  n == 9 || n == 10 || n == 13 || (32 ≤ n && n ≤ 126) || n == 0x85 || (0xA0 ≤ n && n ≤ 0xFFFD)
    || 0x10000 ≤ n

/-- Whether a text is at its end or starts with a space, a tab or a line break. -/
def startsBlank : List Char → Bool
  | [] => true
  | c :: _ => isSpaceOrTab c || isBreak c

namespace Scan

/-- Moves over one character that is no line break. -/
def skip (s : Scan) : Scan :=
  { s with rest := s.rest.drop 1, offset := s.offset + 1, column := s.column + 1 }

/-- Moves over one line break and returns its text; a carriage return and a line feed are one. -/
def takeBreak (s : Scan) : List Char × Scan :=
  let next (n : Nat) (rest : List Char) : Scan :=
    { s with rest, offset := s.offset + n, column := 0, line := s.line + 1 }
  match s.rest with
  | '\r' :: '\n' :: rest => (['\n'], next 2 rest)
  | c :: rest =>
    if c == '\n' || c == '\r' || c == '\x85' then (['\n'], next 1 rest)
    else if isBreak c then ([c], next 1 rest)
    else ([], s)
  | [] => ([], s)

/-- Appends a token. -/
def push (s : Scan) (token : Token) : Scan :=
  { s with tokens := s.tokens.push token }

/-- Inserts a token behind the first `place` tokens. -/
def insert (s : Scan) (place : Nat) (token : Token) : Scan :=
  { s with tokens := s.tokens.insertIdxIfInBounds place token }

/-- The possible key of the current context. -/
def topKey (s : Scan) : KeyPlace :=
  s.keys.headD {}

/-- Replaces the possible key of the current context. -/
def setTopKey (s : Scan) (key : KeyPlace) : Scan :=
  { s with keys := key :: s.keys.drop 1 }

/-- Gives up the possible key of the current context; refused if a key must stand there. -/
def dropKey (s : Scan) : Option Scan :=
  let key := s.topKey
  if key.possible && key.required then none else some (s.setTopKey { key with possible := false })

/-- Notes that a key may start here. -/
def noteKey (s : Scan) : Option Scan := do
  if s.keyAllowed then
    let required := s.flow == 0 && s.indent == s.column + 1
    let s ← s.dropKey
    return s.setTopKey
      { possible := true, required, token := s.tokens.size, line := s.line, column := s.column,
        offset := s.offset }
  else return s

/-- Gives up the keys that a line end or a great distance separates from the current place. -/
def dropStaleKeys (s : Scan) : Option Scan := do
  let keys ← s.keys.mapM fun key =>
    if key.possible && (key.line < s.line || key.offset + 1024 < s.offset) then
      if key.required then none else some { key with possible := false }
    else some key
  return { s with keys }

/-- Opens a block collection at a column, unless one is open there already. The token goes behind
the first `place` tokens. -/
def openBlock (s : Scan) (column place : Nat) (token : Token) : Scan :=
  if s.flow == 0 && s.indent < column + 1 then
    { s with indent := column + 1, outer := s.indent :: s.outer }.insert place token
  else s

/-- Closes the block collections that are further in than an indent. -/
def closeBlocks (s : Scan) (indent : Nat) : Scan :=
  if s.flow == 0 then go s.outer s else s
where
  /-- Closes one collection for each indent of the list. -/
  go : List Nat → Scan → Scan
    | [], s => s
    | outer :: rest, s =>
      if indent < s.indent then
        go rest { s with indent := outer, outer := rest, tokens := s.tokens.push .blockEnd }
      else s

/-- Moves over spaces, comments and line breaks to the next token. Tabs separate tokens only where
no key may start. -/
def toToken : Nat → Scan → Scan
  | 0, s => s
  | fuel + 1, s =>
    match s.rest with
    | [] => s
    | c :: _ =>
      if c == '\ufeff' && s.offset == 0 then toToken fuel s.skip
      else if c == ' ' || (c == '\t' && (0 < s.flow || !s.keyAllowed)) then toToken fuel s.skip
      else if c == '#' then
        let comment := s.rest.takeWhile fun d => !isBreak d
        toToken fuel
          { s with
            rest := s.rest.drop comment.length, offset := s.offset + comment.length
            column := s.column + comment.length }
      else if isBreak c then
        let s := s.takeBreak.2
        toToken fuel { s with keyAllowed := s.keyAllowed || s.flow == 0 }
      else s

/-- Whether a document mark of three equal characters stands here. -/
def atMark (s : Scan) (c : Char) : Bool :=
  s.column == 0 && s.rest.take 3 == [c, c, c] && startsBlank (s.rest.drop 3)

/-- The line breaks inside a scalar, folded: a single one is a space, of several the first is
dropped. -/
def fold (first more : List Char) : List Char :=
  if first == ['\n'] then (if more.isEmpty then [' '] else more) else first ++ more

/-- The spaces and line breaks between two words of a scalar. -/
structure Gap where
  /-- Spaces and tabs before any line break. -/
  spaces : List Char := []
  /-- The first line break. -/
  first : List Char := []
  /-- The line breaks after it. -/
  more : List Char := []
  /-- Whether a line break has been passed. -/
  broken : Bool := false

/-- The text that a gap stands for. -/
def Gap.text (gap : Gap) : List Char :=
  if gap.broken then fold gap.first gap.more else gap.spaces

/-- Reads a gap. Where `limit` is given, a tab behind a line break and left of that column is
refused. -/
def takeGap (limit : Option Nat) : Nat → Gap → Scan → Option (Gap × Scan)
  | 0, gap, s => some (gap, s)
  | fuel + 1, gap, s =>
    match s.rest with
    | [] => some (gap, s)
    | c :: _ =>
      if isSpaceOrTab c then
        if gap.broken then
          if c == '\t' && limit.any (s.column < ·) then none else takeGap limit fuel gap s.skip
        else takeGap limit fuel { gap with spaces := gap.spaces ++ [c] } s.skip
      else if isBreak c then
        let (text, s) := s.takeBreak
        if gap.broken then takeGap limit fuel { gap with more := gap.more ++ text } s
        else takeGap limit fuel { gap with spaces := [], first := text, broken := true } s
      else some (gap, s)

/-- The characters of a plain scalar up to the next blank or the indicator that ends it. -/
def plainWord (flow : Bool) : List Char → Option (List Char × List Char)
  | [] => some ([], [])
  | c :: cs =>
    if startsBlank (c :: cs) then some ([], c :: cs)
    else if flow && c == ':' && cs.head?.any (",?[]\x7b\x7d".toList.contains ·) then none
    else if c == ':' && startsBlank cs then some ([], c :: cs)
    else if flow && ",[]\x7b\x7d".toList.contains c then some ([], c :: cs)
    else (plainWord flow cs).map fun (word, rest) => (c :: word, rest)

/-- Reads a plain scalar; `text` is what has been read of it and `gap` what lies behind that. -/
def plain : Nat → List Char → Gap → Scan → Option (List Char × Bool × Scan)
  | 0, _, _, _ => none
  | fuel + 1, text, gap, s => do
    if s.atMark '-' || s.atMark '.' || s.rest.head? == some '#' then
      return (text, gap.broken, s)
    let (word, rest) ← plainWord (0 < s.flow) s.rest
    let (text, gap) := if word.isEmpty then (text, gap) else (text ++ gap.text ++ word, {})
    let s :=
      { s with rest, offset := s.offset + word.length, column := s.column + word.length }
    if !rest.isEmpty && startsBlank rest then
      let (gap, s) ← takeGap (some s.indent) s.rest.length gap s
      if s.flow == 0 && s.column < s.indent then return (text, gap.broken, s)
      else plain fuel text gap s
    else return (text, gap.broken, s)

/-- Reads the hexadecimal digits of an escape. -/
def hexCode : Nat → Nat → List Char → Option (Nat × List Char)
  | 0, value, rest => some (value, rest)
  | _ + 1, _, [] => none
  | n + 1, value, c :: rest =>
    if '0' ≤ c ∧ c ≤ '9' then hexCode n (value * 16 + (c.toNat - 48)) rest
    else if 'a' ≤ c ∧ c ≤ 'f' then hexCode n (value * 16 + (c.toNat - 87)) rest
    else if 'A' ≤ c ∧ c ≤ 'F' then hexCode n (value * 16 + (c.toNat - 55)) rest
    else none

/-- The character behind a backslash in double quotes, with how many characters it takes. -/
def escape : List Char → Option (Char × Nat)
  | [] => none
  | c :: rest =>
    let code (n : Nat) : Option (Char × Nat) := do
      let (value, _) ← hexCode n 0 rest
      if h : value.isValidChar then return (Char.ofNatAux value h, n + 1) else none
    match c with
    | '0' => some ('\x00', 1)
    | 'a' => some ('\x07', 1)
    | 'b' => some ('\x08', 1)
    | 't' => some ('\t', 1)
    | '\t' => some ('\t', 1)
    | 'n' => some ('\n', 1)
    | 'v' => some ('\x0b', 1)
    | 'f' => some ('\x0c', 1)
    | 'r' => some ('\r', 1)
    | 'e' => some ('\x1b', 1)
    | ' ' => some (' ', 1)
    | '"' => some ('"', 1)
    | '/' => some ('/', 1)
    | '\\' => some ('\\', 1)
    | 'N' => some ('\x85', 1)
    | '_' => some ('\xa0', 1)
    | 'L' => some ('\u2028', 1)
    | 'P' => some ('\u2029', 1)
    | 'x' => code 2
    | 'u' => code 4
    | 'U' => code 8
    | _ => none

/-- Reads a quoted scalar behind its opening quote. `text` is what has been read of it, last
character first. -/
def quoted (quote : Char) : Nat → List Char → Scan → Option (List Char × Scan)
  | 0, _, _ => none
  | fuel + 1, text, s =>
    if s.atMark '-' || s.atMark '.' then none
    else
      match s.rest with
      | [] => none
      | c :: cs =>
        if c == quote then
          if quote == '\'' && cs.head? == some '\'' then
            quoted quote fuel ('\'' :: text) s.skip.skip
          else some (text.reverse, s.skip)
        else if c == '\\' && quote == '"' then
          if cs.head?.any isBreak then do
            let (gap, s) ← takeGap none s.rest.length { broken := true } s.skip.takeBreak.2
            quoted quote fuel (gap.text.reverse ++ text) s
          else do
            let (d, n) ← escape cs
            quoted quote fuel (d :: text)
              { s with
                rest := cs.drop n, offset := s.offset + n + 1, column := s.column + n + 1 }
        else if isSpaceOrTab c || isBreak c then do
          let (gap, s) ← takeGap none s.rest.length {} s
          quoted quote fuel (gap.text.reverse ++ text) s
        else quoted quote fuel (c :: text) s.skip

/-- Reads the empty lines of a block scalar, up to the first character of its next line. Returns
the line breaks, the deepest column seen, and the state. -/
def blockBreaks (indent : Nat) :
    Nat → List Char → Nat → Scan → Option (List Char × Nat × Scan)
  | 0, breaks, deepest, s => some (breaks, deepest, s)
  | fuel + 1, breaks, deepest, s =>
    let shallow := indent == 0 || s.column < indent
    match s.rest with
    | [] => some (breaks, max deepest s.column, s)
    | c :: _ =>
      if shallow && c == ' ' then blockBreaks indent fuel breaks deepest s.skip
      else if shallow && c == '\t' then none
      else if isBreak c then
        let deepest := max deepest s.column
        let (text, s) := s.takeBreak
        blockBreaks indent fuel (breaks ++ text) deepest s
      else some (breaks, max deepest s.column, s)

/-- Reads the lines of a block scalar. `first` is the line break behind the last line and `more`
the breaks of the empty lines behind it. -/
def blockLines (folded : Bool) (indent : Nat) :
    Nat → List Char → Bool → List Char → List Char → Scan →
      Option (List Char × List Char × List Char × Scan)
  | 0, text, _, first, more, s => some (text, first, more, s)
  | fuel + 1, text, indented, first, more, s =>
    match s.rest with
    | [] => some (text, first, more, s)
    | c :: _ =>
      if s.column != indent then some (text, first, more, s)
      else do
        let nowIndented := isSpaceOrTab c
        let joint :=
          if folded && first == ['\n'] && !indented && !nowIndented then
            if more.isEmpty then [' '] else []
          else first
        let line := s.rest.takeWhile fun d => !isBreak d
        let (first, s) :=
          { s with
            rest := s.rest.drop line.length, offset := s.offset + line.length
            column := s.column + line.length }.takeBreak
        let (breaks, _, s) ← blockBreaks indent (s.rest.length + 1) [] 0 s
        blockLines folded indent fuel (text ++ joint ++ more ++ line) nowIndented first breaks s

/-- The marks behind the indicator of a block scalar: which of the last line breaks stay, and the
indentation if it is given. -/
def blockHeader : List Char → Option (Option Bool × Nat × List Char)
  | c :: d :: rest =>
    if c == '+' || c == '-' then
      if d == '0' then none
      else if '1' ≤ d ∧ d ≤ '9' then some (some (c == '+'), d.toNat - 48, rest)
      else some (some (c == '+'), 0, d :: rest)
    else if c == '0' then none
    else if '1' ≤ c ∧ c ≤ '9' then
      if d == '+' || d == '-' then some (some (d == '+'), c.toNat - 48, rest)
      else some (none, c.toNat - 48, d :: rest)
    else some (none, 0, c :: d :: rest)
  | [c] =>
    if c == '+' || c == '-' then some (some (c == '+'), 0, [])
    else if c == '0' then none
    else if '1' ≤ c ∧ c ≤ '9' then some (none, c.toNat - 48, [])
    else some (none, 0, [c])
  | [] => some (none, 0, [])

/-- Reads a block scalar from its indicator on. -/
def block (folded : Bool) (s : Scan) : Option (List Char × Scan) := do
  let (keep, given, rest) ← blockHeader (s.rest.drop 1)
  let length := s.rest.length - rest.length
  let s := { s with rest, offset := s.offset + length, column := s.column + length }
  let spaces := s.rest.takeWhile isSpaceOrTab
  let rest := s.rest.drop spaces.length
  let comment := if rest.head? == some '#' then rest.takeWhile fun d => !isBreak d else []
  let length := spaces.length + comment.length
  let s :=
    { s with
      rest := s.rest.drop length, offset := s.offset + length, column := s.column + length }
  if s.rest.head?.any fun d => !isBreak d then none
  else
    let s := s.takeBreak.2
    let fixed := if given == 0 then 0 else s.indent - 1 + given
    let (breaks, deepest, s) ← blockBreaks fixed (s.rest.length + 1) [] 0 s
    let indent := if fixed == 0 then max (max deepest s.indent) 1 else fixed
    let (text, first, more, s) ← blockLines folded indent (s.rest.length + 1) [] false [] breaks s
    let ending :=
      match keep with
      | none => first
      | some true => first ++ more
      | some false => []
    return (text ++ ending, s)

/-- A token of one character that opens a flow collection. -/
def openFlow (s : Scan) (token : Token) : Option Scan := do
  let s ← s.noteKey
  return { s with flow := s.flow + 1, keys := {} :: s.keys, keyAllowed := true }.skip.push token

/-- A token of one character that closes a flow collection. -/
def closeFlow (s : Scan) (token : Token) : Option Scan := do
  let s ← s.dropKey
  let s := if 0 < s.flow then { s with flow := s.flow - 1, keys := s.keys.drop 1 } else s
  return { s with keyAllowed := false }.skip.push token

/-- The dash of a block sequence. -/
def dash (s : Scan) : Option Scan := do
  if s.flow == 0 && !s.keyAllowed then none
  else
    let s ← (s.openBlock s.column s.tokens.size .blockSequence).dropKey
    return { s with keyAllowed := true }.skip.push .entry

/-- The question mark of a key that is marked as such. -/
def question (s : Scan) : Option Scan := do
  if s.flow == 0 && !s.keyAllowed then none
  else
    let s ← (s.openBlock s.column s.tokens.size .blockMapping).dropKey
    return { s with keyAllowed := s.flow == 0 }.skip.push .key

/-- The colon in front of a value. -/
def colon (s : Scan) : Option Scan :=
  let key := s.topKey
  if key.possible then
    let s := (s.insert key.token .key).openBlock key.column key.token .blockMapping
    some ({ s.setTopKey { key with possible := false } with keyAllowed := false }.skip.push .value)
  else if s.flow == 0 && !s.keyAllowed then none
  else
    let s := s.openBlock s.column s.tokens.size .blockMapping
    some ({ s with keyAllowed := s.flow == 0 }.skip.push .value)

/-- A document mark. -/
def mark (s : Scan) (token : Token) : Option Scan := do
  let s ← (s.closeBlocks 0).dropKey
  return { s with keyAllowed := false }.skip.skip.skip.push token

/-- Reads the token that starts with the character `c`. -/
def token (s : Scan) (c : Char) : Option Scan :=
  let next := s.rest.drop 1
  let fuel := s.rest.length + 1
  if s.column == 0 && c == '%' then none
  else if s.atMark '-' then s.mark .documentStart
  else if s.atMark '.' then s.mark .documentEnd
  else if c == '[' then s.openFlow .flowSequence
  else if c == '\x7b' then s.openFlow .flowMapping
  else if c == ']' then s.closeFlow .flowSequenceEnd
  else if c == '\x7d' then s.closeFlow .flowMappingEnd
  else if c == ',' then do
    let s ← s.dropKey
    return { s with keyAllowed := true }.skip.push .comma
  else if c == '-' && startsBlank next then s.dash
  else if c == '?' && (0 < s.flow || startsBlank next) then s.question
  else if c == ':' && (0 < s.flow || startsBlank next) then s.colon
  else if (c == '|' || c == '>') && s.flow == 0 then do
    let s ← s.dropKey
    let (text, s) ← { s with keyAllowed := true }.block (c == '>')
    return s.push (.scalar (.text (String.ofList text)))
  else if c == '\'' || c == '"' then do
    let s ← s.noteKey
    let (text, s) ← quoted c fuel [] { s with keyAllowed := false }.skip
    return s.push (.scalar (.text (String.ofList text)))
  else if !("-?:,[]\x7b\x7d#&*!|>'\"%@\x60".toList.contains c || startsBlank [c])
      || (c == '-' && !next.head?.any isSpaceOrTab)
      || (s.flow == 0 && (c == '?' || c == ':') && !startsBlank next) then do
    let s ← s.noteKey
    let (text, broken, s) ← plain fuel [] {} { s with keyAllowed := false }
    return { s with keyAllowed := s.keyAllowed || broken }.push
      (.scalar (.plain (String.ofList text)))
  else none

/-- Reads tokens to the end of the text. -/
def run : Nat → Scan → Option (Array Token)
  | 0, _ => none
  | fuel + 1, s => do
    let s ← (s.toToken (s.rest.length + 1)).dropStaleKeys
    match s.rest with
    | [] =>
      let s ← (s.closeBlocks 0).dropKey
      return s.tokens
    | c :: _ =>
      let s ← (s.closeBlocks (s.column + 1)).token c
      run fuel s

end Scan

/-- The tokens of a YAML text, or `none` if it cannot be cut into tokens. -/
def tokens? (text : String) : Option (List Token) := do
  let chars := text.toList
  if chars.all isAllowed then
    let tokens ← Scan.run (chars.length + 2) { rest := chars }
    return tokens.toList
  else none

end ModLint.Yaml
