/-!
# Path patterns

A pattern is matched against a whole path, byte by byte. A question mark is any byte and a star any
run of bytes, separators included. Two stars as a whole component stand for any number of
components. Classes of characters stand in square brackets, alternatives in braces, and a backslash
takes the next character as it is.

`Glob.parse` reads a pattern and `Glob.isMatch` says whether it matches a path. Matching follows
all ways at once: each part of the pattern turns the rests of the path that can be reached before
it into those that can be reached behind it.
-/

namespace ModLint.Glob

/-- A part of a pattern. -/
inductive Part where
  /-- A character that stands for itself. -/
  | literal (c : Char)
  /-- Any one byte. -/
  | any
  /-- Any run of bytes. -/
  | zeroOrMore
  /-- Two stars at the start: nothing, or anything that ends with a separator. -/
  | leading
  /-- Two stars at the end: a separator and anything behind it. -/
  | trailing
  /-- Two stars in the middle: a separator, or two with anything between them. -/
  | between
  /-- One byte of the given ranges of characters, or one outside of them. -/
  | oneOf (negated : Bool) (ranges : List (Char × Char))
  /-- One of several patterns. -/
  | alternatives (branches : List (List Part))

/-- Why a text is no pattern. -/
inductive PatternError where
  /-- A class of characters is not closed. -/
  | unclosedClass
  /-- A range of characters goes down. -/
  | invalidRange (first last : Char)
  /-- A group of alternatives is closed but not open. -/
  | unopenedGroup
  /-- A group of alternatives is not closed. -/
  | unclosedGroup
  /-- Nothing follows a backslash. -/
  | danglingEscape
deriving DecidableEq

/-- What is wrong, in words. -/
def PatternError.reason : PatternError → String
  | .unclosedClass => "unclosed character class; missing ']'"
  | .invalidRange first last =>
    "invalid range; '" ++ first.toString ++ "' > '" ++ last.toString ++ "'"
  | .unopenedGroup =>
    "unopened alternate group; missing '\x7b' (maybe escape '\x7d' with '[\x7d]'?)"
  | .unclosedGroup =>
    "unclosed alternate group; missing '\x7d' (maybe escape '\x7b' with '[\x7b]'?)"
  | .danglingEscape => "dangling '\\'"

/-- The text of an error in a pattern. -/
def PatternError.message (error : PatternError) (pattern : String) : String :=
  "error parsing glob '" ++ pattern ++ "': " ++ error.reason

/-! ## Reading patterns -/

/-- What of a class of characters has been read. -/
structure ClassScan where
  /-- Whether it is negated. -/
  negated : Bool := false
  /-- The ranges so far, last one first. -/
  ranges : List (Char × Char) := []
  /-- Whether nothing but the negation has been read. -/
  first : Bool := true
  /-- Whether a dash waits for the end of its range. -/
  inRange : Bool := false

/-- Closes the range that a dash opened. -/
def ClassScan.endRange (scan : ClassScan) (c : Char) : Except PatternError ClassScan :=
  match scan.ranges with
  | (low, _) :: ranges =>
    if c < low then .error (.invalidRange low c)
    else .ok { scan with ranges := (low, c) :: ranges, inRange := false, first := false }
  | [] => .ok { scan with inRange := false, first := false }

/-- Reads the rest of a class; returns it with the characters behind it. -/
def readClass : ClassScan → List Char → Except PatternError (Part × List Char)
  | _, [] => .error .unclosedClass
  | scan, c :: rest =>
    if c = ']' && !scan.first then
      let ranges := if scan.inRange then ('-', '-') :: scan.ranges else scan.ranges
      .ok (.oneOf scan.negated ranges.reverse, rest)
    else if scan.inRange then do readClass (← scan.endRange c) rest
    else if c = '-' && !scan.first then readClass { scan with inRange := true } rest
    else readClass { scan with ranges := (c, c) :: scan.ranges, first := false } rest

/-- Reads a class behind its opening bracket. -/
def readNegatedClass : List Char → Except PatternError (Part × List Char)
  | c :: rest =>
    if c = '!' || c = '^' then readClass { negated := true } rest else readClass {} (c :: rest)
  | [] => .error .unclosedClass

/-- What of a pattern has been read. -/
structure PatternScan where
  /-- The open branches, innermost first, each with its last part first. -/
  branches : List (List Part) := [[]]
  /-- For each open group, innermost first, how many branches were open before it. -/
  groups : List Nat := []
  /-- The character read last. -/
  previous : Option Char := none

/-- Appends a part to the innermost branch. -/
def PatternScan.push (scan : PatternScan) (part : Part) : PatternScan :=
  match scan.branches with
  | branch :: branches => { scan with branches := (part :: branch) :: branches }
  | [] => scan

/-- Removes the last part of the innermost branch. -/
def PatternScan.pop (scan : PatternScan) : Option Part × PatternScan :=
  match scan.branches with
  | (part :: branch) :: branches => (some part, { scan with branches := branch :: branches })
  | _ => (none, scan)

/-- Closes the innermost group. -/
def PatternScan.closeGroup (scan : PatternScan) : Except PatternError PatternScan :=
  match scan.groups with
  | [] => .error .unopenedGroup
  | before :: groups =>
    let count := scan.branches.length - before
    let inside := (scan.branches.take count).map List.reverse
    .ok ({ scan with branches := scan.branches.drop count, groups }.push
      (.alternatives inside.reverse))

/-- Reads two stars behind the character `before`; returns the characters behind them. -/
def PatternScan.twoStars (scan : PatternScan) (before : Option Char) (rest : List Char) :
    PatternScan × List Char :=
  let plain := ((scan.push .zeroOrMore).push .zeroOrMore, rest)
  let special (last : Bool) (rest : List Char) : PatternScan × List Char :=
    let scan := if last then scan else { scan with previous := some '/' }
    match scan.pop with
    | (some .leading, scan) => (scan.push .leading, rest)
    | (some .trailing, scan) => (scan.push .trailing, rest)
    | (_, scan) => (scan.push (if last then .trailing else .between), rest)
  if (scan.branches.headD []).isEmpty then
    match rest with
    | [] => (scan.push .leading, [])
    | '/' :: rest => ({ scan with previous := some '/' }.push .leading, rest)
    | _ => plain
  else if before != some '/'
      && (scan.branches.length ≤ 1 || (before != some ',' && before != some '\x7b')) then plain
  else
    match rest with
    | [] => special true []
    | '/' :: rest => special false rest
    | c :: _ =>
      if (c = ',' || c = '\x7d') && 2 ≤ scan.branches.length then special true rest else plain

/-- Reads the parts of a pattern; `fuel` bounds the number of parts. -/
def readParts : Nat → PatternScan → List Char → Except PatternError PatternScan
  | 0, scan, _ => .ok scan
  | _, scan, [] => .ok scan
  | fuel + 1, scan, c :: rest =>
    let before := scan.previous
    let scan := { scan with previous := some c }
    match c with
    | '?' => readParts fuel (scan.push .any) rest
    | '*' =>
      match rest with
      | '*' :: rest =>
        let (scan, rest) := scan.twoStars before rest
        readParts fuel scan rest
      | _ => readParts fuel (scan.push .zeroOrMore) rest
    | '[' => do
      let (part, rest) ← readNegatedClass rest
      readParts fuel ({ scan with previous := some ']' }.push part) rest
    | '\x7b' =>
      readParts fuel
        { scan with groups := scan.branches.length :: scan.groups
                    branches := [] :: scan.branches } rest
    | '\x7d' => do readParts fuel (← scan.closeGroup) rest
    | ',' =>
      if scan.groups.isEmpty then readParts fuel (scan.push (.literal ',')) rest
      else readParts fuel { scan with branches := [] :: scan.branches } rest
    | '\\' =>
      match rest with
      | [] => .error .danglingEscape
      | d :: rest => readParts fuel ({ scan with previous := some d }.push (.literal d)) rest
    | c => readParts fuel (scan.push (.literal c)) rest

/-- Reads a pattern. -/
def parse (pattern : String) : Except PatternError (List Part) := do
  let scan ← readParts (pattern.length + 1) {} pattern.toList
  match scan.branches with
  | [branch] => return branch.reverse
  | _ => .error .unclosedGroup

/-! ## Matching -/

/-- The rests that remain when a text starts with the given bytes. -/
def after : List UInt8 → List UInt8 → List (List UInt8)
  | [], text => [text]
  | _ :: _, [] => []
  | b :: bytes, c :: text => if b = c then after bytes text else []

/-- All rests of a text, the text itself first. -/
def suffixes : List UInt8 → List (List UInt8)
  | [] => [[]]
  | b :: text => (b :: text) :: suffixes text

/-- All rests of a text behind a separator. -/
def afterSeparators (text : List UInt8) : List (List UInt8) :=
  (suffixes text).filterMap fun
    | b :: rest => if b = 47 then some rest else none
    | [] => none

/-- The bytes of a character. -/
def charBytes (c : Char) : List UInt8 :=
  (String.ofList [c]).toUTF8.toList

/-- Whether a byte belongs to a range of characters: it is one of their bytes, or lies between the
last byte of the first and the first byte of the last. -/
def inByteRange (byte : UInt8) : Char × Char → Bool
  | (low, high) =>
    let lows := charBytes low
    let highs := charBytes high
    if low = high then lows.contains byte
    else lows.dropLast.contains byte || highs.tail.contains byte
      || (lows.getLast?.any (· ≤ byte) && highs.head?.any (byte ≤ ·))

mutual

/-- Whether a part leaves no trace: a group whose branches are all empty. -/
def Part.isVoid : Part → Bool
  | .alternatives branches => allVoid branches
  | _ => false

/-- Whether all parts of a branch leave no trace. -/
def isVoidBranch : List Part → Bool
  | [] => true
  | part :: parts => Part.isVoid part && isVoidBranch parts

/-- Whether all branches are empty. -/
def allVoid : List (List Part) → Bool
  | [] => true
  | branch :: branches => isVoidBranch branch && allVoid branches

end

mutual

/-- The rests of a text behind a part that matches at its start. Empty branches of a group do not
count, and a group of only such branches matches nothing. -/
def Part.rests : Part → List UInt8 → List (List UInt8)
  | .literal c, text => after (charBytes c) text
  | .any, text => match text with
    | [] => []
    | _ :: rest => [rest]
  | .zeroOrMore, text => suffixes text
  | .leading, text => text :: afterSeparators text
  | .trailing, text => match text with
    | b :: rest => if b = 47 then suffixes rest else []
    | [] => []
  | .between, text => match text with
    | b :: rest => if b = 47 then rest :: afterSeparators rest else []
    | [] => []
  | .oneOf negated ranges, text => match text with
    | b :: rest => if ranges.any (inByteRange b) != negated then [rest] else []
    | [] => []
  | .alternatives branches, text =>
    if allVoid branches then [text] else restsOfBranches branches text

/-- The rests behind all parts of a branch. -/
def restsOfParts : List Part → List (List UInt8) → List (List UInt8)
  | [], texts => texts
  | part :: parts, texts => restsOfParts parts (texts.flatMap (Part.rests part)).eraseDups

/-- The rests behind one of several branches. -/
def restsOfBranches : List (List Part) → List UInt8 → List (List UInt8)
  | [], _ => []
  | branch :: branches, text =>
    (if isVoidBranch branch then [] else restsOfParts branch [text])
      ++ restsOfBranches branches text

end

/-- Whether a pattern matches a whole path. A pattern of two stars alone matches every path. -/
def matchesPath (parts : List Part) (path : String) : Bool :=
  match parts with
  | [.leading] => true
  | _ => (restsOfParts parts [path.toUTF8.toList]).contains []

/-- Whether a text is a pattern that matches a path. -/
def isMatch (pattern path : String) : Bool :=
  match parse pattern with
  | .ok parts => matchesPath parts path
  | .error _ => false

end ModLint.Glob
