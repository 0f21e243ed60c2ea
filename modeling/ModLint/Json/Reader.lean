import ModLint.Datum

/-!
# Reading JSON

The reader is a machine that takes one character at a time. It keeps the containers that are still
open on a stack of frames, so that the depth of a document costs no recursion; `Datum.ofJson?` runs
it over a whole text. The grammar is strict: no comments, no trailing commas, no leading zeros, no
raw control characters in strings, nothing but blanks after the document.
-/

namespace ModLint.Json.Reader

/-- What of a number has been read. -/
inductive NumberPart where
  /-- The minus sign: a digit must follow. -/
  | sign
  /-- A leading zero: no digit may follow. -/
  | zero
  /-- Digits before the point. -/
  | whole
  /-- The point: a digit must follow. -/
  | point
  /-- Digits behind the point. -/
  | fraction
  /-- The exponent mark: a sign or a digit must follow. -/
  | mark
  /-- The sign of the exponent: a digit must follow. -/
  | markSign
  /-- Digits of the exponent. -/
  | exponent
deriving DecidableEq

/-- A number that is being read. -/
structure NumberScan where
  /-- The part read last. -/
  part : NumberPart
  /-- Whether a minus sign stands in front. -/
  negative : Bool := false
  /-- All digits before the exponent, as one number. -/
  significand : Nat := 0
  /-- How many digits the significand has. -/
  digits : Nat := 0
  /-- How many of them stand behind the point. -/
  places : Nat := 0
  /-- Whether the exponent has a minus sign. -/
  exponentNegative : Bool := false
  /-- The exponent. -/
  exponent : Nat := 0

/-- The value of a decimal digit. -/
def digit? (c : Char) : Option Nat :=
  if '0' ≤ c ∧ c ≤ '9' then some (c.toNat - 48) else none

/-- Appends a digit to the significand. -/
def NumberScan.addDigit (scan : NumberScan) (part : NumberPart) (d : Nat) : NumberScan :=
  { scan with part, significand := scan.significand * 10 + d, digits := scan.digits + 1 }

/-- Reads one more character of a number; `none` if the character does not belong to it. -/
def NumberScan.step? (scan : NumberScan) (c : Char) : Option NumberScan :=
  match scan.part, digit? c with
  | .sign, some d => some (scan.addDigit (if d = 0 then .zero else .whole) d)
  | .whole, some d => some (scan.addDigit .whole d)
  | .point, some d | .fraction, some d =>
    some { scan.addDigit .fraction d with places := scan.places + 1 }
  | .mark, some d | .markSign, some d | .exponent, some d =>
    some { scan with part := .exponent, exponent := scan.exponent * 10 + d }
  | .zero, none | .whole, none =>
    if c = '.' then some { scan with part := .point }
    else if c = 'e' ∨ c = 'E' then some { scan with part := .mark }
    else none
  | .fraction, none =>
    if c = 'e' ∨ c = 'E' then some { scan with part := .mark } else none
  | .mark, none =>
    if c = '+' then some { scan with part := .markSign }
    else if c = '-' then some { scan with part := .markSign, exponentNegative := true }
    else none
  | _, _ => none

/-- The number, if it may end here. -/
def NumberScan.finish? (scan : NumberScan) : Option Numeral :=
  let other : Numeral :=
    let exponent : Int := if scan.exponentNegative then -scan.exponent else scan.exponent
    .other (Numeral.fits scan.significand scan.digits (exponent - scan.places))
  match scan.part with
  | .zero | .whole => some (if scan.negative then other else .natural scan.significand)
  | .fraction | .exponent => some other
  | _ => none

/-- What of a string has been read. -/
inductive StringPart where
  /-- Ordinary characters. -/
  | body
  /-- A backslash. -/
  | escape
  /-- A backslash and `u`; `left` more hexadecimal digits are due after those in `value`. -/
  | code (left value : Nat)

/-- A string that is being read. -/
structure StringScan where
  /-- The part read last. -/
  part : StringPart := .body
  /-- The characters so far, last one first. -/
  chars : List Char := []
  /-- The first half of a surrogate pair that waits for the second. -/
  pending : Option Nat := none
  /-- Whether half a surrogate pair was left alone. -/
  broken : Bool := false

/-- Appends a character. -/
def StringScan.push (scan : StringScan) (c : Char) : StringScan :=
  { part := .body, chars := c :: scan.chars, pending := none,
    broken := scan.broken || scan.pending.isSome }

/-- Appends a code unit of UTF-16, joining the two halves of a surrogate pair. -/
def StringScan.pushUnit (scan : StringScan) (unit : Nat) : StringScan :=
  if 0xD800 ≤ unit ∧ unit ≤ 0xDBFF then
    { scan with part := .body, pending := some unit, broken := scan.broken || scan.pending.isSome }
  else if 0xDC00 ≤ unit ∧ unit ≤ 0xDFFF then
    match scan.pending with
    | some high =>
      { scan with
        part := .body, pending := none
        chars := Char.ofNat (0x10000 + (high - 0xD800) * 0x400 + (unit - 0xDC00)) :: scan.chars }
    | none => { scan with part := .body, broken := true }
  else scan.push (Char.ofNat unit)

/-- The value of a hexadecimal digit. -/
def hexValue? (c : Char) : Option Nat :=
  if '0' ≤ c ∧ c ≤ '9' then some (c.toNat - 48)
  else if 'a' ≤ c ∧ c ≤ 'f' then some (c.toNat - 87)
  else if 'A' ≤ c ∧ c ≤ 'F' then some (c.toNat - 55)
  else none

/-- The character that a backslash and a letter stand for. -/
def escapeValue? (c : Char) : Option Char :=
  match c with
  | '"' => some '"'
  | '\\' => some '\\'
  | '/' => some '/'
  | 'b' => some '\x08'
  | 'f' => some '\x0c'
  | 'n' => some '\n'
  | 'r' => some '\r'
  | 't' => some '\t'
  | _ => none

/-- Reads one more character of a string; the closing quote is not for this function. -/
def StringScan.step? (scan : StringScan) (c : Char) : Option StringScan :=
  match scan.part with
  | .body =>
    if c = '\\' then some { scan with part := .escape }
    else if c.toNat < 32 then none
    else some (scan.push c)
  | .escape =>
    if c = 'u' then some { scan with part := .code 3 0 }
    else (escapeValue? c).map scan.push
  | .code 0 value => (hexValue? c).map fun h => scan.pushUnit (value * 16 + h)
  | .code (left + 1) value =>
    (hexValue? c).map fun h => { scan with part := .code left (value * 16 + h) }

/-- The string, once the closing quote has been read. -/
def StringScan.finish (scan : StringScan) : Datum :=
  if scan.broken || scan.pending.isSome then .brokenText
  else .text (String.ofList scan.chars.reverse)

/-- A container that is still open. -/
inductive Frame where
  /-- An array; its items so far, last one first. -/
  | list (items : List Datum)
  /-- An object that waits for a key or for its end; its entries so far, last one first. -/
  | fields (entries : List (Datum × Datum))
  /-- An object whose key has been read and whose value is due. -/
  | entry (entries : List (Datum × Datum)) (key : Datum)

/-- What may come next. -/
inductive Mode where
  /-- A value. -/
  | value
  /-- The first item of an array, or its end. -/
  | firstItem
  /-- The first key of an object, or its end. -/
  | firstKey
  /-- The next key of an object. -/
  | key
  /-- The colon behind a key. -/
  | colon
  /-- A comma or the end of the innermost container. -/
  | after
  /-- The rest of one of the words `true`, `false` and `null`. -/
  | word (left : List Char) (value : Datum)
  /-- The rest of a number. -/
  | number (scan : NumberScan)
  /-- The rest of a string. -/
  | string (scan : StringScan)
  /-- Nothing but blanks: the document is complete. -/
  | done (value : Datum)

/-- A state of the reader. -/
structure State where
  /-- The open containers, innermost first. -/
  frames : List Frame
  /-- What may come next. -/
  mode : Mode

/-- The state before the first character. -/
def State.start : State :=
  ⟨[], .value⟩

/-- Blanks between the parts of a document. -/
def isSpace (c : Char) : Bool :=
  c == ' ' || c == '\n' || c == '\t' || c == '\r'

/-- Hands a complete value to the innermost container. -/
def deliver : List Frame → Datum → State
  | [], value => ⟨[], .done value⟩
  | .list items :: frames, value => ⟨.list (value :: items) :: frames, .after⟩
  | .fields entries :: frames, key => ⟨.entry entries key :: frames, .colon⟩
  | .entry entries key :: frames, value => ⟨.fields ((key, value) :: entries) :: frames, .after⟩

/-- Reads the first character of a value. -/
def startValue? (frames : List Frame) (c : Char) : Option State :=
  match c with
  | '"' => some ⟨frames, .string {}⟩
  | '[' => some ⟨.list [] :: frames, .firstItem⟩
  | '\x7b' => some ⟨.fields [] :: frames, .firstKey⟩
  | 't' => some ⟨frames, .word ['r', 'u', 'e'] (.bool true)⟩
  | 'f' => some ⟨frames, .word ['a', 'l', 's', 'e'] (.bool false)⟩
  | 'n' => some ⟨frames, .word ['u', 'l', 'l'] .null⟩
  | '-' => some ⟨frames, .number { part := .sign, negative := true }⟩
  | _ => (NumberScan.step? { part := .sign } c).map fun scan => ⟨frames, .number scan⟩

/-- Closes the innermost container if `c` is its closing bracket. -/
def close? (frames : List Frame) (c : Char) : Option State :=
  match c, frames with
  | ']', .list items :: frames => some (deliver frames (.list items.reverse))
  | '\x7d', .fields entries :: frames => some (deliver frames (.fields entries.reverse))
  | _, _ => none

/-- Reads a character behind a complete value. -/
def afterValue? (state : State) (c : Char) : Option State :=
  if isSpace c then some state
  else
    match state.mode, state.frames with
    | .after, .list _ :: _ =>
      if c = ',' then some ⟨state.frames, .value⟩ else close? state.frames c
    | .after, .fields _ :: _ =>
      if c = ',' then some ⟨state.frames, .key⟩ else close? state.frames c
    | _, _ => none

/-- Reads one character; `none` if the text is not JSON. -/
def step (state : State) (c : Char) : Option State :=
  match state.mode with
  | .value => if isSpace c then some state else startValue? state.frames c
  | .firstItem =>
    if isSpace c then some state
    else if c = ']' then close? state.frames c
    else startValue? state.frames c
  | .firstKey =>
    if isSpace c then some state
    else if c = '"' then some ⟨state.frames, .string {}⟩
    else close? state.frames c
  | .key =>
    if isSpace c then some state
    else if c = '"' then some ⟨state.frames, .string {}⟩
    else none
  | .colon =>
    if isSpace c then some state
    else if c = ':' then some ⟨state.frames, .value⟩
    else none
  | .after | .done _ => afterValue? state c
  | .word left value =>
    match left with
    | [] => none
    | [last] => if c = last then some (deliver state.frames value) else none
    | next :: left => if c = next then some ⟨state.frames, .word left value⟩ else none
  | .number scan =>
    match scan.step? c with
    | some scan => some ⟨state.frames, .number scan⟩
    | none => do
      let numeral ← scan.finish?
      afterValue? (deliver state.frames (.number numeral)) c
  | .string scan =>
    match scan.part with
    | .body =>
      if c = '"' then some (deliver state.frames scan.finish)
      else (scan.step? c).map fun scan => ⟨state.frames, .string scan⟩
    | _ => (scan.step? c).map fun scan => ⟨state.frames, .string scan⟩

/-- The document, if the text may end here. -/
def finish? (state : State) : Option Datum :=
  match state.frames, state.mode with
  | [], .done value => some value
  | [], .number scan => scan.finish?.map .number
  | _, _ => none

end ModLint.Json.Reader

namespace ModLint

/-- Reads a JSON text. -/
def Datum.ofJson? (text : String) : Option Datum := do
  let state ← text.toList.foldlM Json.Reader.step Json.Reader.State.start
  Json.Reader.finish? state

end ModLint
