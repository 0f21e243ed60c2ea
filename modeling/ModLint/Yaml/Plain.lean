/-!
# Meanings of plain YAML scalars

An unquoted scalar is a text, but where a number, a truth value or nothing is expected, or where
nothing is known about the expected type, it is read by the rules below.
-/

namespace ModLint.Yaml.Plain

/-- Whether a scalar stands for nothing. -/
def isNull (s : String) : Bool :=
  s == "" || s == "~" || s == "null" || s == "Null" || s == "NULL"

/-- The truth value that a scalar stands for. -/
def bool? (s : String) : Option Bool :=
  if s == "true" || s == "True" || s == "TRUE" then some true
  else if s == "false" || s == "False" || s == "FALSE" then some false
  else none

/-- The value of a digit in bases up to sixteen. -/
def digitValue? (c : Char) : Option Nat :=
  if '0' ≤ c ∧ c ≤ '9' then some (c.toNat - 48)
  else if 'a' ≤ c ∧ c ≤ 'f' then some (c.toNat - 87)
  else if 'A' ≤ c ∧ c ≤ 'F' then some (c.toNat - 55)
  else none

/-- The value of a non-empty run of digits of a base. -/
def digits? (base : Nat) : List Char → Option Nat
  | [] => none
  | cs =>
    cs.foldlM
      (fun value c =>
        match digitValue? c with
        | some d => if d < base then some (value * base + d) else none
        | none => none)
      0

/-- Drops a plus sign. -/
def unsigned : List Char → List Char
  | '+' :: cs => cs
  | cs => cs

/-- Whether a run of digits starts with a zero that does not belong there: such a scalar is no
number. -/
def hasLeadingZero (cs : List Char) : Bool :=
  let cs := match cs with
    | '-' :: rest => rest
    | '+' :: rest => rest
    | cs => cs
  match cs with
  | '0' :: rest => !rest.isEmpty && rest.all Char.isDigit
  | _ => false

/-- The natural number that a scalar stands for, in decimal or behind `0x`, `0o` or `0b`. -/
def natural? (s : String) : Option Nat :=
  let cs := s.toList
  let body := unsigned cs
  let based :=
    match body with
    | '0' :: 'x' :: rest => digits? 16 rest
    | '0' :: 'o' :: rest => digits? 8 rest
    | '0' :: 'b' :: rest => digits? 2 rest
    | _ => none
  match based with
  | some n => some n
  | none => if hasLeadingZero cs then none else digits? 10 body

/-- Whether a scalar is a negative whole number. -/
def isNegative (s : String) : Bool :=
  match s.toList with
  | '-' :: rest =>
    match rest with
    | '0' :: 'x' :: rest => (digits? 16 rest).isSome
    | '0' :: 'o' :: rest => (digits? 8 rest).isSome
    | '0' :: 'b' :: rest => (digits? 2 rest).isSome
    | _ => !hasLeadingZero s.toList && (digits? 10 rest).isSome
  | _ => false

/-- Whether a text is a decimal number with a point or an exponent, or one of the words for
infinity and for no number. -/
def isFloat (s : String) : Bool :=
  let cs := s.toList
  let body := match cs with
    | '-' :: rest => rest
    | '+' :: rest => rest
    | cs => cs
  let whole := body.takeWhile Char.isDigit
  let rest := body.drop whole.length
  let (fraction, rest) :=
    match rest with
    | '.' :: rest => (rest.takeWhile Char.isDigit, rest.dropWhile Char.isDigit)
    | rest => ([], rest)
  let exponent :=
    match rest with
    | [] => true
    | c :: rest =>
      (c == 'e' || c == 'E') &&
        match rest with
        | '+' :: digits => !digits.isEmpty && digits.all Char.isDigit
        | '-' :: digits => !digits.isEmpty && digits.all Char.isDigit
        | digits => !digits.isEmpty && digits.all Char.isDigit
  let infinite := [".inf", ".Inf", ".INF"].contains (String.ofList body)
  let undefined := [".nan", ".NaN", ".NAN"].contains s
  !hasLeadingZero cs &&
    (infinite || undefined || (!(whole.isEmpty && fraction.isEmpty) && exponent))

end ModLint.Yaml.Plain
