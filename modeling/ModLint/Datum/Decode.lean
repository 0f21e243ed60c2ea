import ModLint.Datum
import ModLint.Yaml.Plain

/-!
# From data to typed values

A `Decoder` turns a datum into a value of a type, or refuses it. The decoders here know how a
record, a list, an optional value, an enumeration and a tagged union are written; the types of the
library build theirs from them.

Two rules depend on where the datum comes from and travel with it as `Rules`: whether a record may
also be written as the list of its fields, and how many more containers may be opened.
-/

namespace ModLint

/-- The rules under which a datum is read. -/
structure Rules where
  /-- Whether a record may be written as the list of its fields, and an enumeration as an object
  with one member. -/
  positional : Bool
  /-- How many more containers may be opened inside each other. -/
  room : Nat

/-- The rules for JSON. -/
def Rules.json : Rules :=
  { positional := true, room := 127 }

/-- The rules for YAML. -/
def Rules.yaml : Rules :=
  { positional := false, room := 128 }

/-- The rules inside a container, if it may be opened. -/
def Rules.enter (rules : Rules) : Option Rules :=
  match rules.room with
  | 0 => none
  | room + 1 => some { rules with room }

/-- A way to read values of a type. -/
abbrev Decoder (α : Type) := Rules → Datum → Option α

namespace Datum

/-- The text of a string; a plain scalar is taken as written. -/
def text? : Datum → Option String
  | .text s => some s
  | .plain s => some s
  | _ => none

/-- Whether a datum stands for nothing. -/
def isNull : Datum → Bool
  | .null => true
  | .plain s => Yaml.Plain.isNull s
  | _ => false

/-- The meaning of a plain scalar of which nothing is known. A whole number that needs more than
64 and at most 128 bits has none. -/
def ofPlain (s : String) : Option Datum :=
  if Yaml.Plain.isNull s then some .null
  else
    match Yaml.Plain.bool? s, Yaml.Plain.natural? s with
    | some b, _ => some (.bool b)
    | none, some n =>
      if n < Nat.pow 2 64 then some (.number (.natural n))
      else if n < Nat.pow 2 128 then none
      else some (.number (.other true))
    | none, none =>
      if Yaml.Plain.isNegative s || Yaml.Plain.isFloat s then some (.number (.other true))
      else some (.text s)

mutual

/-- Reads a datum to the end before its type is known: every plain scalar gets its meaning, every
string must be a text, every number must fit a double and at most `room` containers may be open at
a time. -/
def settle (room : Nat) : Datum → Option Datum
  | .null => some .null
  | .bool b => some (.bool b)
  | .number (.natural n) => if n < Numeral.overflow then some (.number (.natural n)) else none
  | .number (.other finite) => if finite then some (.number (.other true)) else none
  | .text s => some (.text s)
  | .brokenText => none
  | .plain s => ofPlain s
  | .list items =>
    match room with
    | 0 => none
    | room + 1 => (settleItems room items).map .list
  | .fields entries =>
    match room with
    | 0 => none
    | room + 1 => (settleEntries room entries).map .fields

/-- Settles the items of a list. -/
def settleItems (room : Nat) : List Datum → Option (List Datum)
  | [] => some []
  | item :: items => do
    let item ← settle room item
    let items ← settleItems room items
    return item :: items

/-- Settles the keys and values of a mapping. -/
def settleEntries (room : Nat) : List (Datum × Datum) → Option (List (Datum × Datum))
  | [] => some []
  | (key, value) :: entries => do
    let key ← settle room key
    let value ← settle room value
    let entries ← settleEntries room entries
    return (key, value) :: entries

end

end Datum

namespace Decoder

/-- A string. -/
def string : Decoder String :=
  fun _ datum => datum.text?

/-- A natural number below a bound. -/
def natBelow (bound : Nat) : Decoder Nat :=
  fun _ datum =>
    match datum with
    | .number (.natural n) => if n < bound then some n else none
    | .plain s => do
      let n ← Yaml.Plain.natural? s
      if n < bound then return n else none
    | _ => none

/-- A natural number of 64 bits. -/
def nat : Decoder Nat :=
  natBelow (Nat.pow 2 64)

/-- A truth value. -/
def bool : Decoder Bool :=
  fun _ datum =>
    match datum with
    | .bool b => some b
    | .plain s => Yaml.Plain.bool? s
    | _ => none

/-- A value or nothing. -/
def option {α : Type} (decode : Decoder α) : Decoder (Option α) :=
  fun rules datum => if datum.isNull then some none else (decode rules datum).map some

/-- A list; an empty plain scalar is an empty one. -/
def list {α : Type} (decode : Decoder α) : Decoder (List α) :=
  fun rules datum =>
    match datum with
    | .list items => do
      let rules ← rules.enter
      items.mapM (decode rules)
    | .plain s => if s == "" then some [] else none
    | _ => none

/-- An array. -/
def array {α : Type} (decode : Decoder α) : Decoder (Array α) :=
  fun rules datum => (list decode rules datum).map List.toArray

/-- A mapping from strings, in the order of the text and with all repetitions. -/
def mapping {α : Type} (decode : Decoder α) : Decoder (List (String × α)) :=
  fun rules datum =>
    match datum with
    | .fields entries => do
      let rules ← rules.enter
      entries.mapM fun (key, value) => do
        return (← key.text?, ← decode rules value)
    | .plain s => if s == "" then some [] else none
    | _ => none

/-- One of several named cases. -/
def oneOf {α : Type} (cases : List (String × α)) : Decoder α :=
  fun rules datum =>
    match datum with
    | .text s => cases.lookup s
    | .plain s => cases.lookup s
    | .fields [(key, .null)] => do
      let _ ← if rules.positional then rules.enter else none
      cases.lookup (← key.text?)
    | _ => none

end Decoder

/-- The fields of a record as they were found. -/
structure Record where
  /-- The rules for the values of the fields. -/
  rules : Rules
  /-- The values found, by field name. -/
  entries : List (String × Datum)

namespace Record

/-- The entries of a mapping whose keys are among the given names; other keys are ignored. A key
that is no text is refused, and so is a second entry for a name. -/
def known (names : List String) : List (Datum × Datum) → Option (List (String × Datum))
  | [] => some []
  | (key, value) :: rest => do
    let key ← key.text?
    let found ← known names rest
    if names.contains key then
      if (found.lookup key).isSome then none else return (key, value) :: found
    else return found

/-- Reads a record with the given field names: a mapping, a list of its fields in order from which
the last ones may be missing, or an empty plain scalar for a record without entries. -/
def read (names : List String) : Decoder Record :=
  fun rules datum =>
    match datum with
    | .fields entries => do
      let rules ← rules.enter
      return { rules, entries := ← known names entries }
    | .list items =>
      if rules.positional && items.length ≤ names.length then do
        let rules ← rules.enter
        return { rules, entries := names.zip items }
      else none
    | .plain s => if s == "" then some { rules, entries := [] } else none
    | _ => none

/-- The value found for a field. -/
def find? (fields : Record) (name : String) : Option Datum :=
  fields.entries.lookup name

/-- A field that must be there. -/
def required {α : Type} (fields : Record) (name : String) (decode : Decoder α) : Option α := do
  decode fields.rules (← fields.find? name)

/-- A field with a value to take if it is missing. -/
def getD {α : Type} (fields : Record) (name : String) (decode : Decoder α) (default : α) :
    Option α :=
  match fields.find? name with
  | none => some default
  | some datum => decode fields.rules datum

/-- A field that may be missing or stand for nothing. -/
def optional {α : Type} (fields : Record) (name : String) (decode : Decoder α) :
    Option (Option α) :=
  fields.getD name decode.option none

end Record

/-- A tagged union, written as a record of the tag and the content. If the content comes before the
tag, it is settled before the tag tells how to read it. -/
def Decoder.tagged {α β : Type} (tag content : String) (cases : List (String × α))
    (decode : α → Decoder β) : Decoder β :=
  fun rules datum =>
    match datum with
    | .fields entries => do
      let rules ← rules.enter
      let relevant ← entries.filterMapM fun (key, value) => do
        let key ← key.text?
        return if key == tag || key == content then some (key == tag, value) else none
      match relevant with
      | [(true, tagValue), (false, contentValue)] =>
        decode (← oneOf cases rules tagValue) rules contentValue
      | [(false, contentValue), (true, tagValue)] =>
        let contentValue ← contentValue.settle rules.room
        decode (← oneOf cases rules tagValue) { rules with positional := true } contentValue
      | _ => none
    | .list [tagValue, contentValue] =>
      if rules.positional then do
        let rules ← rules.enter
        decode (← oneOf cases rules tagValue) rules contentValue
      else none
    | _ => none

end ModLint
