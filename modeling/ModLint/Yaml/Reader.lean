import ModLint.Yaml.Token

/-!
# Reading YAML

The tokens of a text follow a small grammar: a node is a scalar, a flow collection or a block
collection, and a missing node is an empty plain scalar. A text holds one document.
-/

namespace ModLint.Yaml.Reader

/-- A node and the tokens behind it. -/
abbrev Parsed := Option (Datum × List Token)

/-- The node that stands for nothing. -/
def empty : Datum :=
  .plain ""

/-- Whether a node is missing in a block collection: the next token belongs to the collection. -/
def missingInBlock : List Token → Bool
  | .key :: _ | .value :: _ | .blockEnd :: _ => true
  | _ => false

/-- Whether a node is missing in a flow collection. -/
def missingInFlow : List Token → Bool
  | .value :: _ | .comma :: _ | .flowSequenceEnd :: _ | .flowMappingEnd :: _ => true
  | _ => false

mutual

/-- Reads a node. Inside block collections (`block`) further ones may start; where a sequence may
keep the indentation of the mapping around it (`loose`), a dash starts one. -/
def node : Nat → Bool → Bool → List Token → Parsed
  | 0, _, _, _ => none
  | fuel + 1, block, loose, tokens =>
    match tokens with
    | .scalar datum :: rest => some (datum, rest)
    | .flowSequence :: rest => flowItems fuel true [] rest
    | .flowMapping :: rest => flowEntries fuel true [] rest
    | .entry :: rest => if loose then looseItems fuel [] (.entry :: rest) else none
    | .blockSequence :: rest => if block then blockItems fuel [] rest else none
    | .blockMapping :: rest => if block then blockEntries fuel [] rest else none
    | _ => none

/-- Reads the items of a block sequence; `items` are those so far, last one first. -/
def blockItems : Nat → List Datum → List Token → Parsed
  | 0, _, _ => none
  | fuel + 1, items, tokens =>
    match tokens with
    | .entry :: .entry :: rest => blockItems fuel (empty :: items) (.entry :: rest)
    | .entry :: .blockEnd :: rest => some (.list (empty :: items).reverse, rest)
    | .entry :: rest => do
      let (item, rest) ← node fuel true false rest
      blockItems fuel (item :: items) rest
    | .blockEnd :: rest => some (.list items.reverse, rest)
    | _ => none

/-- Reads the items of a block sequence that keeps the indentation of the mapping around it. -/
def looseItems : Nat → List Datum → List Token → Parsed
  | 0, _, _ => none
  | fuel + 1, items, tokens =>
    match tokens with
    | .entry :: .entry :: rest => looseItems fuel (empty :: items) (.entry :: rest)
    | .entry :: rest =>
      if missingInBlock rest then some (.list (empty :: items).reverse, rest)
      else do
        let (item, rest) ← node fuel true false rest
        looseItems fuel (item :: items) rest
    | rest => some (.list items.reverse, rest)

/-- Reads the entries of a block mapping. -/
def blockEntries : Nat → List (Datum × Datum) → List Token → Parsed
  | 0, _, _ => none
  | fuel + 1, entries, tokens =>
    match tokens with
    | .key :: rest => do
      let (key, rest) ←
        if missingInBlock rest then some (empty, rest) else node fuel true true rest
      let (value, rest) ←
        match rest with
        | .value :: rest =>
          if missingInBlock rest then some (empty, rest) else node fuel true true rest
        | rest => some (empty, rest)
      blockEntries fuel ((key, value) :: entries) rest
    | .blockEnd :: rest => some (.fields entries.reverse, rest)
    | _ => none

/-- Reads the items of a flow sequence. A key inside it makes a mapping of one entry. -/
def flowItems : Nat → Bool → List Datum → List Token → Parsed
  | 0, _, _, _ => none
  | fuel + 1, first, items, tokens =>
    match tokens with
    | .flowSequenceEnd :: rest => some (.list items.reverse, rest)
    | tokens => do
      let tokens ←
        match first, tokens with
        | true, tokens => some tokens
        | false, .comma :: rest => some rest
        | false, _ => none
      match tokens with
      | .flowSequenceEnd :: rest => some (.list items.reverse, rest)
      | .key :: rest => do
        let (key, rest) ←
          if missingInFlow rest then some (empty, rest) else node fuel false false rest
        let (value, rest) ← flowValue fuel rest
        flowItems fuel false (.fields [(key, value)] :: items) rest
      | tokens => do
        let (item, rest) ← node fuel false false tokens
        flowItems fuel false (item :: items) rest

/-- Reads the value behind a key in a flow collection. -/
def flowValue : Nat → List Token → Parsed
  | 0, _ => none
  | fuel + 1, tokens =>
    match tokens with
    | .value :: rest =>
      match rest with
      | .comma :: _ | .flowSequenceEnd :: _ | .flowMappingEnd :: _ => some (empty, rest)
      | _ => node fuel false false rest
    | rest => some (empty, rest)

/-- Reads the entries of a flow mapping. A node without a colon is a key without a value. -/
def flowEntries : Nat → Bool → List (Datum × Datum) → List Token → Parsed
  | 0, _, _, _ => none
  | fuel + 1, first, entries, tokens =>
    match tokens with
    | .flowMappingEnd :: rest => some (.fields entries.reverse, rest)
    | tokens => do
      let tokens ←
        match first, tokens with
        | true, tokens => some tokens
        | false, .comma :: rest => some rest
        | false, _ => none
      match tokens with
      | .flowMappingEnd :: rest => some (.fields entries.reverse, rest)
      | .key :: rest => do
        let (key, rest) ←
          if missingInFlow rest then some (empty, rest) else node fuel false false rest
        let (value, rest) ← flowValue fuel rest
        flowEntries fuel false ((key, value) :: entries) rest
      | tokens => do
        let (key, rest) ← node fuel false false tokens
        flowEntries fuel false ((key, empty) :: entries) rest

end

/-- Reads the one document of a text. -/
def document (tokens : List Token) : Option Datum := do
  let fuel := 2 * tokens.length + 2
  let (datum, rest) ←
    match dropEnds tokens with
    | [] => some (empty, [])
    | .documentStart :: rest =>
      match rest with
      | [] | .documentStart :: _ | .documentEnd :: _ => some (empty, rest)
      | _ => node fuel true false rest
    | tokens => node fuel true false tokens
  if (dropEnds rest).isEmpty then some datum else none
where
  /-- Drops the marks that close a document. -/
  dropEnds : List Token → List Token
    | .documentEnd :: rest => dropEnds rest
    | tokens => tokens

end ModLint.Yaml.Reader

namespace ModLint

/-- Reads a YAML text. A text without a document is an empty plain scalar. -/
def Datum.ofYaml? (text : String) : Option Datum := do
  Yaml.Reader.document (← Yaml.tokens? text)

end ModLint
