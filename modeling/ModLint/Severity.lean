import ModLint.Datum.Decode
import ModLint.Json.Basic

/-!
# Severities
-/

namespace ModLint

/-- How bad a diagnostic is. -/
inductive Severity where
  /-- An error. -/
  | error
  /-- A warning. -/
  | warning
  /-- A remark. -/
  | info
deriving DecidableEq

namespace Severity

/-- All severities, the worst first. -/
def all : List Severity :=
  [.error, .warning, .info]

/-- The weight of a severity; more is worse. -/
def rank : Severity → Nat
  | .error => 3
  | .warning => 2
  | .info => 1

/-- Whether a severity is at least as bad as a threshold (`at_least`). -/
def atLeast (severity threshold : Severity) : Bool :=
  threshold.rank ≤ severity.rank

/-- The word for a severity. -/
def word : Severity → String
  | .error => "error"
  | .warning => "warning"
  | .info => "info"

/-- A letter in lower case. Outside of ASCII no letter has a lower case form that occurs in the
words for severities, so those letters may stay as they are. -/
def lower (c : Char) : Char :=
  if 'A' ≤ c ∧ c ≤ 'Z' then Char.ofNat (c.toNat + 32) else c

/-- The severity that a text names, in letters of either case (`from_str`). -/
def parse? (text : String) : Option Severity :=
  let lowered := String.ofList (text.toList.map lower)
  all.find? fun severity => severity.word == lowered

/-- The message for a text that names no severity. -/
def unknown (text : String) : String :=
  "unknown severity: " ++ text

/-- A severity as a string. -/
def toJson (severity : Severity) : Json :=
  .str severity.word

/-- A severity by its word. -/
def decode : Decoder Severity :=
  Decoder.oneOf (all.map fun severity => (severity.word, severity))

end Severity

end ModLint
