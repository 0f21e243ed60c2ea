/-!
# Data read from a text

A `Datum` is what a JSON or YAML text says before anything is known about the types it is read
into. The two formats share it: a quoted string of either is `text`, while an unquoted YAML scalar
stays `plain`, since only the type it is read into decides whether `1.0` is a number or a text.
-/

namespace ModLint

/-- A number as written. -/
inductive Numeral where
  /-- A run of digits. -/
  | natural (value : Nat)
  /-- Any other number: negative, with a fraction or with an exponent. `finite` tells whether its
  value fits a double. -/
  | other (finite : Bool)

/-- A value read from a text. -/
inductive Datum where
  /-- The JSON word `null`. -/
  | null
  /-- A JSON truth value. -/
  | bool (value : Bool)
  /-- A JSON number. -/
  | number (value : Numeral)
  /-- A quoted string. -/
  | text (value : String)
  /-- A JSON string whose escapes leave half of a surrogate pair alone: it follows the grammar, so
  it may be skipped, but it is no text. -/
  | brokenText
  /-- An unquoted YAML scalar. -/
  | plain (value : String)
  /-- A sequence. -/
  | list (items : List Datum)
  /-- A mapping, in the order of the text and with all repetitions. -/
  | fields (entries : List (Datum × Datum))

/-- The least natural number that a double rounds to infinity. -/
def Numeral.overflow : Nat :=
  Nat.pow 2 1024 - Nat.pow 2 970

/-- Whether `significand * 10 ^ power` fits a double; `digits` bounds the digits of the
significand, so that powers far out of range need not be computed. -/
def Numeral.fits (significand digits : Nat) (power : Int) : Bool :=
  if significand = 0 then true
  else if power < 0 then
    decide (significand < overflow * Nat.pow 10 (min (-power).toNat digits))
  else if power > 400 then false
  else decide (significand * Nat.pow 10 power.toNat < overflow)

end ModLint
