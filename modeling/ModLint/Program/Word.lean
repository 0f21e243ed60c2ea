import ModLint.Program.Item

/-!
# Machine words

Offsets, lines and columns are held in machine words. What becomes of a sum that does not fit is
decided when the program is built: a build with checks stops, one without them goes on with the sum
modulo the size of a word.
-/

namespace ModLint

/-- What becomes of a number that does not fit a machine word. -/
inductive Overflow where
  /-- It is taken modulo the size of a word. -/
  | wraps
  /-- The program stops. -/
  | stops
deriving DecidableEq

namespace Word

/-- The numbers that a word holds are below its size. -/
def size : Nat :=
  Nat.pow 2 64

/-- The sum of two words. -/
def add (overflow : Overflow) (a b : Nat) : Lookup Nat :=
  match overflow with
  | .wraps => return (a + b) % size
  | .stops => if a + b < size then return a + b else throw .overflow

/-- The difference of two words. -/
def sub (overflow : Overflow) (a b : Nat) : Lookup Nat :=
  match overflow with
  | .wraps => return (a + (size - b)) % size
  | .stops => if b ≤ a then return a - b else throw .overflow

end Word

end ModLint
