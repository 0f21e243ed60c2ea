import ModLint.Fix.Edit
import ModLint.Program.Basic
import ModLint.Program.Word
import ModLint.Text.Blank

/-!
# Making a function static

The keyword is added to the modifiers of a method or an anonymous function, both in the program and
as an edit of the source: behind the last modifier that says who may use a method, else in front of
its first modifier; in front of an anonymous function. The function that the node declares becomes
static.
-/

namespace ModLint

/-- A program after a fix, and the edit that does the same to its source. -/
structure AppliedFix where
  /-- The program. -/
  program : Program
  /-- The edit. -/
  edit : TextEdit

namespace MakeStatic

/-- The keyword. -/
def keyword : String := "static"

/-- Whether modifiers already contain the keyword. -/
def isStatic (modifiers : List Modifier) : Bool :=
  modifiers.any fun modifier => modifier.is keyword

/-- How many modifiers there are up to the last one that says who may use a declaration. -/
def accessibilityLength : List Modifier → Nat
  | [] => 0
  | modifier :: modifiers =>
    match accessibilityLength modifiers with
    | 0 => if modifier.isAccessibility then 1 else 0
    | n + 1 => n + 2

/-- Where and how the keyword is put among the modifiers of a method: its place in their list and
the edit. Without modifiers the place in the source must be known. -/
def methodEdit (modifiers : List Modifier) (modifiersStart : Option Nat) :
    Option (Nat × TextEdit) :=
  let place := accessibilityLength modifiers
  match (modifiers.take place).getLast? with
  | some last => some (place, TextEdit.insert last.span.endByte " static")
  | none =>
    ((modifiers.head?.map fun first => first.span.startByte) <|> modifiersStart).map
      fun start => (0, TextEdit.insert start "static ")

/-- The modifier that an edit inserts into a node (`static_token`). Its line and column are those of
the node. -/
def modifierOf (overflow : Overflow) (edit : TextEdit) (node : Span) : Lookup Modifier := do
  let word := String.ofList (Text.trimStart edit.replacement.toList)
  let stop ← Word.add overflow edit.start edit.replacement.utf8ByteSize
  let start ← Word.sub overflow stop word.utf8ByteSize
  let endByte ← Word.add overflow start keyword.utf8ByteSize
  let endColumn ← Word.add overflow node.startColumn keyword.utf8ByteSize
  return {
    text := keyword
    span :=
      { startByte := start, endByte, startLine := node.startLine
        startColumn := node.startColumn, endLine := node.startLine, endColumn }
    trailingTrivia := " " }

/-- One blank in place of blanks that stay on their line (`normalize_trivia`). -/
def normalized (modifier : Modifier) : Modifier :=
  let trivia := modifier.trailingTrivia.toList
  if !trivia.isEmpty && trivia.all Text.isBlank && !trivia.contains '\n' then
    { modifier with trailingTrivia := " " }
  else modifier

/-- A node with the keyword, and the edit. -/
def fixedNode (overflow : Overflow) (node : SyntaxNode) :
    Lookup (Option (SyntaxNode × TextEdit)) := do
  match node.kind with
  | .method name modifiers modifiersStart symbol parameters body =>
    if isStatic modifiers then return none
    let some (place, edit) := methodEdit modifiers modifiersStart | return none
    let modifier ← modifierOf overflow edit node.span
    let modifiers := (modifiers.insertIdx place modifier).map normalized
    return some ({ node with kind := .method name modifiers modifiersStart symbol parameters body },
      edit)
  | .anonymousFunction form modifiers parameters body symbol =>
    if isStatic modifiers then return none
    let edit := TextEdit.insert node.span.startByte "static "
    let modifier ← modifierOf overflow edit node.span
    let modifiers := { modifier with leadingTrivia := node.leadingTrivia } :: modifiers
    return some ({ node with
      leadingTrivia := ""
      kind := .anonymousFunction form modifiers parameters body symbol }, edit)
  | _ => return none

/-- A program in which a method is static. -/
def withStaticMethod (p : Program) (id : MethodId) : Program :=
  { p with methods := p.methods.modify id.index fun method => { method with isStatic := true } }

/-- Makes the function that a node declares static (`make_static`). There is no fix for other nodes,
for functions that have the keyword, and for methods in which there is no place for it. -/
def apply (overflow : Overflow) (p : Program) (target : NodeId) : Lookup (Option AppliedFix) := do
  let node ← p.node target
  match ← fixedNode overflow node with
  | none => return none
  | some (fixed, edit) =>
    let program := { p with nodes := p.nodes.setIfInBounds target.index fixed }
    match node.kind.declaredMethod? with
    | none => return some { program, edit }
    | some id =>
      let _ ← p.method id
      return some { program := withStaticMethod program id, edit }

end MakeStatic

end ModLint
