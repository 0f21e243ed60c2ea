import ModLint.Check.Event
import ModLint.Program.Query

/-!
# Hooks

A hook replaces a method of the game. It is registered by creating a hook object from the method
and its replacement, or by adding the replacement to a generated event. A replacement should be
static, call the method it replaces, which it gets as its first parameter, and, if it makes a
sequence, not yield the replaced sequence as one element.
-/

namespace ModLint.Check.Hooks

/-- A replacement with its source. -/
structure HookSite where
  /-- The method that replaces another one. -/
  method : MethodId
  /-- Its declaration: a method or an anonymous function. -/
  declaration : NodeId
deriving DecidableEq

/-- The replacement that an argument names (`resolve_site`): a method declared in the source, or the
anonymous function itself. -/
def resolve (p : Program) (argument : NodeId) : Lookup (Option HookSite) := do
  match (← p.node argument).kind with
  | .identifier .. =>
    return (← p.resolveIdentifier argument).map fun (method, declaration) =>
      { method, declaration }
  | .anonymousFunction _ _ _ _ symbol =>
    return symbol.map fun method => { method, declaration := argument }
  | _ => return none

/-- The replacement that the creation of a hook object registers (`detour_site`). -/
def detour (p : Program) (names : FrameworkNames) (id : NodeId) : Lookup (Option HookSite) := do
  match (← p.node id).kind with
  | .objectCreation _ arguments (some created) =>
    if (← p.fullTypeName created) == names.hook then
      match arguments with
      | [_, replacement] => resolve p replacement
      | _ => return none
    else return none
  | _ => return none

/-- The replacement that is added to or removed from an event of a hook namespace
(`event_hook_site`). -/
def eventHook (p : Program) (names : FrameworkNames) (id : NodeId) :
    Lookup (Option HookSite) := do
  match (← p.node id).kind with
  | .assignment _ left right =>
    match (← p.node left).kind.symbol? with
    | some (.event event) =>
      let some root ← p.bottommostNamespace (.event event) | return none
      if names.hookNamespaces.contains (← p.nameSpace root).name then resolve p right
      else return none
    | _ => return none
  | _ => return none

/-- The expression inside all parentheses around it, of which there are at most `bound`. -/
def withoutParentheses (p : Program) : Nat → NodeId → Lookup NodeId
  | 0, _ => .error .endless
  | bound + 1, id => do
    match (← p.node id).kind with
    | .parenthesized expression => withoutParentheses p bound expression
    | _ => return id

/-- Whether a node is a statement that yields the result of calling `orig`. -/
def yieldsCallOf (p : Program) (orig : String) (id : NodeId) : Lookup Bool := do
  match (← p.node id).kind with
  | .yieldReturn expression =>
    p.isInvocationOf (← withoutParentheses p (p.nodes.size + 1) expression) orig
  | _ => return false

/-- The name of a replacement in messages. -/
def methodName (method : MethodSymbol) : String :=
  match method.kind with
  | .anonymousFunction => "lambda"
  | _ => method.name

/-- Whether a parameter is the context of an instruction hook. -/
def isContext (p : Program) (names : FrameworkNames) (parameter : ParameterSymbol) :
    Lookup Bool := do
  match parameter.type with
  | none => return false
  | some type => return (← p.fullTypeName type) == names.ilContext

/-- The type of the replaced method in messages; a question mark if it is not bound. -/
def origTypeName (p : Program) (orig : ParameterSymbol) : Lookup String :=
  match orig.type with
  | none => return "?"
  | some type => p.typeName type

/-- What is found if the replaced method, which is the parameter `orig`, is not called. -/
def callFindings (p : Program) (site : HookSite) (orig : ParameterSymbol) (body : NodeId) :
    Lookup (List Finding) := do
  let calls ← (← p.descendants body).anyM fun id => p.isInvocationOf id orig.name
  if calls then return []
  else return [⟨.callOrigInHooks, site.declaration, [orig.name, ← origTypeName p orig]⟩]

/-- What is found if the replaced sequence is yielded as one element (`check_yielded_orig`). -/
def yieldFindings (p : Program) (orig : ParameterSymbol) (body : NodeId) :
    Lookup (List Finding) := do
  let yielded ← (← p.descendantsUntil body NodeKind.isFunction).filterM (yieldsCallOf p orig.name)
  return yielded.map fun id => ⟨.dontYieldReturnOrig, id, [orig.name]⟩

/-- What is found about the use of the replaced method. -/
def origFindings (p : Program) (site : HookSite) (orig : ParameterSymbol) (body : NodeId)
    (sequence : Bool) : Lookup (List Finding) := do
  let missing ← callFindings p site orig body
  if sequence then return missing ++ (← yieldFindings p orig body) else return missing

/-- What is found about a replacement (`check_site`). -/
def siteFindings (p : Program) (names : FrameworkNames) (site : HookSite) :
    Lookup (List Finding) := do
  let method ← p.method site.method
  let body? := (← p.node site.declaration).kind.body?
  let sequence ← p.isSequenceType names method.returnType
  let instanceFindings : List Finding :=
    if method.isStatic then []
    else [⟨.hooksShouldBeStatic, site.declaration, [methodName method]⟩]
  let some orig := method.parameters.head? | return instanceFindings
  if ← isContext p names orig then return instanceFindings
  let some body := body? | return instanceFindings
  return instanceFindings ++ (← origFindings p site orig body sequence)

/-- The replacement that is registered at an event. -/
def siteOf (p : Program) (names : FrameworkNames) : Event → Lookup (Option HookSite)
  | .objectCreation id => detour p names id
  | .eventAssignment id => eventHook p names id
  | _ => return none

/-- What is found at an event. -/
def inspect (p : Program) (names : FrameworkNames) (event : Event) : Lookup (List Finding) := do
  match ← siteOf p names event with
  | none => return []
  | some site => siteFindings p names site

/-- The conditions that may be found. -/
def conditions : List DiagnosticId :=
  [.hooksShouldBeStatic, .callOrigInHooks, .dontYieldReturnOrig]

/-- The kinds of events that are looked at. -/
def eventKinds : List EventKind :=
  [.objectCreation, .eventAssignment]

end ModLint.Check.Hooks
