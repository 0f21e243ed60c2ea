import ModLint.Program.Item
import ModLint.Program.Span

/-!
# Symbols

The files, namespaces, types, methods, properties and events that a compiler front end resolved.
-/

namespace ModLint

/-- A source file. -/
structure SourceFile where
  /-- Its path. -/
  path : String
  /-- Its text, if the dump embeds it. -/
  text : Option String := none
deriving DecidableEq

/-- A segment of a dotted namespace. -/
structure Namespace where
  /-- The segment. -/
  name : String
  /-- The namespace around it; none for the global one. -/
  parent : Option NamespaceId := none
deriving DecidableEq

/-- The kinds of named types. -/
inductive TypeKind where
  /-- A class. -/
  | classType
  /-- A value type. -/
  | structType
  /-- An interface. -/
  | interfaceType
  /-- An enumeration. -/
  | enumType
  /-- A delegate. -/
  | delegateType
deriving DecidableEq

/-- A constant given to an attribute. -/
inductive AttributeArgument where
  /-- A string. -/
  | string (value : String)
  /-- A type. -/
  | type (value : TypeId)
  /-- An array of constants. -/
  | array (items : List AttributeArgument)
  /-- A truth value. -/
  | bool (value : Bool)
  /-- Any other constant, as text. -/
  | other (value : String)

namespace AttributeArgument

mutual

/-- Equality of arguments is decided by comparing them from the outside in. -/
def decEq : (a b : AttributeArgument) → Decidable (a = b)
  | .string a, .string b => decidable_of_iff (a = b) (by simp)
  | .type a, .type b => decidable_of_iff (a = b) (by simp)
  | .array a, .array b =>
    match decEqList a b with
    | isTrue h => isTrue (by rw [h])
    | isFalse h => isFalse (by simpa using h)
  | .bool a, .bool b => decidable_of_iff (a = b) (by simp)
  | .other a, .other b => decidable_of_iff (a = b) (by simp)
  | .string _, .type _ | .string _, .array _ | .string _, .bool _ | .string _, .other _
  | .type _, .string _ | .type _, .array _ | .type _, .bool _ | .type _, .other _
  | .array _, .string _ | .array _, .type _ | .array _, .bool _ | .array _, .other _
  | .bool _, .string _ | .bool _, .type _ | .bool _, .array _ | .bool _, .other _
  | .other _, .string _ | .other _, .type _ | .other _, .array _ | .other _, .bool _ =>
    isFalse (by simp)

/-- Equality of lists of arguments. -/
def decEqList : (a b : List AttributeArgument) → Decidable (a = b)
  | [], [] => isTrue rfl
  | [], _ :: _ => isFalse (by simp)
  | _ :: _, [] => isFalse (by simp)
  | a :: as, b :: bs =>
    match decEq a b, decEqList as bs with
    | isTrue h, isTrue hs => isTrue (by rw [h, hs])
    | isFalse h, _ => isFalse (by simp [h])
    | _, isFalse hs => isFalse (by simp [hs])

end

instance : DecidableEq AttributeArgument := decEq

/-- The text of a constant that is written like a string (`as_text`). -/
def text? : AttributeArgument → Option String
  | .string s => some s
  | .other s => some s
  | _ => none

end AttributeArgument

/-- An attribute applied to a type. -/
structure AttributeData where
  /-- The class of the attribute. -/
  attributeClass : TypeId
  /-- The arguments of its constructor. -/
  arguments : List AttributeArgument := []
  /-- Where it is written. -/
  site : Option NodeId := none
deriving DecidableEq

/-- A named type. -/
structure TypeSymbol where
  /-- Its simple name. -/
  name : String
  /-- The namespace that holds it; none for the global one. -/
  nameSpace : Option NamespaceId := none
  /-- The type it is nested in. -/
  containingType : Option TypeId := none
  /-- Its base class. -/
  base : Option TypeId := none
  /-- Its kind. -/
  kind : TypeKind := .classType
  /-- The assembly that declares it. -/
  assembly : String
  /-- Its attributes. -/
  attributes : List AttributeData := []
  /-- Its methods and constructors. -/
  members : List MethodId := []
  /-- Where it is declared, if that is in the source. -/
  declaration : Option NodeId := none
deriving DecidableEq

/-- The kinds of methods. -/
inductive MethodKind where
  /-- A method. -/
  | ordinary
  /-- A constructor. -/
  | constructor
  /-- A lambda or an anonymous method. -/
  | anonymousFunction
  /-- A function inside a method. -/
  | localFunction
  /-- An accessor of a property. -/
  | accessor
  /-- Anything else. -/
  | other
deriving DecidableEq

/-- The words for a kind of method. -/
def MethodKind.display : MethodKind → String
  | .ordinary => "method"
  | .constructor => "constructor"
  | .anonymousFunction => "anonymous function"
  | .localFunction => "local function"
  | .accessor => "accessor"
  | .other => "member"

/-- A parameter of a method. -/
structure ParameterSymbol where
  /-- Its name. -/
  name : String
  /-- Its type, if it is bound. -/
  type : Option TypeId := none
deriving DecidableEq

/-- A method, constructor, local or anonymous function. -/
structure MethodSymbol where
  /-- Its name. -/
  name : String
  /-- Its kind. -/
  kind : MethodKind := .ordinary
  /-- The type it belongs to. -/
  containingType : Option TypeId := none
  /-- Whether it needs no instance. -/
  isStatic : Bool := false
  /-- Whether the compiler made it. -/
  isImplicit : Bool := false
  /-- Its parameters. -/
  parameters : List ParameterSymbol := []
  /-- What it returns; none for nothing. -/
  returnType : Option TypeId := none
  /-- Where it is declared. -/
  declaration : Option NodeId := none
deriving DecidableEq

/-- A property. -/
structure PropertySymbol where
  /-- Its name. -/
  name : String
  /-- The type it belongs to. -/
  containingType : TypeId
  /-- Whether it needs no instance. -/
  isStatic : Bool := false
deriving DecidableEq

/-- An event. -/
structure EventSymbol where
  /-- Its name. -/
  name : String
  /-- The type it belongs to. -/
  containingType : TypeId
deriving DecidableEq

/-- What a name is bound to. -/
inductive SymbolRef where
  /-- A type. -/
  | type (id : TypeId)
  /-- A method. -/
  | method (id : MethodId)
  /-- A property. -/
  | property (id : PropertyId)
  /-- An event. -/
  | event (id : EventId)
deriving DecidableEq

/-- The reference that a name holds. -/
def SymbolRef.reference : SymbolRef → Reference
  | .type id => id.reference
  | .method id => id.reference
  | .property id => id.reference
  | .event id => id.reference

/-- The id that a name holds, as text. -/
def SymbolRef.display : SymbolRef → String
  | .type id => id.display
  | .method id => id.display
  | .property id => id.display
  | .event id => id.display

end ModLint
