import ModLint.Text.Blank

/-!
# Ids of custom entities

An id is the name under which an entity is placed in a map, or such a name, an equals sign and the
name of the method that generates the entity.
-/

namespace ModLint

/-- The id of a custom entity. -/
inductive EntityId where
  /-- A name; the entity is made by a constructor. -/
  | plain (id : String)
  /-- A name and the method that makes the entity. -/
  | generator (id method : String)
deriving DecidableEq

namespace EntityId

/-- The method that makes the entity. -/
def generator? : EntityId → Option String
  | .plain _ => none
  | .generator _ method => some method

/-- An id as text. -/
def display : EntityId → String
  | .plain id => id
  | .generator id method => id ++ " = " ++ method

/-- Reads an id (`parse_entity_id`). The first equals sign divides it, and blanks around its parts
do not count. -/
def parse (raw : String) : EntityId :=
  let text := Text.trim raw.toList
  match Text.splitFirst? '=' text with
  | none => .plain (String.ofList text)
  | some (id, method) =>
    .generator (String.ofList (Text.trim id)) (String.ofList (Text.trim method))

end EntityId

end ModLint
