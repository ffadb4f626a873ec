import ApiCodegen.Json.Basic

/-!
# Records and choices in JSON values

Conventions of the JSON form of a typed value. A record is an object whose unknown fields are
ignored, or the list of its values in order of declaration, which may stop early. A choice is a name
alone, or an object whose only field has that name.
-/

namespace ApiCodegen.Json

/-- The values of the fields of a record with the given names, in that order. -/
def record? (names : List String) : Json → Option (List (Option Json))
  | .obj fields => some (names.map fun name => fields.lookup name)
  | .arr items =>
    if names.length < items.length then none
    else some (items.map some ++ List.replicate (names.length - items.length) none)
  | _ => none

/-- The name and the content of a choice. -/
def choice? : Json → Option (String × Option Json)
  | .str name => some (name, none)
  | .obj [(name, content)] => some (name, some content)
  | _ => none

/-- Whether a choice has no content of its own. -/
def noContent : Option Json → Bool
  | none => true
  | some .null => true
  | some _ => false

/-- Reads a string. -/
def string? : Json → Option String
  | .str s => some s
  | _ => none

/-- Reads a list. -/
def list? {α : Type} (read : Json → Option α) : Json → Option (List α)
  | .arr items => items.mapM read
  | _ => none

/-- Reads a field that must be there. -/
def needed {α : Type} (read : Json → Option α) : Option Json → Option α
  | some value => read value
  | none => none

/-- Reads a field that may be absent or null. -/
def maybe {α : Type} (read : Json → Option α) : Option Json → Option (Option α)
  | none => some none
  | some .null => some none
  | some value => (read value).map some

/-- Reads a field that has a value when it is absent. -/
def orElse {α : Type} (value : α) (read : Json → Option α) : Option Json → Option α
  | none => some value
  | some json => read json

end ApiCodegen.Json
