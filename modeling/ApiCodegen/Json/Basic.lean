import ApiCodegen.Number.Binary

/-!
# JSON values

A document as a tree. Objects keep their fields as a list of pairs; `Json.ofFields` sorts them by
name and keeps the last of several fields with one name, which is how a document is held once read.
-/

namespace ApiCodegen

open Number (Binary)

/-- A JSON value. -/
inductive Json where
  | null
  | bool (b : Bool)
  | int (n : Int)
  | float (x : Binary)
  | str (s : String)
  | arr (items : List Json)
  | obj (fields : List (String × Json))
deriving Inhabited

namespace Json

/-- The value of a field. -/
def field? (name : String) : Json → Option Json
  | .obj fields => fields.lookup name
  | _ => none

/-- Puts a field into a list sorted by name, in the place of an earlier one of that name. -/
def putField (name : String) (value : Json) : List (String × Json) → List (String × Json)
  | [] => [(name, value)]
  | (n, v) :: rest =>
    if name < n then (name, value) :: (n, v) :: rest
    else if name = n then (name, value) :: rest
    else (n, v) :: putField name value rest

/-- The object with the given fields in order of their names; the last of a name wins. -/
def ofFields (fields : List (String × Json)) : Json :=
  .obj (fields.foldl (fun sorted (name, value) => putField name value sorted) [])

/-- The object with those fields that have a value. -/
def ofSome (fields : List (String × Option Json)) : Json :=
  .obj (fields.filterMap fun (name, value) => value.map (name, ·))

/-- The list of strings. -/
def strings (items : List String) : Json :=
  .arr (items.map .str)

end Json

end ApiCodegen
