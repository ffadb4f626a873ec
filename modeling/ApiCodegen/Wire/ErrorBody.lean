import ApiCodegen.Description.Spec
import ApiCodegen.Json.Schema
import ApiCodegen.Json.Record
import ApiCodegen.Wire.Params

/-!
# Bodies of error responses

The standard error models as values, with their JSON form and the schemas that read it.
-/

namespace ApiCodegen

/-- The part of a request that could not be read. -/
inductive ErrorPlace where
  | query
  | header
  | body
deriving DecidableEq, Repr

/-- A fault of one field. -/
structure ValidationError where
  path : String
  code : String
  message : Option String
deriving DecidableEq, Repr

/-- The body of a response to a request that could not be read. -/
structure BadRequest where
  place : ErrorPlace
  message : String
  errors : List ValidationError
deriving DecidableEq, Repr

/-- The body of a response that carries a message only. -/
structure MessageBody where
  message : String
deriving DecidableEq, Repr

namespace ErrorPlace

/-- All places. -/
def all : List ErrorPlace := [query, header, body]

/-- The name of a place. -/
def name : ErrorPlace → String
  | query => "query"
  | header => "header"
  | body => "body"

/-- The place with a given name. -/
def ofName? (s : String) : Option ErrorPlace := all.find? (·.name == s)

/-- Reads a place. -/
def read (j : Json) : Option ErrorPlace := do
  let (name, content) ← Json.choice? j
  if Json.noContent content then ofName? name else none

/-- The documents that denote a place. -/
def schema : Json.Schema := .choice (all.map fun place => (place.name, none))

end ErrorPlace

namespace ValidationError

/-- What is reported of a fault of a parameter. -/
def ofFault (f : ParamFault) : ValidationError :=
  ⟨f.path, f.problem.code, some f.problem.message⟩

/-- Writes a fault. -/
def toJson (e : ValidationError) : Json :=
  Json.ofSome [("path", some (.str e.path)), ("code", some (.str e.code)),
    ("message", e.message.map .str)]

/-- Reads a fault. -/
def read (j : Json) : Option ValidationError := do
  match ← Json.record? ["path", "code", "message"] j with
  | [path, code, message] =>
    return ⟨← Json.needed Json.string? path, ← Json.needed Json.string? code,
      ← Json.maybe Json.string? message⟩
  | _ => none

/-- The documents that denote a fault. -/
def schema : Json.Schema :=
  .record [("path", .required, .string), ("code", .required, .string),
    ("message", .optional, .nullable .string)]

end ValidationError

namespace BadRequest

/-- A body without faults of single fields. -/
def plain (place : ErrorPlace) (message : String) : BadRequest := ⟨place, message, []⟩

/-- Writes a body. -/
def toJson (e : BadRequest) : Json :=
  .obj [("location", .str e.place.name), ("message", .str e.message),
    ("errors", .arr (e.errors.map ValidationError.toJson))]

/-- Reads a body. -/
def read (j : Json) : Option BadRequest := do
  match ← Json.record? ["location", "message", "errors"] j with
  | [location, message, errors] =>
    return ⟨← Json.needed ErrorPlace.read location, ← Json.needed Json.string? message,
      ← Json.orElse [] (Json.list? ValidationError.read) errors⟩
  | _ => none

/-- The documents that denote a body. -/
def schema : Json.Schema :=
  .record [("location", .required, ErrorPlace.schema), ("message", .required, .string),
    ("errors", .orElse (.arr []), .list ValidationError.schema)]

end BadRequest

namespace MessageBody

/-- Writes a body. -/
def toJson (e : MessageBody) : Json := .obj [("message", .str e.message)]

/-- Reads a body. -/
def read (j : Json) : Option MessageBody := do
  match ← Json.record? ["message"] j with
  | [message] => return ⟨← Json.needed Json.string? message⟩
  | _ => none

/-- The documents that denote a body. -/
def schema : Json.Schema := .record [("message", .required, .string)]

end MessageBody

end ApiCodegen
