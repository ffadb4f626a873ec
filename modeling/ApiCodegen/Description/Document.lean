import ApiCodegen.Description.Spec
import ApiCodegen.Json.Record

/-!
# The JSON form of a description

Every part of a description is read from a JSON value by a `read` function and written by `toJson`.
Absent options are left out when written, and values that have a default are always written.
-/

namespace ApiCodegen

open Json

namespace TypeExpr

/-- Reads the notation from a string. -/
def read (j : Json) : Option TypeExpr := do
  parseChars (← string? j).toList

/-- The notation as a string. -/
def toJson (t : TypeExpr) : Json := .str t.notate

end TypeExpr

/-- Writes an optional text. -/
def optionalText (s : Option String) : Option Json := s.map .str

namespace HttpMethod

/-- Reads a method by name. -/
def read (j : Json) : Option HttpMethod := do
  let (name, content) ← choice? j
  if noContent content then ofName? name else none

/-- The name of a method. -/
def toJson (m : HttpMethod) : Json := .str m.name

end HttpMethod

namespace Param

/-- Reads a parameter. -/
def read (j : Json) : Option Param := do
  match ← record? ["name", "type", "default", "description"] j with
  | [name, type, default, description] =>
    return ⟨← needed string? name, ← needed TypeExpr.read type, ← maybe string? default,
      ← maybe string? description⟩
  | _ => none

/-- Writes a parameter. -/
def toJson (p : Param) : Json :=
  Json.ofSome [("name", some (.str p.name)), ("type", some p.type.toJson),
    ("default", optionalText p.default), ("description", optionalText p.description)]

end Param

namespace Endpoint

/-- Reads an endpoint. -/
def read (j : Json) : Option Endpoint := do
  match ← record? ["method", "url", "url_params"] j with
  | [method, url, params] =>
    return ⟨← needed HttpMethod.read method, ← needed string? url,
      ← orElse [] (list? Param.read) params⟩
  | _ => none

/-- Writes an endpoint. -/
def toJson (e : Endpoint) : Json :=
  .obj [("method", e.method.toJson), ("url", .str e.url),
    ("url_params", .arr (e.params.map Param.toJson))]

end Endpoint

/-- The named fields of the content of a choice, which has to be an object. -/
def content? (names : List String) : Option Json → Option (List (Option Json))
  | some (.obj fields) => record? names (.obj fields)
  | _ => none

namespace RequestBody

/-- Reads the payload of a request. -/
def read (j : Json) : Option RequestBody := do
  let (name, content) ← choice? j
  if name = "empty" then
    if noContent content then return .empty else none
  else if name = "raw_string" then
    match ← content? ["description"] content with
    | [description] => return .rawString (← maybe string? description)
    | _ => none
  else if name = "json" then
    match ← content? ["type", "description"] content with
    | [type, description] =>
      return .json (← needed TypeExpr.read type) (← maybe string? description)
    | _ => none
  else if name = "form_data" then
    match ← content? ["params"] content with
    | [params] => return .formData (← needed (list? Param.read) params)
    | _ => none
  else if name = "form_url_encoded" then
    match ← content? ["params"] content with
    | [params] => return .formUrlEncoded (← needed (list? Param.read) params)
    | _ => none
  else none

/-- Writes the payload of a request. -/
def toJson : RequestBody → Json
  | .empty => .str "empty"
  | .rawString description =>
    .obj [("raw_string", Json.ofSome [("description", optionalText description)])]
  | .json type description =>
    .obj [("json", Json.ofSome [("type", some type.toJson),
      ("description", optionalText description)])]
  | .formData params => .obj [("form_data", .obj [("params", .arr (params.map Param.toJson))])]
  | .formUrlEncoded params =>
    .obj [("form_url_encoded", .obj [("params", .arr (params.map Param.toJson))])]

end RequestBody

namespace ResponseBody

/-- Reads the payload of a response. -/
def read (j : Json) : Option ResponseBody := do
  let (name, content) ← choice? j
  if name = "empty" then
    if noContent content then return .empty else none
  else if name = "raw_string" then
    if noContent content then return .rawString else none
  else if name = "json" then
    return .json (← needed TypeExpr.read content)
  else none

/-- Writes the payload of a response. -/
def toJson : ResponseBody → Json
  | .empty => .str "empty"
  | .rawString => .str "raw_string"
  | .json type => .obj [("json", type.toJson)]

end ResponseBody

namespace Response

/-- Reads a response. -/
def read (j : Json) : Option Response := do
  match ← record? ["status", "body", "description"] j with
  | [status, body, description] =>
    return ⟨← needed string? status, ← orElse .empty ResponseBody.read body,
      ← maybe string? description⟩
  | _ => none

/-- Writes a response. -/
def toJson (r : Response) : Json :=
  Json.ofSome [("status", some (.str r.status)), ("body", some r.body.toJson),
    ("description", optionalText r.description)]

end Response

namespace Operation

/-- Reads an operation. -/
def read (j : Json) : Option Operation := do
  match ← record? ["name", "endpoint", "header_params", "query_params", "body", "responses",
      "description"] j with
  | [name, endpoint, headers, query, body, responses, description] =>
    return ⟨← needed string? name, ← needed Endpoint.read endpoint,
      ← orElse [] (list? Param.read) headers, ← orElse [] (list? Param.read) query,
      ← orElse .empty RequestBody.read body, ← needed (list? Response.read) responses,
      ← maybe string? description⟩
  | _ => none

/-- Writes an operation. -/
def toJson (o : Operation) : Json :=
  Json.ofSome [("name", some (.str o.name)), ("endpoint", some o.endpoint.toJson),
    ("header_params", some (.arr (o.headerParams.map Param.toJson))),
    ("query_params", some (.arr (o.queryParams.map Param.toJson))),
    ("body", some o.body.toJson), ("responses", some (.arr (o.responses.map Response.toJson))),
    ("description", optionalText o.description)]

end Operation

namespace Field

/-- Reads a field. -/
def read (j : Json) : Option Field := do
  match ← record? ["name", "type", "description"] j with
  | [name, type, description] =>
    return ⟨← needed string? name, ← needed TypeExpr.read type, ← maybe string? description⟩
  | _ => none

/-- Writes a field. -/
def toJson (f : Field) : Json :=
  Json.ofSome [("name", some (.str f.name)), ("type", some f.type.toJson),
    ("description", optionalText f.description)]

end Field

namespace EnumValue

/-- Reads a literal of an enum. -/
def read (j : Json) : Option EnumValue := do
  match ← record? ["value", "description"] j with
  | [value, description] => return ⟨← needed string? value, ← maybe string? description⟩
  | _ => none

/-- Writes a literal of an enum. -/
def toJson (v : EnumValue) : Json :=
  Json.ofSome [("value", some (.str v.value)), ("description", optionalText v.description)]

end EnumValue

namespace ModelKind

/-- Reads the shape of a model. -/
def read (j : Json) : Option ModelKind := do
  let (name, content) ← choice? j
  if name = "object" then
    match ← content? ["fields"] content with
    | [fields] => return .object (← needed (list? Field.read) fields)
    | _ => none
  else if name = "one_of" then
    match ← content? ["items", "discriminator"] content with
    | [items, discriminator] =>
      return .oneOf (← needed (list? Field.read) items) (← maybe string? discriminator)
    | _ => none
  else if name = "enum" then
    match ← content? ["values"] content with
    | [values] => return .enum (← needed (list? EnumValue.read) values)
    | _ => none
  else none

/-- Writes the shape of a model. -/
def toJson : ModelKind → Json
  | .object fields => .obj [("object", .obj [("fields", .arr (fields.map Field.toJson))])]
  | .oneOf items discriminator =>
    .obj [("one_of", Json.ofSome [("items", some (.arr (items.map Field.toJson))),
      ("discriminator", optionalText discriminator)])]
  | .enum values => .obj [("enum", .obj [("values", .arr (values.map EnumValue.toJson))])]

end ModelKind

namespace Model

/-- Reads a model. -/
def read (j : Json) : Option Model := do
  match ← record? ["name", "kind", "description"] j with
  | [name, kind, description] =>
    return ⟨← needed string? name, ← needed ModelKind.read kind, ← maybe string? description⟩
  | _ => none

/-- Writes a model. -/
def toJson (m : Model) : Json :=
  Json.ofSome [("name", some (.str m.name)), ("kind", some m.kind.toJson),
    ("description", optionalText m.description)]

end Model

namespace Api

/-- Reads an API. -/
def read (j : Json) : Option Api := do
  match ← record? ["name", "operations"] j with
  | [name, operations] =>
    return ⟨← needed string? name, ← needed (list? Operation.read) operations⟩
  | _ => none

/-- Writes an API. -/
def toJson (a : Api) : Json :=
  .obj [("name", .str a.name), ("operations", .arr (a.operations.map Operation.toJson))]

end Api

namespace Version

/-- Reads a version. -/
def read (j : Json) : Option Version := do
  match ← record? ["name", "url", "apis", "models"] j with
  | [name, url, apis, models] =>
    return ⟨← orElse "" string? name, ← maybe string? url, ← orElse [] (list? Api.read) apis,
      ← orElse [] (list? Model.read) models⟩
  | _ => none

/-- Writes a version. -/
def toJson (v : Version) : Json :=
  Json.ofSome [("name", some (.str v.name)), ("url", optionalText v.url),
    ("apis", some (.arr (v.apis.map Api.toJson))),
    ("models", some (.arr (v.models.map Model.toJson)))]

end Version

namespace ErrorResponse

/-- Reads an error response. -/
def read (j : Json) : Option ErrorResponse := do
  match ← record? ["status", "type", "description"] j with
  | [status, type, description] =>
    return ⟨← needed string? status, ← needed TypeExpr.read type, ← maybe string? description⟩
  | _ => none

/-- Writes an error response. -/
def toJson (r : ErrorResponse) : Json :=
  Json.ofSome [("status", some (.str r.status)), ("type", some r.type.toJson),
    ("description", optionalText r.description)]

end ErrorResponse

namespace HttpErrors

/-- Reads a taxonomy. -/
def read (j : Json) : Option HttpErrors := do
  match ← record? ["responses", "models"] j with
  | [responses, models] =>
    return ⟨← orElse [] (list? ErrorResponse.read) responses,
      ← orElse [] (list? Model.read) models⟩
  | _ => none

/-- Writes a taxonomy. -/
def toJson (e : HttpErrors) : Json :=
  .obj [("responses", .arr (e.responses.map ErrorResponse.toJson)),
    ("models", .arr (e.models.map Model.toJson))]

end HttpErrors

namespace Spec

/-- Reads a specification. -/
def read (j : Json) : Option Spec := do
  match ← record? ["name", "versions", "http_errors"] j with
  | [name, versions, errors] =>
    return ⟨← needed string? name, ← needed (list? Version.read) versions,
      ← orElse HttpErrors.empty HttpErrors.read errors⟩
  | _ => none

/-- Writes a specification. -/
def toJson (s : Spec) : Json :=
  .obj [("name", .str s.name), ("versions", .arr (s.versions.map Version.toJson)),
    ("http_errors", s.httpErrors.toJson)]

end Spec

end ApiCodegen
