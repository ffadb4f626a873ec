import ApiCodegen.Description.Status
import ApiCodegen.Description.TypeExpr

/-!
# Operations

An operation is a method and a URL template with parameters, a request body, and the responses that
it may give.
-/

namespace ApiCodegen

/-- The method of an endpoint. -/
inductive HttpMethod where
  | get
  | post
  | put
  | delete
  | patch
  | head
  | options
deriving DecidableEq, Repr, Inhabited

namespace HttpMethod

/-- All methods. -/
def all : List HttpMethod := [get, post, put, delete, patch, head, options]

/-- The name in upper case. -/
def name : HttpMethod → String
  | get => "GET"
  | post => "POST"
  | put => "PUT"
  | delete => "DELETE"
  | patch => "PATCH"
  | head => "HEAD"
  | options => "OPTIONS"

/-- The method with a given name. -/
def ofName? (s : String) : Option HttpMethod :=
  all.find? (·.name == s)

end HttpMethod

/-- A parameter of the URL, the query, the headers or a form. -/
structure Param where
  /-- The name on the wire. -/
  name : String
  type : TypeExpr
  /-- The text that stands for an absent value. -/
  default : Option String
  description : Option String
deriving DecidableEq, Repr, Inhabited

/-- A parameter without default and description. -/
def Param.ofType (name : String) (type : TypeExpr) : Param := ⟨name, type, none, none⟩

/-- The parameter with a default. -/
def Param.withDefault (p : Param) (text : String) : Param := { p with default := some text }

/-- Where a parameter is carried. -/
inductive ParamLocation where
  | url
  | query
  | header
  | form
deriving DecidableEq, Repr

/-- The name of a place in lower case. -/
def ParamLocation.name : ParamLocation → String
  | url => "url"
  | query => "query"
  | header => "header"
  | form => "form"

/-- A method and a URL template. -/
structure Endpoint where
  method : HttpMethod
  /-- The template, with the name of a parameter between braces. -/
  url : String
  params : List Param
deriving DecidableEq, Repr, Inhabited

/-- The names between braces. `inside` holds the characters after an open brace, last first; a brace
that is never closed gives no name. -/
def scanPlaceholders (inside : Option (List Char)) : List Char → List String
  | [] => []
  | c :: cs =>
    match inside with
    | none => scanPlaceholders (if c = '\x7b' then some [] else none) cs
    | some seen =>
      if c = '\x7d' then String.ofList seen.reverse :: scanPlaceholders none cs
      else scanPlaceholders (some (c :: seen)) cs

/-- The placeholders of the template in order of appearance. -/
def Endpoint.placeholders (e : Endpoint) : List String :=
  scanPlaceholders none e.url.toList

/-- The kinds of payload. -/
inductive BodyKind where
  | empty
  | rawString
  | json
  | formData
  | formUrlEncoded
deriving DecidableEq, Repr

/-- All kinds. -/
def BodyKind.all : List BodyKind := [empty, rawString, json, formData, formUrlEncoded]

/-- The name of a kind. -/
def BodyKind.name : BodyKind → String
  | empty => "empty"
  | rawString => "raw_string"
  | json => "json"
  | formData => "form_data"
  | formUrlEncoded => "form_url_encoded"

/-- The payload of a request. -/
inductive RequestBody where
  | empty
  | rawString (description : Option String)
  | json (type : TypeExpr) (description : Option String)
  | formData (params : List Param)
  | formUrlEncoded (params : List Param)
deriving DecidableEq, Repr, Inhabited

namespace RequestBody

/-- The payload that a declared type stands for. -/
def ofType (type : TypeExpr) (description : Option String) : RequestBody :=
  if type.isEmpty then empty
  else if type.isString then rawString description
  else json type description

/-- The kind of a payload. -/
def kind : RequestBody → BodyKind
  | empty => .empty
  | rawString _ => .rawString
  | json _ _ => .json
  | formData _ => .formData
  | formUrlEncoded _ => .formUrlEncoded

/-- The fields of a form. -/
def formParams? : RequestBody → Option (List Param)
  | formData params | formUrlEncoded params => some params
  | empty | rawString _ | json _ _ => none

end RequestBody

/-- The payload of a response. -/
inductive ResponseBody where
  | empty
  | rawString
  | json (type : TypeExpr)
deriving DecidableEq, Repr, Inhabited

namespace ResponseBody

/-- The payload that a declared type stands for. -/
def ofType (type : TypeExpr) : ResponseBody :=
  if type.isEmpty then empty
  else if type.isString then rawString
  else json type

/-- The kind of a payload. -/
def kind : ResponseBody → BodyKind
  | empty => .empty
  | rawString => .rawString
  | json _ => .json

end ResponseBody

/-- A response that an operation declares. -/
structure Response where
  /-- The status tag. -/
  status : String
  body : ResponseBody
  description : Option String
deriving DecidableEq, Repr, Inhabited

/-- An operation of an API. -/
structure Operation where
  name : String
  endpoint : Endpoint
  headerParams : List Param
  queryParams : List Param
  body : RequestBody
  responses : List Response
  description : Option String
deriving DecidableEq, Repr, Inhabited

namespace Operation

/-- Whether there is a choice between responses. -/
def hasMultipleResponses (o : Operation) : Bool :=
  1 < o.responses.length

/-- Every parameter with its place: form fields, then query, headers and URL. -/
def params (o : Operation) : List (ParamLocation × Param) :=
  ((o.body.formParams?.getD []).map (.form, ·)) ++ o.queryParams.map (.query, ·) ++
    o.headerParams.map (.header, ·) ++ o.endpoint.params.map (.url, ·)

end Operation

end ApiCodegen
