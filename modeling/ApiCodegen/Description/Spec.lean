import ApiCodegen.Description.Model
import ApiCodegen.Description.Operation
import ApiCodegen.Text.Chars

/-!
# Specifications

A specification has versions; a version has APIs and models; and all versions share one taxonomy of
error responses. Three of those responses are always there.
-/

namespace ApiCodegen

/-- The error responses that every specification has, with their models. -/
def standardErrors : List (String × String) :=
  [("bad_request", "BadRequestError"), ("not_found", "NotFoundError"),
    ("internal_server_error", "InternalServerError")]

/-- The error models that come with every generated tree. -/
def standardErrorModels : List String :=
  ["BadRequestError", "NotFoundError", "InternalServerError", "ValidationError", "ErrorLocation"]

/-- A group of operations. -/
structure Api where
  name : String
  operations : List Operation
deriving DecidableEq, Repr, Inhabited

/-- A version of the service. The unversioned surface has an empty name. -/
structure Version where
  name : String
  /-- A prefix of every URL that takes the place of the name. -/
  url : Option String
  apis : List Api
  models : List Model
deriving DecidableEq, Repr, Inhabited

/-- What every URL of the version starts with. -/
def Version.urlPrefix (v : Version) : String :=
  match v.url with
  | some url => Text.dropTrailingSlashes url
  | none => if v.name.isEmpty then "" else "/" ++ v.name

/-- The model of the version with a given name. -/
def Version.model? (v : Version) (name : String) : Option Model :=
  findModel v.models name

/-- An error response that every operation may give. -/
structure ErrorResponse where
  status : String
  type : TypeExpr
  description : Option String
deriving DecidableEq, Repr, Inhabited

/-- The error responses and their models, without the standard ones. -/
structure HttpErrors where
  responses : List ErrorResponse
  models : List Model
deriving DecidableEq, Repr, Inhabited

namespace HttpErrors

/-- The taxonomy without responses of its own. -/
def empty : HttpErrors := ⟨[], []⟩

/-- The standard responses. -/
def standardResponses : List ErrorResponse :=
  standardErrors.map fun (status, model) => ⟨status, .named model, none⟩

/-- All responses, the standard ones first. -/
def allResponses (e : HttpErrors) : List ErrorResponse :=
  standardResponses ++ e.responses

/-- The error model with a given name. -/
def model? (e : HttpErrors) (name : String) : Option Model :=
  findModel e.models name

end HttpErrors

/-- A complete description of a service. -/
structure Spec where
  name : String
  versions : List Version
  httpErrors : HttpErrors
deriving DecidableEq, Repr, Inhabited

end ApiCodegen
