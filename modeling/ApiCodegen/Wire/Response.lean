import ApiCodegen.Json.Printer
import ApiCodegen.Text.Charset
import ApiCodegen.Wire.ErrorBody
import ApiCodegen.Wire.MediaType

/-!
# Responses

The responses that a handler writes, and how a client reads their bodies.
-/

namespace ApiCodegen

/-- A response as it is sent. -/
structure HttpResponse where
  status : Nat
  /-- The content type, if there is a body. -/
  contentType : Option String
  body : String
deriving DecidableEq, Repr

namespace HttpResponse

/-- The status that is sent; one outside the range of statuses is an internal error. -/
def validStatus (status : Nat) : Nat :=
  if 100 ≤ status ∧ status ≤ 999 then status else 500

/-- A response without body. -/
def empty (status : Nat) : HttpResponse := ⟨validStatus status, none, ""⟩

/-- A response with a text. -/
def text (status : Nat) (body : String) : HttpResponse :=
  ⟨validStatus status, some "text/plain", body⟩

/-- A response with a JSON document. -/
def json (status : Nat) (body : Json) : HttpResponse :=
  ⟨validStatus status, some "application/json", body.compact⟩

/-- The response to a request that could not be read. -/
def badRequest (e : BadRequest) : HttpResponse := json 400 e.toJson

/-- The response to a request for what does not exist. -/
def notFound (message : String) : HttpResponse := json 404 (MessageBody.toJson ⟨message⟩)

/-- The response to a request that failed. -/
def internalServerError (message : String) : HttpResponse :=
  json 500 (MessageBody.toJson ⟨message⟩)

/-- Why a value has no JSON text. -/
inductive Unserializable where
  /-- A key of a map is no string. -/
  | keyIsNoString
deriving DecidableEq, Repr

/-- The wording of a value without JSON text. -/
def Unserializable.message : Unserializable → String
  | keyIsNoString => "key must be a string"

/-- The response with a JSON document, or with the reason why there is none. -/
def jsonOrFail (status : Nat) : Except Unserializable Json → HttpResponse
  | .ok body => json status body
  | .error reason => internalServerError ("Failed to serialize response body: " ++ reason.message)

end HttpResponse

/-- The kinds of problem that a client meets in a JSON body. -/
inductive BodyProblem where
  /-- The text is no JSON. -/
  | textual
  /-- The document has the wrong shape. -/
  | shape
  /-- The document ends early. -/
  | early
deriving DecidableEq, Repr

namespace ReceivedBody

/-- The kind of a failure. -/
def problem : Json.Failure → BodyProblem
  | .early => .early
  | .malformed => .textual
  | .mismatch _ | .missing _ _ => .shape

/-- Reads the body of a response as a JSON document. -/
def json (schema : Json.Schema) (body : List UInt8) : Except BodyProblem Json :=
  (schema.read body).mapError problem

/-- Reads the body of a response as text in the character set of its content type. -/
def text (contentType : Option String) (body : List UInt8) : String :=
  Text.decodeBody (MediaType.charset? contentType) body

end ReceivedBody

end ApiCodegen
