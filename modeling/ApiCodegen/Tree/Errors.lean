import ApiCodegen.Tree.Models

/-!
# The error file

The error models of the description, and the error type of the run: what a client reports, or what
an implementation of a service returns and how it becomes a response.
-/

namespace ApiCodegen

namespace ErrorVariant

/-- The attribute with the wording of an error. -/
def attributeLine (v : ErrorVariant) : Line :=
  [.text ("#[error(\"" ++ toString v.code ++ " " ++ v.status),
    .text (if v.standard then ": \x7b0\x7d\")]" else ": \x7b0:?\x7d\")]")]

/-- The documentation of an error. -/
def docCode (v : ErrorVariant) : Code :=
  .doc (some (v.description.getD ("`" ++ toString v.code ++ " " ++ v.status ++ "` response")))

/-- The variant with the value of the response. -/
def valueCode (v : ErrorVariant) (naming : Naming) : Code :=
  .line v.attributeLine ++
    .line [.declares v.name, .text "(", .spelled (v.type.spell naming .inErrors), .text "),"]

/-- How a failed call becomes a response. -/
inductive Handling where
  | badRequest
  | notFound
  | internal
  /-- The value is written as a document. -/
  | document (code : Nat)
deriving DecidableEq, Repr

/-- How an error is handled. -/
def handling (v : ErrorVariant) : Handling :=
  match v.standard, v.name with
  | true, "BadRequest" => .badRequest
  | true, "NotFound" => .notFound
  | true, "InternalServerError" => .internal
  | _, _ => .document v.code

/-- The status that a handling writes. -/
def Handling.status : Handling → Nat
  | badRequest => 400
  | notFound => 404
  | internal => 500
  | document code => code

/-- Whether the service wraps the cause of the error instead of the value of the response. -/
def wrapsCause (v : ErrorVariant) : Bool :=
  v.standard && v.name == "InternalServerError"

end ErrorVariant

/-- The type of any cause of an error. -/
def causeType : String := "Box<dyn std::error::Error + Send + Sync>"

/-- The error type of clients. -/
def clientErrorCode (naming : Naming) (variants : List ErrorVariant) : Code :=
  .ofCalls [
    .texts ["/// Errors returned by generated clients.", "#[derive(Debug, thiserror::Error)]"],
    .opening .inside [.text "pub enum ", .declares "ClientError"],
    .each (variants.map fun v => v.docCode ++ v.valueCode naming),
    .texts ["/// A status code no response or error declares",
      "#[error(\"Unexpected status code \x7b0\x7d\")]",
      "UnexpectedStatus(u16),",
      "/// The request could not be sent",
      "#[error(\"Request failed: \x7b0\x7d\")]",
      "Transport(#[source] reqwest::Error),",
      "/// The response body could not be decoded",
      "#[error(transparent)]",
      "Response(#[from] response::ResponseError),"],
    .brace]

/-- One variant of the error type of services. -/
def serviceVariantCode (naming : Naming) (v : ErrorVariant) : Code :=
  v.docCode ++
    if v.wrapsCause then
      .texts ["#[error(\"\x7b0\x7d\")]"] ++
        .line [.declares v.name, .text ("(#[source] " ++ causeType ++ "),")]
    else v.valueCode naming

/-- The arm that turns an error into a response. -/
def respondArm (v : ErrorVariant) : Code :=
  let pattern : Line := [.text "ServiceError::", .item v.name, .text "(", .newLocal "error",
    .text ") => "]
  let log : Piece := .ofLocal "log_fields"
  let error : Piece := .ofLocal "error"
  match v.handling with
  | .badRequest =>
    .arm (pattern ++ [.text "respond::bad_request(", log, .text ", ", error, .text "),"])
  | .notFound =>
    .arm (pattern ++ [.text "respond::not_found(", log, .text ", ", error, .text ".message),"])
  | .internal =>
    .ofCalls [
      .line (pattern ++ [.text "respond::internal_server_error("]),
      .indent,
      .line [log, .text ","],
      .line [.text "format!(\"Error returned from service implementation: \x7b", error,
        .text "\x7d\"),"],
      .dedent,
      .ends [.text "),"]]
  | .document code =>
    .arm (pattern ++ [.text "respond::json(", log, .text (", " ++ toString code ++ ", &"), error,
      .text "),"])

/-- The error type of services, and the function that turns it into a response. -/
def serviceErrorCode (naming : Naming) (variants : List ErrorVariant) : Code :=
  .ofCalls [
    .texts ["/// Errors returned by service implementations.",
      "#[derive(Debug, thiserror::Error)]"],
    .opening .inside [.text "pub enum ", .declares "ServiceError"],
    .each (variants.map (serviceVariantCode naming)),
    .brace,
    .blank,
    .opening .inside [.text "impl ServiceError"],
    .texts ["/// Wraps an implementation failure as a 500 response."],
    .opening .inside
      [.text ("pub fn internal(error: impl Into<" ++ causeType ++ ">) -> Self")],
    .texts ["Self::InternalServerError(error.into())"],
    .brace,
    .brace,
    .blank,
    .opening .inside [.text ("impl From<" ++ causeType ++ "> for ServiceError")],
    .opening .inside [.text ("fn from(error: " ++ causeType ++ ") -> Self")],
    .texts ["Self::InternalServerError(error)"],
    .brace,
    .brace,
    .blank,
    .texts ["/// Writes the response of a failed service call."],
    .opening .inside
      [.text "pub fn respond_error(log_fields: &LogFields, error: ServiceError) -> Response"],
    .opening .inside [.text "match error"],
    .each (variants.map respondArm),
    .brace,
    .brace]

namespace Emission

/-- The imports of the error file. -/
def errorUses (e : Emission) : List UsePath :=
  let errors := e.spec.httpErrors
  useIf (!errors.models.isEmpty) (.external "serde::\x7bDeserialize, Serialize\x7d") ++
  useIf (e.run != .models || modelsReferTo errors.models fun name =>
    (errors.model? name).isNone && standardErrorModels.contains name)
    (.internal ["errmodels"] .module) ++
  (match e.run with
    | .models => []
    | .client => [.internal ["response"] .module]
    | .service => [.internal ["respond"] (.names ["self", "LogFields"]),
      .external "axum::response::Response"]) ++
  typeUses errors.usesPrimitive errors.usesMap

/-- The error type of the run. -/
def errorTypeCode (e : Emission) (variants : List ErrorVariant) : Code :=
  match e.run with
  | .models => .nothing
  | .client => clientErrorCode e.naming variants
  | .service => serviceErrorCode e.naming variants

/-- The error file. -/
def errorFile (e : Emission) : Except Fault TreeFile := do
  let variants ← e.errorVariants
  let here := (Location.root.child "http_errors").child "models"
  let models ← modelsCode (.ofErrors e.spec.httpErrors) e.naming .inErrors here
    e.spec.httpErrors.models
  return ⟨⟨.generated, [], "errors"⟩,
    .source (.plain e.errorUses (models ++ e.errorTypeCode variants))⟩

end Emission

end ApiCodegen
