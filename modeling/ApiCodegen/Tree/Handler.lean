import ApiCodegen.Tree.Operations

/-!
# Handlers

The function that answers the requests of one operation. It goes through fixed stages: the
parameters of the URL, of the headers and of the query, then the payload, then the call of the
service. The first stage that fails gives the response.
-/

namespace ApiCodegen

/-- A function that answers requests. -/
structure Handler where
  fnName : String
  /-- The parts of the request that the function takes. -/
  extractors : List Line
  body : Code

namespace Handler

/-- The log fields as an argument. -/
def log : Line := [.text "&", .ofLocal "log_fields"]

/-- The statement that refuses a request, given the expression of the faults. -/
def badRequest (place message : String) (faults : Line) : Line :=
  .text "return respond::bad_request(" :: log ++
    [.text ", ", .imported "BadRequestError", .text "::new(", .imported "ErrorLocation",
      .text ("::" ++ place ++ ", "), .quoted message, .text ", ", .imported "convert",
      .text "::validation_errors("] ++ faults ++ [.text ")));"]

/-- The group of the URL parameters. A value that cannot be read is one that does not exist. -/
def urlGroup : ReadingGroup where
  parser := ⟨"url_parser", .generated⟩
  source := [.imported "ParamsParser", .text "::url(", .ofLocal "url_pairs", .text ")"]
  failure := fun _ =>
    .text "return respond::not_found(" :: log ++
      [.text ", \"Failed to parse url parameters\");"]

/-- The group of the header parameters. -/
def headerGroup : ReadingGroup where
  parser := ⟨"header_parser", .generated⟩
  source := [.imported "ParamsParser", .text "::header(", .imported "content_type",
    .text "::header_pairs(&", .ofLocal "request_headers", .text "))"]
  failure := badRequest "Header" "Failed to parse header"

/-- The group of the query parameters. -/
def queryGroup : ReadingGroup where
  parser := ⟨"query_parser", .generated⟩
  source := [.imported "ParamsParser", .text "::query(", .ofLocal "query_pairs", .text ")"]
  failure := badRequest "Query" "Failed to parse query"

/-- The expression of the pairs of a form. -/
def formSource (multipart : Bool) : Line :=
  if multipart then [.ofLocal "form_pairs"]
  else [.imported "form", .text "::urlencoded_pairs(&", .ofLocal "request_body", .text ")"]

/-- The group of the fields of a form. -/
def formGroup (multipart : Bool) : ReadingGroup where
  parser := ⟨"form_parser", .generated⟩
  source := [.imported "ParamsParser", .text "::form("] ++ formSource multipart ++ [.text ")"]
  failure := badRequest "Body" "Failed to parse body"

/-- Whether the payload is a form of several parts. -/
def isMultipart : BodyShape → Bool
  | .form _ _ multipart => multipart
  | .none | .text | .json _ => false

/-- Whether the payload is read as bytes. A form without fields is not read. -/
def readsBytes : BodyShape → Bool
  | .none => false
  | .text | .json _ => true
  | .form _ fields multipart => !multipart && !fields.isEmpty

/-- The parts of the request that the handler of an operation takes. -/
def extractorsOf (traitName : String) (s : Signature) : List Line :=
  let one (condition : Bool) (l : Line) : List Line := if condition then [l] else []
  [[.text "State(", .newLocal "service_impl", .text "): State<Arc<dyn ", .item traitName,
    .text ">>"]] ++
  one (!s.url.isEmpty) [.imported "Path", .text "(", .newLocal "url_pairs", .text "): ",
    .imported "Path", .text "<Vec<(String, String)>>"] ++
  one (!s.query.isEmpty) [.imported "Query", .text "(", .newLocal "query_pairs", .text "): ",
    .imported "Query", .text "<Vec<(String, String)>>"] ++
  one (!s.header.isEmpty || s.body != .none) [.newLocal "request_headers", .text ": ",
    .imported "HeaderMap"] ++
  one (isMultipart s.body) [.newLocal "multipart_body", .text ": Result<", .imported "Multipart",
    .text ", ", .imported "MultipartRejection", .text ">"] ++
  one (readsBytes s.body) [.newLocal "request_body", .text ": ", .imported "Bytes"]

/-- The code that checks the content type of a request. -/
def contentTypeCode (expected : String) : Code :=
  .ofCalls [
    .opening .inside ([.text "if let Err(", .newLocal "response", .text ") = ",
      .imported "content_type", .text "::check("] ++ log ++
      [.text ", &", .ofLocal "request_headers", .text ", ", .quoted expected, .text ")"]),
    .line [.text "return ", .ofLocal "response", .text ";"],
    .brace]

/-- The arm that refuses a request with an error that is ready. -/
def refusalArm : Code :=
  .arm ([.text "Err(", .newLocal "error", .text ") => return respond::bad_request("] ++ log ++
    [.text ", ", .ofLocal "error", .text "),"])

/-- The code that reads a text. -/
def textCode : Code :=
  .ofCalls [
    .code (contentTypeCode "text/plain"),
    .opening .after [.text "let ", .binds Signature.bodyVar, .text " = match String::from_utf8(",
      .ofLocal "request_body", .text ".to_vec())"],
    .arm [.text "Ok(", .binds Signature.bodyVar, .text ") => ", .reads Signature.bodyVar,
      .text ","],
    .opening .inside [.text "Err(", .newLocal "error", .text ") =>"],
    .line [.text "return respond::bad_request("],
    .indent,
    .line (log ++ [.text ","]),
    .line [.imported "BadRequestError", .text "::new("],
    .indent,
    .line [.imported "ErrorLocation", .text "::Body,"],
    .line [.text "format!(\"Reading request body failed: \x7b", .ofLocal "error",
      .text "\x7d\"),"],
    .texts ["Vec::new(),"],
    .dedent,
    .ends [.text "),"],
    .dedent,
    .ends [.text ");"],
    .brace,
    .closing [.text "\x7d;"]]

/-- The code that reads a JSON document. -/
def jsonCode (naming : Naming) (type : ResolvedType) : Code :=
  .ofCalls [
    .code (contentTypeCode "application/json"),
    .opening .after [.text "let ", .binds Signature.bodyVar, .text ": ",
      .spelled (type.spell naming .inApi), .text " = match ", .imported "json",
      .text "::decode(&", .ofLocal "request_body", .text ")"],
    .arm [.text "Ok(", .binds Signature.bodyVar, .text ") => ", .reads Signature.bodyVar,
      .text ","],
    .code refusalArm,
    .closing [.text "\x7d;"]]

/-- The call that reads the pairs of a form of several parts. -/
def multipartCall : Line :=
  [.imported "form", .text "::multipart_pairs(", .ofLocal "multipart_body", .text ").await"]

/-- The code that reads a form without fields. -/
def emptyFormCode (structName : String) (multipart : Bool) : Code :=
  (if multipart then
    .ofCalls [
      .opening .inside ([.text "if let Err(", .newLocal "error", .text ") = "] ++ multipartCall),
      .line (.text "return respond::bad_request(" :: log ++
        [.text ", ", .ofLocal "error", .text ");"]),
      .brace]
  else .nothing) ++
  .line [.text "let ", .binds Signature.bodyVar, .text " = ", .spelled (.named "" structName),
    .text " \x7b\x7d;"]

/-- The code that reads the fields of a form. -/
def fieldsCode (naming : Naming) (structName : String) (fields : List ParamCodec)
    (multipart : Bool) : Code :=
  (if multipart then
    .ofCalls [
      .opening .after ([.text "let ", .newLocal "form_pairs", .text " = match "] ++
        multipartCall),
      .arm [.text "Ok(", .newLocal "pairs", .text ") => ", .ofLocal "pairs", .text ","],
      .code refusalArm,
      .closing [.text "\x7d;"]]
  else .nothing) ++
  .ofCalls [
    .opening .after [.text "let ", .binds Signature.bodyVar, .text " ="],
    .code ((formGroup multipart).code naming fields),
    .line ([.spelled (.named "" structName), .text " \x7b "] ++
      Line.joined ", " (fields.map fun c => [.reads c.var]) ++ [.text " \x7d"]),
    .closing [.text "\x7d;"]]

/-- The code that reads the payload. -/
def bodyCode (naming : Naming) : BodyShape → Code
  | .none => .nothing
  | .text => textCode
  | .json type => jsonCode naming type
  | .form structName fields multipart =>
    contentTypeCode
        (if multipart then "multipart/form-data" else "application/x-www-form-urlencoded") ++
      if fields.isEmpty then emptyFormCode structName multipart
      else fieldsCode naming structName fields multipart

/-- The variables that are passed to the service. -/
def arguments (s : Signature) : List Var :=
  (if s.body = .none then [] else [Signature.bodyVar]) ++ s.params.map ParamCodec.var

/-- The expression that calls the service. -/
def callLine (s : Signature) : Line :=
  [.ofLocal "service_impl", .text ".", .item s.fnName, .text "("] ++
    Line.joined ", " ((arguments s).map fun v => [.reads v]) ++ [.text ").await"]

/-- The handler of an operation, for the prefix of its version. -/
def ofSignature (naming : Naming) (traitName urlPrefix api : String) (s : Signature) : Handler :=
  let o := s.operation
  { fnName := s.fnName
    extractors := extractorsOf traitName s
    body :=
      .line [.text "let ", .newLocal "log_fields", .text " = LogFields::new(",
          .quoted (api ++ "." ++ o.name), .text ", ", .quoted o.endpoint.method.name, .text ", ",
          .quoted (urlPrefix ++ o.endpoint.url), .text ");"] ++
        .line [.ofLocal "log_fields", .text ".received();"] ++
        urlGroup.code naming s.url ++ headerGroup.code naming s.header ++
        queryGroup.code naming s.query ++ bodyCode naming s.body ++
        ServiceArm.dispatch (callLine s) (ServiceArm.ofSignature s) }

/-- The code of a handler. -/
def code (h : Handler) : Code :=
  .ofCalls [
    .line [.text "async fn ", .declares h.fnName, .text "("],
    .indent,
    .each (h.extractors.map fun l => .line (l ++ [.text ","])),
    .dedent,
    .opening .inside [.text ") -> Response"],
    .code h.body,
    .brace]

end Handler

end ApiCodegen
