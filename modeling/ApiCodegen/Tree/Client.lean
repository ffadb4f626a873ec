import ApiCodegen.Tree.Operations

/-!
# Client files

One blocking client for each API, with a method for each operation. A method makes the URL from its
template, adds query, headers and payload, sends the request and dispatches on the status of the
response.
-/

namespace ApiCodegen

/-- A URL template cut at its placeholders: the text before each, its name, and the text at the
end. -/
structure UrlTemplate where
  parts : List (String × String)
  rest : String
deriving DecidableEq, Repr

namespace UrlTemplate

/-- Parts characters at the first occurrence of a mark, which is dropped. -/
def cutAt? (mark : Char) : List Char → Option (List Char × List Char)
  | [] => none
  | c :: cs =>
    if c = mark then some ([], cs)
    else (cutAt? mark cs).map fun (before, rest) => (c :: before, rest)

theorem length_lt_of_cutAt? {mark : Char} {cs before rest : List Char}
    (h : cutAt? mark cs = some (before, rest)) : rest.length < cs.length := by
  induction cs generalizing before with
  | nil => simp [cutAt?] at h
  | cons c cs ih =>
    rw [cutAt?] at h
    split at h
    · simp_all
    · obtain ⟨⟨b, r⟩, hb, heq⟩ := Option.map_eq_some_iff.1 h
      simp only [Prod.mk.injEq] at heq
      have := ih (heq.2 ▸ hb)
      simp only [List.length_cons]
      omega

/-- Cuts a template at its placeholders. An open brace that is never closed ends the search, and
what follows it is text. -/
def scan (cs : List Char) : UrlTemplate :=
  match _open : cutAt? '\x7b' cs with
  | none => ⟨[], String.ofList cs⟩
  | some (before, inside) =>
    match _close : cutAt? '\x7d' inside with
    | none => ⟨[], String.ofList cs⟩
    | some (name, rest) =>
      let t := scan rest
      ⟨(String.ofList before, String.ofList name) :: t.parts, t.rest⟩
termination_by cs.length
decreasing_by exact Nat.lt_trans (length_lt_of_cutAt? _close) (length_lt_of_cutAt? _open)

/-- Cuts the text of a template. -/
def ofString (url : String) : UrlTemplate := scan url.toList

/-- The names of the placeholders. -/
def names (t : UrlTemplate) : List String := t.parts.map Prod.snd

/-- The format string with a hole for each placeholder. -/
def format (t : UrlTemplate) : String :=
  String.join (t.parts.map fun (before, _) => before ++ "\x7b\x7d") ++ t.rest

/-- The codecs that fill the holes. -/
def arguments (t : UrlTemplate) (url : List ParamCodec) : List ParamCodec :=
  t.names.filterMap fun name => url.find? (·.param.name == name)

end UrlTemplate

/-- A method of a client. -/
structure ClientMethod where
  comment : Code
  fnName : String
  formals : List Signature.Formal
  returns : Spelling
  body : Code

namespace ClientMethod

/-- The variable with the request that is being made. -/
def builder : String := "request_builder"

/-- The statement that makes the URL of the request. -/
def urlLine (url : String) (codecs : List ParamCodec) : Line :=
  let template := UrlTemplate.ofString url
  [.text "let ", .newLocal "request_url", .text " = format!(",
      .quoted ("\x7b\x7d" ++ template.format), .text ", self.base_url"] ++
    (template.arguments codecs).flatMap (fun c => .text ", " :: c.urlArgument) ++ [.text ");"]

/-- The code that adds the query. -/
def queryCode (codecs : List ParamCodec) : Code :=
  if codecs.isEmpty then .nothing
  else
    writingCode ⟨"query_writer", .generated⟩ (fun c => [.reads c.var]) codecs ++
      .line [.text "let ", .newLocal builder, .text " = ", .ofLocal builder, .text ".query(&",
        .ofLocal "query_writer", .text ".into_pairs());"]

/-- The code that adds the headers. -/
def headerCode (codecs : List ParamCodec) : Code :=
  if codecs.isEmpty then .nothing
  else
    .ofCalls [
      .code (writingCode ⟨"header_writer", .generated⟩ (fun c => [.reads c.var]) codecs),
      .line [.text "let ", .newLocal builder, .text " = ", .ofLocal "header_writer"],
      .indent,
      .texts [".into_pairs()", ".into_iter()"],
      .line [.text ".fold(", .ofLocal builder,
        .text ", |builder, (name, value)| builder.header(name, value));"],
      .dedent]

/-- The code that adds a form that has been written. -/
def formCode (multipart : Bool) : Code :=
  if multipart then
    .ofCalls [
      .line [.text "let ", .newLocal "multipart_form", .text " = ", .ofLocal "form_writer"],
      .indent,
      .texts [".into_pairs()", ".into_iter()"],
      .line [.text
        ".fold(reqwest::blocking::multipart::Form::new(), |form, (name, value)| \x7b"],
      .indent,
      .texts ["form.text(name, value)"],
      .dedent,
      .ends [.text "\x7d);"],
      .dedent,
      .line [.text "let ", .newLocal builder, .text " = ", .ofLocal builder,
        .text ".multipart(", .ofLocal "multipart_form", .text ");"]]
  else
    .line [.text "let ", .newLocal builder, .text " = ", .ofLocal builder, .text ".form(&",
      .ofLocal "form_writer", .text ".into_pairs());"]

/-- The code that adds the payload. -/
def bodyCode : BodyShape → Code
  | .none => .nothing
  | .text =>
    .ofCalls [
      .line [.text "let ", .newLocal builder, .text " = ", .ofLocal builder],
      .indent,
      .texts [".header(reqwest::header::CONTENT_TYPE, \"text/plain\")"],
      .line [.text ".body(", .reads Signature.bodyVar, .text ".to_string());"],
      .dedent]
  | .json _ =>
    .line [.text "let ", .newLocal builder, .text " = ", .ofLocal builder, .text ".json(",
      .reads Signature.bodyVar, .text ");"]
  | .form _ fields multipart =>
    (if fields.isEmpty then
      .line [.text "let ", .newLocal "form_writer", .text " = ParamsWriter::new();"]
    else
      writingCode ⟨"form_writer", .generated⟩
        (fun c => [.reads Signature.bodyVar, .text ".", .item c.ident]) fields) ++
    formCode multipart

/-- The method of an operation, for the prefix of its version. -/
def ofSignature (naming : Naming) (urlPrefix : String) (api : String) (s : Signature)
    (errors : List ErrorVariant) : ClientMethod :=
  let o := s.operation
  let id := api ++ "." ++ o.name
  let method := o.endpoint.method.name
  let url := urlPrefix ++ o.endpoint.url
  { comment :=
      .doc o.description ++ (if o.description.isSome then .texts ["///"] else .nothing) ++
        .line [.text ("/// Sends `" ++ method ++ " "), .copied url, .text "`."] ++
        .texts ["///", "/// # Errors", "///",
          "/// Returns [`ClientError`] for declared error responses, unexpected",
          "/// status codes and transport or decoding failures."]
    fnName := s.fnName
    formals := s.clientFormals naming .inApi
    returns := s.returnSpelling naming .inApi
    body :=
      .line (urlLine url s.url) ++
        .line [.text "tracing::info!(operation_id = ", .quoted id, .text ", method = ",
          .quoted method, .text ", url = %", .ofLocal "request_url",
          .text ", \"Sending request\");"] ++
        .line [.text "let ", .newLocal builder,
          .text (" = self.http.request(reqwest::Method::" ++ method ++ ", &"),
          .ofLocal "request_url", .text ");"] ++
        queryCode s.query ++ headerCode s.header ++ bodyCode s.body ++
        .line [.text "let ", .newLocal "http_response", .text " = ", .ofLocal builder,
          .text ".send().map_err(ClientError::Transport)?;"] ++
        .line [.text "let ", .newLocal "status", .text " = ", .ofLocal "http_response",
          .text ".status().as_u16();"] ++
        .line [.text "tracing::info!(operation_id = ", .quoted id, .text ", ",
          .ofLocal "status", .text ", \"Received response\");"] ++
        ClientBranch.dispatch naming (ClientBranch.ofSignature s errors) }

/-- The code of a method. -/
def code (m : ClientMethod) : Code :=
  .ofCalls [
    .code m.comment,
    .opening .inside ([.text "pub fn ", .declares m.fnName] ++ Signature.receiverLine m.formals ++
      [.text " -> Result<", .spelled m.returns, .text ", ClientError>"]),
    .code m.body,
    .brace]

end ClientMethod

namespace Emission

/-- Whether the client of an API writes pairs. -/
def writesPairs (a : Api) : Bool :=
  a.hasParamAt .query || a.hasParamAt .header || a.hasBody .formData || a.hasBody .formUrlEncoded

/-- Whether an error response has a model of the error taxonomy. -/
def hasErrorModel (variants : List ErrorVariant) : Bool :=
  variants.any fun v =>
    match v.type.leaf with
    | .model _ .error _ => true
    | _ => false

/-- The imports of a client file. -/
def clientUses (e : Emission) (v : Version) (a : Api) (errors : List ErrorVariant) :
    List UsePath :=
  [.internal ["errmodels"] .module, .internal ["errors"] (.name "ClientError"),
    .internal ["response"] .module] ++
  useIf (hasErrorModel errors) (.internal ["errors"] .module) ++
  useIf (writesPairs a) (.internal ["params"] (.name "ParamsWriter")) ++
  e.apiUses v a

/-- The declaration of the client and its constructors. -/
def clientStructCode (api : String) : Code :=
  .ofCalls [
    .line [.text "/// Client of the `", .copied api, .text "` API."],
    .texts ["#[derive(Debug, Clone)]"],
    .opening .inside [.text "pub struct ", .declares "Client"],
    .texts ["base_url: String,", "http: reqwest::blocking::Client,"],
    .brace,
    .blank]

/-- The constructors of the client. -/
def clientConstructorsCode : Code :=
  .ofCalls [
    .texts ["/// Creates a client sending requests to `base_url`.", "#[must_use]"],
    .opening .inside
      [.text "pub fn ", .declares "new", .text "(base_url: impl Into<String>) -> Self"],
    .texts ["Self::with_http_client(base_url, reqwest::blocking::Client::new())"],
    .brace,
    .blank,
    .texts ["/// Creates a client sending requests through `http`.", "#[must_use]"],
    .opening .inside [.text "pub fn ", .declares "with_http_client",
      .text "(base_url: impl Into<String>, http: reqwest::blocking::Client) -> Self"],
    .texts ["let base_url = base_url.into().trim_end_matches('/').to_string();",
      "Self \x7b base_url, http \x7d"],
    .brace]

/-- The methods of a client. -/
def clientMethods (e : Emission) (v : Version) (a : Api) (sigs : List Signature)
    (errors : List ErrorVariant) : List ClientMethod :=
  sigs.map fun s => .ofSignature e.naming v.urlPrefix a.name s errors

/-- The client file of an API. -/
def clientFile (e : Emission) (v : Version) (a : Api) : Except Fault TreeFile := do
  let sigs ← e.signatures v a
  let errors ← e.errorVariants
  let methods := e.clientMethods v a sigs errors
  let body : Code := .ofCalls [
    .code (Signature.typesCode e.naming sigs),
    .code (clientStructCode a.name),
    .opening .inside [.text "impl Client"],
    .code clientConstructorsCode,
    .each (methods.map fun m => .blank ++ m.code),
    .brace]
  return ⟨⟨.generated, [e.versionModule v], e.apiModule a⟩,
    .source (.plain (e.clientUses v a errors) body)⟩

end Emission

end ApiCodegen
