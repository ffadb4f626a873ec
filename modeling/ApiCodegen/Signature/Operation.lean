import ApiCodegen.Signature.ParamCodec

/-!
# Signatures of operations

The function that an operation becomes: its payload, its parameters in the order query, headers,
URL, and what it returns. An operation with one response returns the value of that response, any
other a value of an enum with one variant for each response.
-/

namespace ApiCodegen

/-- The payload of a request. -/
inductive BodyShape where
  | none
  | text
  | json (type : ResolvedType)
  /-- The fields of a form, gathered in a struct. -/
  | form (structName : String) (fields : List ParamCodec) (multipart : Bool)
deriving DecidableEq, Repr

/-- The payload of a response. -/
inductive Payload where
  | empty
  | text
  | json (type : ResolvedType)
deriving DecidableEq, Repr

/-- The type of a payload, if it has one. -/
def Payload.spelling? (naming : Naming) (paths : TypePaths) : Payload → Option Spelling
  | empty => none
  | text => some (.primitive .string)
  | json type => some (type.spell naming paths)

/-- A declared response with its variant and its status code. -/
structure ResponseVariant where
  name : String
  code : Nat
  response : Response
  payload : Payload
deriving DecidableEq, Repr

/-- What an operation returns. -/
inductive Returns where
  | single (variant : ResponseVariant)
  | multiple (enumName : String) (variants : List ResponseVariant)
deriving DecidableEq, Repr

/-- The responses in order of declaration. -/
def Returns.variants : Returns → List ResponseVariant
  | single variant => [variant]
  | multiple _ variants => variants

/-- The function that an operation becomes. -/
structure Signature where
  operation : Operation
  fnName : String
  body : BodyShape
  query : List ParamCodec
  header : List ParamCodec
  url : List ParamCodec
  returns : Returns
deriving DecidableEq, Repr

namespace Signature

/-- The name of the parameter with the payload. -/
def bodyIdent : String := "body"

/-- The identifiers that handlers and client methods introduce before all parameters have been
read. -/
def reservedIdents : List String :=
  ["self", "request_url", "request_builder", "query_writer", "header_writer", "service_impl",
    "url_pairs", "query_pairs", "request_headers", "multipart_body", "request_body", "log_fields",
    "url_parser", "header_parser", "query_parser", "form_parser", "form_pairs"]

/-- Resolves the payload of a response. -/
def payloadOf (scope : Scope) (here : Location) : ResponseBody → Except Fault Payload
  | .empty => .ok .empty
  | .rawString => .ok .text
  | .json type => (scope.resolve here type).map .json

/-- Resolves a response. -/
def variantOf (scope : Scope) (naming : Naming) (here : Location) (r : Response) :
    Except Fault ResponseVariant := do
  let here := (here.child "responses").child r.status
  let payload ← payloadOf scope here r.body
  match statusCode? r.status with
  | none => .error (.unknownStatus r.status here)
  | some code => return ⟨naming.variantName r.status, code, r, payload⟩

/-- What an operation with the given responses returns. -/
def returnsOf (enumName : String) : List ResponseVariant → Returns
  | [variant] => .single variant
  | variants => .multiple enumName variants

/-- The name of the struct with the fields of a form. -/
def formName (naming : Naming) (o : Operation) : String := naming.typeName o.name ++ "Form"

/-- The name of the enum of the responses. -/
def responseName (naming : Naming) (o : Operation) : String := naming.typeName o.name ++ "Response"

/-- Resolves the payload of a request. -/
def bodyOf (scope : Scope) (naming : Naming) (here : Location) (o : Operation) :
    Except Fault BodyShape :=
  let form (params : List Param) (multipart : Bool) : Except Fault BodyShape :=
    (params.mapM (ParamCodec.ofParam scope naming here .form)).map fun fields =>
      .form (formName naming o) fields multipart
  match o.body with
  | .empty => .ok .none
  | .rawString _ => .ok .text
  | .json type _ => (scope.resolve (here.child "body") type).map .json
  | .formData params => form params true
  | .formUrlEncoded params => form params false

/-- The signature of an operation. -/
def ofOperation (scope : Scope) (naming : Naming) (here : Location) (o : Operation) :
    Except Fault Signature := do
  let body ← bodyOf scope naming here o
  let variants ← o.responses.mapM (variantOf scope naming here)
  let query ← o.queryParams.mapM (ParamCodec.ofParam scope naming here .query)
  let header ← o.headerParams.mapM (ParamCodec.ofParam scope naming here .header)
  let url ← o.endpoint.params.mapM (ParamCodec.ofParam scope naming here .url)
  return ⟨o, naming.fnName o.name, body, query, header, url,
    returnsOf (responseName naming o) variants⟩

/-- The parameters besides the payload, in the order of the function. -/
def params (s : Signature) : List ParamCodec := s.query ++ s.header ++ s.url

/-- The resolved types that the function itself names. -/
def types (s : Signature) : List ResolvedType :=
  let body := match s.body with
    | .json type => [type]
    | .none | .text | .form _ _ _ => []
  let payload := match s.returns with
    | .single ⟨_, _, _, .json type⟩ => [type]
    | .single _ | .multiple _ _ => []
  body ++ s.params.map (·.type) ++ payload

/-- The type of a successful result. -/
def returnSpelling (s : Signature) (naming : Naming) (paths : TypePaths) : Spelling :=
  match s.returns with
  | .single variant => (variant.payload.spelling? naming paths).getD .unit
  | .multiple enumName _ => .named "" enumName

/-- A parameter of a function, with its variable. -/
structure Formal where
  var : Var
  type : Spelling
deriving DecidableEq, Repr

/-- The variable with the payload. -/
def bodyVar : Var := ⟨bodyIdent, .body⟩

/-- The parameters of a function, given the type of the payload. -/
def formals (s : Signature) (naming : Naming) (paths : TypePaths) (body : Option Spelling) :
    List Formal :=
  (body.map (Formal.mk bodyVar)).toList ++
    s.params.map fun c => ⟨c.var, c.type.spell naming paths⟩

/-- The parameters of the service, which owns the payload. -/
def serviceFormals (s : Signature) (naming : Naming) (paths : TypePaths) : List Formal :=
  s.formals naming paths <|
    match s.body with
    | .none => none
    | .text => some (.primitive .string)
    | .json type => some (type.spell naming paths)
    | .form structName _ _ => some (.named "" structName)

/-- The parameters of the client, which borrows the payload. -/
def clientFormals (s : Signature) (naming : Naming) (paths : TypePaths) : List Formal :=
  s.formals naming paths <|
    match s.body with
    | .none => none
    | .text => some .text
    | .json type => some (.borrowed (type.spell naming paths))
    | .form structName _ _ => some (.borrowed (.named "" structName))

/-- A list of parameters with their types. -/
def formalsLine (formals : List Formal) : Line :=
  Line.joined ", " (formals.map fun f => [.binds f.var, .text ": ", .spelled f.type])

/-- The parameters after the receiver. -/
def receiverLine (formals : List Formal) : Line :=
  .text (if formals.isEmpty then "(&self" else "(&self, ") :: formalsLine formals ++ [.text ")"]

end Signature

end ApiCodegen
