import ApiCodegen.Tree.Handler

/-!
# Service files

For each API a module with the trait of its service and a module with its router and handlers; and
one module that merges all routers. Operations with one path share a route.
-/

namespace ApiCodegen

/-- The operations at one path. -/
structure RouteGroup where
  path : String
  signatures : List Signature
deriving DecidableEq, Repr

namespace RouteGroup

/-- Adds an operation to the group of its path, or in a group of its own at the end. -/
def insert (path : String) (s : Signature) : List RouteGroup → List RouteGroup
  | [] => [⟨path, [s]⟩]
  | g :: gs =>
    if g.path = path then { g with signatures := g.signatures ++ [s] } :: gs
    else g :: insert path s gs

/-- The groups of operations, for the prefix of their version. -/
def ofSignatures (urlPrefix : String) (sigs : List Signature) : List RouteGroup :=
  sigs.foldl (fun groups s => insert (urlPrefix ++ s.operation.endpoint.url) s groups) []

/-- The handler of an operation behind the filter of its method. -/
def methodLine (s : Signature) : Line :=
  [.text ("on(MethodFilter::" ++ s.operation.endpoint.method.name ++ ", "), .item s.fnName,
    .text ")"]

/-- The route of a group. -/
def code (g : RouteGroup) : Code :=
  .line ([.text ".route(", .quoted g.path, .text ", "] ++
    Line.joined "." (g.signatures.map methodLine) ++ [.text ")"])

end RouteGroup

/-- What the handlers of an API need; decides what their module imports. -/
structure HandlerNeeds where
  url : Bool
  query : Bool
  header : Bool
  form : Bool
  multipart : Bool
  urlEncoded : Bool
  /-- Whether a form in the URL encoding has fields. -/
  urlEncodedFields : Bool
  text : Bool
  json : Bool
  /-- Whether a handler takes the headers. -/
  headers : Bool
deriving DecidableEq, Repr

namespace HandlerNeeds

/-- Whether the payload is a form in the URL encoding with fields. -/
def isUrlEncodedWithFields : RequestBody → Bool
  | .formUrlEncoded params => !params.isEmpty
  | .empty | .rawString _ | .json _ _ | .formData _ => false

/-- The needs of an API. -/
def ofApi (a : Api) : HandlerNeeds where
  url := a.hasParamAt .url
  query := a.hasParamAt .query
  header := a.hasParamAt .header
  form := a.hasParamAt .form
  multipart := a.hasBody .formData
  urlEncoded := a.hasBody .formUrlEncoded
  urlEncodedFields := a.operations.any fun o => isUrlEncodedWithFields o.body
  text := a.hasBody .rawString
  json := a.hasBody .json
  headers := a.readsHeaders

/-- Whether there is any payload. -/
def anyBody (n : HandlerNeeds) : Bool := n.multipart || n.urlEncoded || n.text || n.json

/-- The imports of handlers with these needs. -/
def uses (n : HandlerNeeds) : List UsePath :=
  [.internal ["errors"] .module, .internal ["respond"] (.names ["self", "LogFields"])] ++
  useIf (n.url || n.query || n.header || n.form) (.internal ["params"] (.name "ParamsParser")) ++
  useIf (n.query || n.header || n.form || n.text)
    (.internal ["errmodels"] (.names ["BadRequestError", "ErrorLocation"])) ++
  useIf (n.query || n.header || n.form) (.internal ["convert"] .module) ++
  useIf (n.header || n.anyBody) (.internal ["content_type"] .module) ++
  useIf n.json (.internal ["json"] .module) ++
  useIf (n.multipart || n.urlEncodedFields) (.internal ["form"] .module) ++
  [.external "axum::Router", .external "axum::extract::State",
    .external "axum::response::Response", .external "axum::routing::\x7bMethodFilter, on\x7d"] ++
  useIf n.url (.external "axum::extract::Path") ++
  useIf n.query (.external "axum::extract::Query") ++
  useIf n.multipart (.external "axum::extract::Multipart") ++
  useIf n.multipart (.external "axum::extract::multipart::MultipartRejection") ++
  useIf n.headers (.external "axum::http::HeaderMap") ++
  useIf (n.urlEncodedFields || n.text || n.json) (.external "axum::body::Bytes") ++
  [.external "std::sync::Arc"]

end HandlerNeeds

/-- The declaration of a method of a service. -/
def Signature.traitMethodCode (s : Signature) (naming : Naming) : Code :=
  .doc s.operation.description ++
    .line ([.text "async fn ", .declares s.fnName] ++
      Signature.receiverLine (s.serviceFormals naming .inApi) ++
      [.text " -> Result<", .spelled (s.returnSpelling naming .inApi), .text ", ServiceError>;"])

/-- Pieces of code with a blank line between them. -/
def spaced : List Code → Code
  | [] => .nothing
  | [c] => c
  | c :: cs => c ++ .blank ++ spaced cs

namespace Emission

/-- The body of the module with the trait of a service. -/
def serviceBody (e : Emission) (a : Api) (sigs : List Signature) : Code :=
  .ofCalls [
    .code (Signature.typesCode e.naming sigs),
    .line [.text "/// Operations of the `", .copied a.name, .text "` API."],
    .texts ["#[async_trait::async_trait]"],
    .opening .inside [.text "pub trait ", .declares (e.traitName a), .text ": Send + Sync"],
    .code (spaced (sigs.map (·.traitMethodCode e.naming))),
    .brace]

/-- The handlers of an API. -/
def handlers (e : Emission) (v : Version) (a : Api) (sigs : List Signature) : List Handler :=
  sigs.map (.ofSignature e.naming (e.traitName a) v.urlPrefix a.name)

/-- The router of an API. -/
def routerCode (e : Emission) (v : Version) (a : Api) (sigs : List Signature) : Code :=
  .ofCalls [
    .line [.text "/// Router of the `", .copied a.name, .text "` API."],
    .opening .inside [.text "pub fn ", .declares "routes", .text "(service: Arc<dyn ",
      .item (e.traitName a), .text ">) -> Router"],
    .line [.text "Router::new()"],
    .indent,
    .each ((RouteGroup.ofSignatures v.urlPrefix sigs).map RouteGroup.code),
    .texts [".with_state(service)"],
    .dedent,
    .brace]

/-- The directory of an API below the generated root. -/
def apiDirs (e : Emission) (v : Version) (a : Api) : List String :=
  [e.versionModule v, e.apiModule a]

/-- The files of the service of an API. -/
def serviceFiles (e : Emission) (v : Version) (a : Api) : Except Fault (List TreeFile) := do
  let sigs ← e.signatures v a
  let serviceUses := .internal ["errors"] (.name "ServiceError") :: e.apiUses v a
  let routing := e.routerCode v a sigs ++
    .all ((e.handlers v a sigs).map fun h => .blank ++ h.code)
  return [
    ⟨.ofDirectory .generated (e.apiDirs v a),
      .source ⟨["routing"], false, serviceUses, e.serviceBody a sigs⟩⟩,
    ⟨⟨.generated, e.apiDirs v a, "routing"⟩,
      .source ⟨[], true, (HandlerNeeds.ofApi a).uses, routing⟩⟩]

/-- An API that the root router merges. -/
structure MergedApi where
  /-- The parameter with its service. -/
  binding : String
  /-- Its module below the generated root. -/
  modules : List String
  traitName : String
deriving DecidableEq, Repr

/-- The APIs of all versions. -/
def mergedApis (e : Emission) : List MergedApi :=
  e.spec.versions.flatMap fun v =>
    v.apis.map fun a =>
      ⟨Naming.unraw (e.versionModule v) ++ "_" ++ Naming.unraw (e.apiModule a),
        e.apiDirs v a, e.traitName a⟩

/-- The path of a merged API. -/
def MergedApi.path (root : String) (m : MergedApi) : String := modulePath (root :: m.modules)

/-- The parameter with the service of a merged API. -/
def MergedApi.formalLine (root : String) (m : MergedApi) : Line :=
  [.newLocal m.binding, .text (": Arc<dyn " ++ m.path root ++ "::"), .item m.traitName, .text ">"]

/-- The line that merges the router of an API. -/
def MergedApi.mergeLine (root : String) (m : MergedApi) : Line :=
  [.text (".merge(" ++ m.path root ++ "::routing::routes("), .ofLocal m.binding, .text "))"]

/-- The file that merges the routers of all APIs. -/
def rootRouterFile (e : Emission) : TreeFile :=
  let root := e.config.modulePath
  let apis := e.mergedApis
  ⟨⟨.generated, [], "routing"⟩,
    .source (.plain
      (.external "axum::Router" :: useIf (!apis.isEmpty) (.external "std::sync::Arc"))
      (.ofCalls [
        .texts ["/// Router serving every API of every version."],
        .opening .inside ([.text "pub fn ", .declares "routes", .text "("] ++
          Line.joined ", " (apis.map (·.formalLine root)) ++ [.text ") -> Router"]),
        .line [.text "Router::new()"],
        .indent,
        .each (apis.map fun m => .line (m.mergeLine root)),
        .dedent,
        .brace]))⟩

end Emission

end ApiCodegen
