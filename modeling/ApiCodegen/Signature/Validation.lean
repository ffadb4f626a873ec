import ApiCodegen.Signature.Operation
import ApiCodegen.Types.ModelGraph

/-!
# Validation

The rules that a description has to keep before code is generated from it. The rules are tried in
the order of declaration: first the error taxonomy, then version by version the models and the
operations. The first rule that is broken is the fault.
-/

namespace ApiCodegen.Validation

/-- Checks the error responses; `seen` holds the statuses that are taken. -/
def checkErrorResponses (scope : Scope) (here : Location) (seen : List String) :
    List ErrorResponse → Except Fault Unit
  | [] => .ok ()
  | r :: rs => do
    let inner := (here.child "responses").child r.status
    if (statusCode? r.status).isNone then .error (.unknownStatus r.status inner)
    else if seen.contains r.status then .error (.duplicateResponse r.status here)
    else
      let _ ← scope.resolve inner r.type
      checkErrorResponses scope here (r.status :: seen) rs

/-- Whether a type refers to a record of the description. -/
def refersToObject (scope : Scope) : ResolvedType → Bool
  | .model name origin _ =>
    origin != .standard && ((scope.lookup name).bind Prod.snd).any Model.isObject
  | _ => false

/-- Checks an alternative of a choice. -/
def checkItem (scope : Scope) (here : Location) (model : String) (tagged : Bool) (item : Field) :
    Except Fault Unit := do
  let here := here.child item.name
  let type ← scope.resolve here item.type
  if tagged && !refersToObject scope type then
    .error (.invalidOneOf model (.notAnObject item.name item.type.notate) here)

/-- Checks a model on its own. -/
def checkModel (scope : Scope) (here : Location) (m : Model) : Except Fault Unit :=
  let here := here.child m.name
  match m.kind with
  | .object fields => fields.forM fun f => discard (scope.resolve (here.child f.name) f.type)
  | .oneOf items discriminator =>
    if items.isEmpty then .error (.invalidOneOf m.name .noItems here)
    else items.forM (checkItem scope here m.name discriminator.isSome)
  | .enum values => if values.isEmpty then .error (.emptyEnum m.name here) else .ok ()

/-- Checks models, and that none holds itself. -/
def checkModels (scope : Scope) (here : Location) (models : List Model) : Except Fault Unit := do
  models.forM (checkModel scope here)
  match (ModelGraph.ofModels models).plainCycle? with
  | some model => .error (.selfReference model (here.child model))
  | none => .ok ()

/-- Checks the error taxonomy. -/
def checkErrors (e : HttpErrors) : Except Fault Unit := do
  let here := Location.root.child "http_errors"
  checkErrorResponses (.ofErrors e) here (standardErrors.map Prod.fst) e.responses
  checkModels (.ofErrors e) (here.child "models") e.models

/-- Checks that the placeholders of the URL and its parameters have the same names. -/
def checkUrl (here : Location) (e : Endpoint) : Except Fault Unit := do
  let mismatch (name : String) : Fault := .urlParamMismatch name e.url here
  match e.params.find? fun p => !e.placeholders.contains p.name with
  | some p => .error (mismatch p.name)
  | none =>
    match e.placeholders.find? fun name => !e.params.any (·.name == name) with
    | some name => .error (mismatch name)
    | none => .ok ()

/-- The location of a parameter. -/
def paramLocation (here : Location) (location : ParamLocation) (p : Param) : Location :=
  (here.child location.name).child p.name

/-- Checks that pairs of texts can carry the type of a parameter. -/
def checkParam (scope : Scope) (here : Location) (p : Param) : Except Fault Unit :=
  let unsupported : Fault := .unsupportedParamType p.type.notate here
  match ParamShape.ofType? p.type with
  | none => .error unsupported
  | some shape =>
    if shape == .array && p.default.isSome then .error unsupported
    else do
      match ← scope.resolveName p.type.leaf here with
      | .primitive .json | .primitive .empty => .error unsupported
      | .primitive _ => .ok ()
      | type => if type.isEnum then .ok () else .error unsupported

/-- The identifiers that are taken, each with the name it stands for. -/
structure Taken where
  params : List (String × String)
  /-- The fields of the form, which do not meet the other parameters. -/
  fields : List (String × String)

/-- Checks the identifiers of the parameters of one operation. -/
def checkIdents (naming : Naming) (here : Location) (taken : Taken) :
    List (ParamLocation × Param) → Except Fault Unit
  | [] => .ok ()
  | (location, p) :: ps =>
    let ident := naming.fieldName p.name
    if Signature.reservedIdents.contains (Naming.unraw ident) then
      .error (.reservedParamName p.name ident (paramLocation here location p))
    else
      let seen := if location == .form then taken.fields else taken.params
      match seen.lookup ident with
      | some first => .error (.duplicateParamName first p.name ident here)
      | none =>
        let taken := if location == .form then { taken with fields := (ident, p.name) :: seen }
          else { taken with params := (ident, p.name) :: seen }
        checkIdents naming here taken ps

/-- The identifiers that are taken before the parameters: the payload has one. -/
def initiallyTaken (body : RequestBody) : Taken :=
  match body with
  | .empty => ⟨[], []⟩
  | _ => ⟨[(Signature.bodyIdent, Signature.bodyIdent)], []⟩

/-- Checks the responses of an operation; `seen` holds the variants that are taken, each with its
status. -/
def checkResponses (scope : Scope) (naming : Naming) (here : Location)
    (seen : List (String × String)) : List Response → Except Fault Unit
  | [] => .ok ()
  | r :: rs =>
    let inner := (here.child "responses").child r.status
    if (statusCode? r.status).isNone then .error (.unknownStatus r.status inner)
    else
      let variant := naming.variantName r.status
      match seen.lookup variant with
      | some first =>
        if first = r.status then .error (.duplicateResponse r.status here)
        else .error (.ambiguousResponse first r.status variant here)
      | none => do
        discard (Signature.payloadOf scope inner r.body)
        checkResponses scope naming here ((variant, r.status) :: seen) rs

/-- Checks the type of a JSON payload. -/
def checkBody (scope : Scope) (here : Location) : RequestBody → Except Fault Unit
  | .json type _ => discard (scope.resolve (here.child "body") type)
  | .empty | .rawString _ | .formData _ | .formUrlEncoded _ => .ok ()

/-- Checks an operation. -/
def checkOperation (scope : Scope) (naming : Naming) (here : Location) (o : Operation) :
    Except Fault Unit := do
  checkUrl here o.endpoint
  o.params.forM fun (location, p) => checkParam scope (paramLocation here location p) p
  checkIdents naming here (initiallyTaken o.body) o.params
  checkBody scope here o.body
  if o.responses.isEmpty then .error (.emptyResponses here)
  checkResponses scope naming here [] o.responses

/-- Checks a version. -/
def checkVersion (e : HttpErrors) (naming : Naming) (v : Version) : Except Fault Unit := do
  let scope := Scope.ofVersion v e
  let here := Location.root.child v.name
  checkModels scope (here.child "models") v.models
  v.apis.forM fun a =>
    a.operations.forM fun o =>
      checkOperation scope naming ((here.child a.name).child o.name) o

end Validation

/-- Checks a description; the first broken rule is the fault. -/
def Spec.validate (s : Spec) (naming : Naming) : Except Fault Unit := do
  Validation.checkErrors s.httpErrors
  s.versions.forM (Validation.checkVersion s.httpErrors naming)

end ApiCodegen
