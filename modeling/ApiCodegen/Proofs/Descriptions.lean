import ApiCodegen.Description.Usage
import ApiCodegen.Proofs.Sequencing
import ApiCodegen.Signature.Validation

/-!
# Descriptions of parts

The text that describes a part of a specification is there for its readers. `bare` takes it away,
from a part and from all parts inside. Whatever is looked up, met on a walk or asked of a part is
the same for the bare part, and so is the verdict of validation.
-/

namespace ApiCodegen

/-- The field without its description. The other parts follow in the order of their declaration. -/
def Field.bare (f : Field) : Field := { f with description := none }

def EnumValue.bare (v : EnumValue) : EnumValue := { v with description := none }

def ModelKind.bare : ModelKind → ModelKind
  | object fields => object (fields.map Field.bare)
  | oneOf items discriminator => oneOf (items.map Field.bare) discriminator
  | enum values => enum (values.map EnumValue.bare)

def Model.bare (m : Model) : Model := ⟨m.name, m.kind.bare, none⟩

def Param.bare (p : Param) : Param := { p with description := none }

def Endpoint.bare (e : Endpoint) : Endpoint := { e with params := e.params.map Param.bare }

def RequestBody.bare : RequestBody → RequestBody
  | empty => empty
  | rawString _ => rawString none
  | json type _ => json type none
  | formData params => formData (params.map Param.bare)
  | formUrlEncoded params => formUrlEncoded (params.map Param.bare)

def Response.bare (r : Response) : Response := { r with description := none }

def Operation.bare (o : Operation) : Operation where
  name := o.name
  endpoint := o.endpoint.bare
  headerParams := o.headerParams.map Param.bare
  queryParams := o.queryParams.map Param.bare
  body := o.body.bare
  responses := o.responses.map Response.bare
  description := none

def Api.bare (a : Api) : Api := { a with operations := a.operations.map Operation.bare }

def Version.bare (v : Version) : Version :=
  { v with apis := v.apis.map Api.bare, models := v.models.map Model.bare }

def ErrorResponse.bare (r : ErrorResponse) : ErrorResponse := { r with description := none }

def HttpErrors.bare (e : HttpErrors) : HttpErrors :=
  ⟨e.responses.map ErrorResponse.bare, e.models.map Model.bare⟩

/-- The specification without any description. -/
def Spec.bare (s : Spec) : Spec :=
  { s with versions := s.versions.map Version.bare, httpErrors := s.httpErrors.bare }

/-- The scope of a bare specification. -/
def Scope.bare (s : Scope) : Scope := ⟨s.models.map Model.bare, s.errors.bare⟩

/-- What a walk over a bare part meets. -/
def Visit.bare : Visit → Visit
  | version v => version v.bare
  | api a => api a.bare
  | operation o => operation o.bare
  | param location p => param location p.bare
  | response o r => response o.bare r.bare
  | model m => model m.bare
  | type t => type t

end ApiCodegen

namespace ApiCodegen.Proofs

/-! ### Models -/

section Models

variable (m : Model) (models : List Model) (name : String)

@[simp] lemma isEnum_bare : m.bare.isEnum = m.isEnum := by
  obtain ⟨name, kind, description⟩ := m
  cases kind with
  | object _ | oneOf _ _ | enum _ => rfl

@[simp] lemma isObject_bare : m.bare.isObject = m.isObject := by
  obtain ⟨name, kind, description⟩ := m
  cases kind with
  | object _ | oneOf _ _ | enum _ => rfl

lemma parts_bare : m.bare.parts = m.parts.map Field.bare := by
  obtain ⟨name, kind, description⟩ := m
  cases kind with
  | object _ | oneOf _ _ | enum _ => rfl

lemma findModel_bare :
    findModel (models.map Model.bare) name = (findModel models name).map Model.bare :=
  List.find?_map

lemma ofModels_bare : ModelGraph.ofModels (models.map Model.bare) = .ofModels models := by
  have hnames : (models.map Model.bare).map (·.name) = models.map (·.name) := List.map_map
  have hedges : ∀ (names : List String) (m : Model),
      m.bare.parts.filterMap (·.edge? names) = m.parts.filterMap (·.edge? names) := by
    intro names m
    rw [parts_bare, List.filterMap_map]
    rfl
  unfold ModelGraph.ofModels
  simp only [hnames, List.foldl_map, hedges]
  rfl

end Models

/-! ### Names and types -/

section Names

variable (s : Scope) (e : HttpErrors)

lemma allResponses_bare : e.bare.allResponses = e.allResponses.map ErrorResponse.bare := by
  unfold HttpErrors.allResponses
  rw [List.map_append]
  rfl

/-- A name means the same for a bare specification. -/
lemma lookup_bare (name : String) : s.bare.lookup name =
    (s.lookup name).map fun (origin, m) => (origin, m.map Model.bare) := by
  obtain ⟨models, errors⟩ := s
  unfold Scope.lookup Scope.bare HttpErrors.model? HttpErrors.bare
  dsimp only
  rw [findModel_bare, findModel_bare]
  cases findModel models name with
  | some m => rfl
  | none =>
    cases findModel errors.models name with
    | some m => rfl
    | none =>
      dsimp only [Option.map_none]
      split
      · rfl
      · rfl

@[simp] lemma resolveName_bare : s.bare.resolveName = s.resolveName := by
  funext name location
  unfold Scope.resolveName
  rw [lookup_bare]
  cases Primitive.ofName? name with
  | some p => rfl
  | none =>
    cases s.lookup name with
    | none => rfl
    | some found =>
      obtain ⟨origin, m⟩ := found
      cases m with
      | none => rfl
      | some m => simp

@[simp] lemma resolve_bare : s.bare.resolve = s.resolve := by
  funext location t
  induction t with
  | named name => exact congrFun (congrFun (resolveName_bare s) name) location
  | nullable inner ih | array inner ih | map inner ih =>
    unfold Scope.resolve
    rw [ih]

lemma payloadOf_bare : Signature.payloadOf s.bare = Signature.payloadOf s := by
  funext location body
  unfold Signature.payloadOf
  rw [resolve_bare]

end Names

/-! ### Operations -/

section Operations

variable (o : Operation)

lemma params_bare : o.bare.params = o.params.map fun (location, p) => (location, p.bare) := by
  have hform : o.body.bare.formParams?.getD [] = (o.body.formParams?.getD []).map Param.bare := by
    cases o.body with
    | empty | rawString _ | json _ _ | formData _ | formUrlEncoded _ => rfl
  unfold Operation.params Operation.bare Endpoint.bare
  simp only [hform, List.map_append, List.map_map]
  rfl

@[simp] lemma kind_bare (body : RequestBody) : body.bare.kind = body.kind := by
  cases body with
  | empty | rawString _ | json _ _ | formData _ | formUrlEncoded _ => rfl

end Operations

/-! ### Walks -/

section Walks

variable (i : Interest)

lemma report_bare (v : Visit) : i.report v.bare = (i.report v).map Visit.bare := by
  have hincludes : i.includes v.bare = i.includes v := by
    cases v with
    | version _ | api _ | operation _ | param _ _ | response _ _ | model _ | type _ => rfl
  unfold Interest.report
  rw [hincludes]
  split
  · rfl
  · rfl

lemma walk_type_bare (t : TypeExpr) : (t.walk i).map Visit.bare = t.walk i := by
  induction t with
  | named name => exact (report_bare i (.type (.named name))).symm
  | nullable inner ih | array inner ih | map inner ih =>
    unfold TypeExpr.walk
    rw [List.map_append, ih, ← report_bare]
    rfl

lemma walk_model_bare (m : Model) : m.bare.walk i = (m.walk i).map Visit.bare := by
  unfold Model.walk
  rw [parts_bare, List.flatMap_map, List.map_append, List.map_flatMap, ← report_bare]
  simp only [walk_type_bare]
  rfl

lemma walk_models_bare (models : List Model) :
    walkModels i (models.map Model.bare) = (walkModels i models).map Visit.bare := by
  unfold walkModels
  rw [List.flatMap_map, List.map_flatMap]
  simp only [walk_model_bare]

lemma walk_operation_bare (o : Operation) : o.bare.walk i = (o.walk i).map Visit.bare := by
  have hparam : ∀ location (p : Param), Operation.walkParam i (location, p.bare) =
      (Operation.walkParam i (location, p)).map Visit.bare := by
    intro location p
    unfold Operation.walkParam
    rw [List.map_append, walk_type_bare, ← report_bare]
    rfl
  have hbody : Operation.walkBody i o.body.bare = (Operation.walkBody i o.body).map Visit.bare := by
    cases o.body with
    | json type description => exact (walk_type_bare i type).symm
    | empty | rawString _ | formData _ | formUrlEncoded _ => rfl
  have hresponse : ∀ r : Response,
      o.bare.walkResponse i r.bare = (o.walkResponse i r).map Visit.bare := by
    intro r
    obtain ⟨status, body, description⟩ := r
    unfold Operation.walkResponse
    rw [List.map_append, ← report_bare]
    cases body with
    | json type =>
      dsimp only
      rw [walk_type_bare]
      rfl
    | empty | rawString => rfl
  have hresponses : o.bare.responses = o.responses.map Response.bare := rfl
  unfold Operation.walk
  rw [params_bare, hresponses, List.flatMap_map, List.flatMap_map]
  simp only [hparam, hresponse, List.map_append, List.map_flatMap, ← report_bare, ← hbody]
  rfl

lemma walk_api_bare (a : Api) : a.bare.walk i = (a.walk i).map Visit.bare := by
  have hoperations : a.bare.operations = a.operations.map Operation.bare := rfl
  unfold Api.walk
  rw [hoperations, List.flatMap_map, List.map_append, List.map_flatMap, ← report_bare]
  simp only [walk_operation_bare]
  rfl

lemma walk_version_bare (v : Version) : v.bare.walk i = (v.walk i).map Visit.bare := by
  have hapis : v.bare.apis = v.apis.map Api.bare := rfl
  have hmodels : v.bare.models = v.models.map Model.bare := rfl
  unfold Version.walk
  rw [hapis, hmodels, walk_models_bare, List.flatMap_map, List.map_append, List.map_append,
    List.map_flatMap, ← report_bare]
  simp only [walk_api_bare]
  rfl

lemma walk_errors_bare (e : HttpErrors) : e.bare.walk i = (e.walk i).map Visit.bare := by
  have hmodels : e.bare.models = e.models.map Model.bare := rfl
  unfold HttpErrors.walk
  rw [hmodels, walk_models_bare, allResponses_bare, List.flatMap_map, List.map_append,
    List.map_flatMap]
  simp only [walk_type_bare]
  rfl

/-- A walk over a bare specification meets the parts of the specification, bare. -/
theorem walk_bare (s : Spec) : s.bare.walk i = (s.walk i).map Visit.bare := by
  have hversions : s.bare.versions = s.versions.map Version.bare := rfl
  have herrors : s.bare.httpErrors = s.httpErrors.bare := rfl
  unfold Spec.walk
  rw [hversions, herrors, walk_errors_bare, List.flatMap_map, List.map_append, List.map_flatMap]
  simp only [walk_version_bare]

lemma any_bare {question : Visit → Bool} (h : ∀ v : Visit, question v.bare = question v)
    (visits : List Visit) : (visits.map Visit.bare).any question = visits.any question := by
  rw [List.any_map]
  exact congrArg visits.any (funext h)

lemma isType_bare (p : TypeExpr → Bool) (v : Visit) : v.bare.isType p = v.isType p := by
  cases v with
  | version _ | api _ | operation _ | param _ _ | response _ _ | model _ | type _ => rfl

lemma isParamAt_bare (location : ParamLocation) (v : Visit) :
    v.bare.isParamAt location = v.isParamAt location := by
  cases v with
  | version _ | api _ | operation _ | param _ _ | response _ _ | model _ | type _ => rfl

lemma hasKind_bare (kind : BodyKind) (v : Visit) :
    v.bare.isOperation (·.body.kind == kind) = v.isOperation (·.body.kind == kind) := by
  cases v with
  | operation o =>
    change (o.body.bare.kind == kind) = (o.body.kind == kind)
    rw [kind_bare]
  | version _ | api _ | param _ _ | response _ _ | model _ | type _ => rfl

end Walks

/-! ### Questions -/

section Questions

variable (a : Api) (v : Version) (e : HttpErrors) (s : Spec) (models : List Model)

@[simp] lemma anyType_bare (p : TypeExpr → Bool) : a.bare.anyType p = a.anyType p := by
  unfold Api.anyType
  rw [walk_api_bare, any_bare (isType_bare p)]

@[simp] lemma anyModelType_bare (p : TypeExpr → Bool) :
    anyModelType (models.map Model.bare) p = anyModelType models p := by
  unfold anyModelType
  rw [walk_models_bare, any_bare (isType_bare p)]

@[simp] lemma errors_anyType_bare (p : TypeExpr → Bool) : e.bare.anyType p = e.anyType p := by
  unfold HttpErrors.anyType
  rw [walk_errors_bare, any_bare (isType_bare p)]

@[simp] lemma hasParamAt_bare (location : ParamLocation) :
    a.bare.hasParamAt location = a.hasParamAt location := by
  unfold Api.hasParamAt
  rw [walk_api_bare, any_bare (isParamAt_bare location)]

@[simp] lemma hasBody_bare (kind : BodyKind) : a.bare.hasBody kind = a.hasBody kind := by
  unfold Api.hasBody
  rw [walk_api_bare, any_bare (hasKind_bare kind)]

@[simp] lemma spec_hasBody_bare (kind : BodyKind) : s.bare.hasBody kind = s.hasBody kind := by
  unfold Spec.hasBody
  rw [walk_bare, any_bare (hasKind_bare kind)]

@[simp] lemma isSome_model_bare (name : String) :
    (v.bare.model? name).isSome = (v.model? name).isSome := by
  have hmodels : v.bare.models = v.models.map Model.bare := rfl
  unfold Version.model?
  rw [hmodels, findModel_bare, Option.isSome_map]

@[simp] lemma isNone_model_bare (name : String) :
    (v.bare.model? name).isNone = (v.model? name).isNone := by
  rw [← Option.not_isSome, ← Option.not_isSome, isSome_model_bare]

@[simp] lemma errors_isSome_model_bare (name : String) :
    (e.bare.model? name).isSome = (e.model? name).isSome := by
  have hmodels : e.bare.models = e.models.map Model.bare := rfl
  unfold HttpErrors.model?
  rw [hmodels, findModel_bare, Option.isSome_map]

@[simp] lemma errors_isNone_model_bare (name : String) :
    (e.bare.model? name).isNone = (e.model? name).isNone := by
  rw [← Option.not_isSome, ← Option.not_isSome, errors_isSome_model_bare]

end Questions

/-! ### Validation -/

section Validation

open Validation

variable {s : Scope} {here : Location} {naming : Naming}

lemma forM_bare {α : Type} {bare : α → α} {check check' : α → Except Fault Unit}
    (h : ∀ a, check' (bare a) = check a) (as : List α) :
    (as.map bare).forM check' = as.forM check := by
  induction as with
  | nil => rfl
  | cons a as ih =>
    change (check' (bare a) >>= fun _ => (as.map bare).forM check') = _
    rw [h, ih]
    rfl

lemma checkErrorResponses_bare (seen : List String) (rs : List ErrorResponse) :
    checkErrorResponses s.bare here seen (rs.map ErrorResponse.bare) =
      checkErrorResponses s here seen rs := by
  induction rs generalizing seen with
  | nil => rfl
  | cons r rs ih =>
    rw [List.map_cons, checkErrorResponses, checkErrorResponses, resolve_bare]
    simp only [ih]
    rfl

lemma refersToObject_bare : refersToObject s.bare = refersToObject s := by
  funext type
  unfold refersToObject
  cases type with
  | model name origin isEnum =>
    dsimp only
    rw [lookup_bare]
    cases s.lookup name with
    | none => rfl
    | some found =>
      obtain ⟨found, m⟩ := found
      cases m with
      | none => rfl
      | some m => simp
  | primitive _ | «local» _ | option _ | vec _ | map _ => rfl

lemma checkModel_bare (m : Model) : checkModel s.bare here m.bare = checkModel s here m := by
  obtain ⟨name, kind, description⟩ := m
  unfold checkModel Model.bare ModelKind.bare
  cases kind with
  | object fields =>
    dsimp only
    rw [resolve_bare]
    exact forM_bare (fun _ => rfl) fields
  | oneOf items discriminator =>
    have hitem : ∀ item : Field,
        checkItem s.bare (here.child name) name discriminator.isSome item.bare =
          checkItem s (here.child name) name discriminator.isSome item := by
      intro item
      unfold checkItem
      rw [resolve_bare, refersToObject_bare]
      rfl
    dsimp only
    rw [List.isEmpty_map, forM_bare hitem]
  | enum values =>
    dsimp only
    rw [List.isEmpty_map]

lemma checkModels_bare (models : List Model) :
    checkModels s.bare here (models.map Model.bare) = checkModels s here models := by
  unfold checkModels
  rw [forM_bare checkModel_bare, ofModels_bare]

lemma checkErrors_bare (e : HttpErrors) : checkErrors e.bare = checkErrors e := by
  have hscope : Scope.ofErrors e.bare = (Scope.ofErrors e).bare := rfl
  have hresponses : e.bare.responses = e.responses.map ErrorResponse.bare := rfl
  have hmodels : e.bare.models = e.models.map Model.bare := rfl
  unfold checkErrors
  dsimp only
  rw [hscope, hresponses, hmodels, checkErrorResponses_bare, checkModels_bare]

lemma checkUrl_bare (e : Endpoint) : checkUrl here e.bare = checkUrl here e := by
  have hplaceholders : e.bare.placeholders = e.placeholders := rfl
  have hfound : (e.bare.params.find? fun p => !e.placeholders.contains p.name) =
      (e.params.find? fun p => !e.placeholders.contains p.name).map Param.bare := List.find?_map
  have hnamed : ∀ name : String,
      e.bare.params.any (·.name == name) = e.params.any (·.name == name) :=
    fun name => List.any_map
  unfold checkUrl
  dsimp only
  rw [hplaceholders, hfound]
  simp only [hnamed]
  cases e.params.find? fun p => !e.placeholders.contains p.name with
  | some p => rfl
  | none => rfl

lemma checkIdents_bare (taken : Taken) (ps : List (ParamLocation × Param)) :
    checkIdents naming here taken (ps.map fun (location, p) => (location, p.bare)) =
      checkIdents naming here taken ps := by
  induction ps generalizing taken with
  | nil => rfl
  | cons p ps ih =>
    obtain ⟨location, p⟩ := p
    rw [List.map_cons, checkIdents, checkIdents]
    simp only [ih]
    rfl

lemma checkResponses_bare (seen : List (String × String)) (rs : List Response) :
    checkResponses s.bare naming here seen (rs.map Response.bare) =
      checkResponses s naming here seen rs := by
  induction rs generalizing seen with
  | nil => rfl
  | cons r rs ih =>
    rw [List.map_cons, checkResponses, checkResponses, payloadOf_bare]
    simp only [ih]
    rfl

lemma checkOperation_bare (o : Operation) :
    checkOperation s.bare naming here o.bare = checkOperation s naming here o := by
  have hendpoint : o.bare.endpoint = o.endpoint.bare := rfl
  have hbody : checkBody s.bare here o.bare.body = checkBody s here o.body := by
    obtain ⟨name, endpoint, header, query, body, responses, description⟩ := o
    cases body with
    | json type description =>
      change discard (s.bare.resolve (here.child "body") type) = discard (s.resolve _ type)
      rw [resolve_bare]
    | empty | rawString _ | formData _ | formUrlEncoded _ => rfl
  have hresponses : o.bare.responses = o.responses.map Response.bare := rfl
  have htaken : initiallyTaken o.bare.body = initiallyTaken o.body := by
    obtain ⟨name, endpoint, header, query, body, responses, description⟩ := o
    cases body with
    | empty | rawString _ | json _ _ | formData _ | formUrlEncoded _ => rfl
  have hparam : ∀ p : ParamLocation × Param,
      checkParam s.bare (paramLocation here p.1 p.2.bare) p.2.bare =
        checkParam s (paramLocation here p.1 p.2) p.2 := by
    intro p
    unfold checkParam
    rw [resolveName_bare]
    rfl
  unfold checkOperation
  rw [hendpoint, checkUrl_bare, params_bare, checkIdents_bare, hbody, htaken, hresponses,
    List.isEmpty_map, checkResponses_bare, forM_bare hparam]

lemma checkVersion_bare (e : HttpErrors) (v : Version) :
    checkVersion e.bare naming v.bare = checkVersion e naming v := by
  have hscope : Scope.ofVersion v.bare e.bare = (Scope.ofVersion v e).bare := rfl
  have hapis : v.bare.apis = v.apis.map Api.bare := rfl
  have hmodels : v.bare.models = v.models.map Model.bare := rfl
  have hname : v.bare.name = v.name := rfl
  unfold checkVersion
  dsimp only
  rw [hscope, hapis, hmodels, hname, checkModels_bare]
  have hapi : ∀ a : Api,
      (a.bare.operations.forM fun o => checkOperation (Scope.ofVersion v e).bare naming
        (((Location.root.child v.name).child a.bare.name).child o.name) o) =
      a.operations.forM fun o => checkOperation (Scope.ofVersion v e) naming
        (((Location.root.child v.name).child a.name).child o.name) o := by
    intro a
    apply forM_bare
    intro o
    exact checkOperation_bare o
  rw [forM_bare hapi]

end Validation

/-- Validation does not see descriptions. -/
theorem validate_bare (s : Spec) (naming : Naming) :
    s.bare.validate naming = s.validate naming := by
  unfold Spec.validate Spec.bare
  dsimp only
  rw [checkErrors_bare, forM_bare (checkVersion_bare s.httpErrors)]

end ApiCodegen.Proofs
