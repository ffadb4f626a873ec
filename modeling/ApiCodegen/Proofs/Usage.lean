import ApiCodegen.Description.Usage
import Mathlib.Tactic.Common

/-!
# Questions about types

A walk that reports types goes through the types that a part of a description declares, one after
the other and each down to its innermost name. A question about names is one about the innermost
names of those types, and a question about maps one about what stands around them.
-/

namespace ApiCodegen.Proofs

/-! ### One type -/

/-- A map occurs in a type. -/
def hasMap : TypeExpr → Bool
  | .named _ => false
  | .nullable inner | .array inner => hasMap inner
  | .map _ => true

section OneType

variable {t : TypeExpr} {p : Primitive} {name : String}

lemma mem_aliases_iff : name ∈ p.aliases ↔ Primitive.ofName? name = some p := by
  constructor
  · intro h
    have hread : ∀ n ∈ p.aliases, Primitive.ofName? n = some p := by
      cases p <;> decide
    exact hread name h
  · intro h
    unfold Primitive.ofName? at h
    split at h <;> cases h <;> decide

lemma mentions_iff : t.mentions name = true ↔ t.leaf = name := by
  induction t with
  | named n => exact beq_iff_eq
  | nullable inner ih | array inner ih | map inner ih => exact ih

/-- A type mentions a primitive exactly if its innermost name is read as that primitive. -/
theorem mentionsPrimitive_iff : t.mentionsPrimitive p = true ↔ Primitive.ofName? t.leaf = some p := by
  rw [← mem_aliases_iff]
  unfold TypeExpr.mentionsPrimitive
  rw [List.any_eq_true]
  constructor
  · rintro ⟨n, hn, hmentions⟩
    rw [mentions_iff] at hmentions
    rwa [hmentions]
  · intro h
    exact ⟨t.leaf, h, mentions_iff.2 rfl⟩

lemma any_walk_named (q : String → Bool) (t : TypeExpr) :
    (t.walk .onlyTypes).any (·.isType (·.isNamed q)) = q t.leaf := by
  induction t with
  | named n => exact Bool.or_false _
  | nullable inner ih | array inner ih | map inner ih => exact ih

lemma any_walk_primitive (p : Primitive) (t : TypeExpr) :
    (t.walk .onlyTypes).any (·.isType (·.mentionsPrimitive p)) = t.mentionsPrimitive p := by
  induction t with
  | named n => exact Bool.or_false _
  | nullable inner ih | array inner ih | map inner ih =>
    change (inner.mentionsPrimitive p || (inner.walk .onlyTypes).any _) = inner.mentionsPrimitive p
    rw [ih, Bool.or_self]

lemma any_walk_map (t : TypeExpr) :
    (t.walk .onlyTypes).any (·.isType TypeExpr.isMap) = hasMap t := by
  induction t with
  | named n => rfl
  | nullable inner ih | array inner ih => exact ih
  | map inner _ => rfl

end OneType

/-! ### The types of a part -/

/-- The types of the payloads of a request. -/
def requestTypes : RequestBody → List TypeExpr
  | .json type _ => [type]
  | .empty | .rawString _ | .formData _ | .formUrlEncoded _ => []

/-- The types of the payloads of a response. -/
def responseTypes : ResponseBody → List TypeExpr
  | .json type => [type]
  | .empty | .rawString => []

/-- The types that an operation declares. -/
def operationTypes (o : Operation) : List TypeExpr :=
  o.params.map (·.2.type) ++ requestTypes o.body ++ o.responses.flatMap fun r => responseTypes r.body

/-- The types that an API declares. -/
def apiTypes (a : Api) : List TypeExpr := a.operations.flatMap operationTypes

/-- The types that models declare. -/
def modelTypes (models : List Model) : List TypeExpr :=
  models.flatMap fun m => m.parts.map (·.type)

/-- The types that an error taxonomy declares. -/
def errorTypes (e : HttpErrors) : List TypeExpr :=
  e.allResponses.map (·.type) ++ modelTypes e.models

lemma walk_operation (o : Operation) :
    o.walk .onlyTypes = (operationTypes o).flatMap (·.walk .onlyTypes) := by
  have hbody : Operation.walkBody .onlyTypes o.body =
      (requestTypes o.body).flatMap (·.walk .onlyTypes) := by
    cases o.body with
    | json type description => exact (List.flatMap_singleton ..).symm
    | empty | rawString _ | formData _ | formUrlEncoded _ => rfl
  have hresponse : o.walkResponse .onlyTypes =
      fun r => (responseTypes r.body).flatMap (·.walk .onlyTypes) := by
    funext r
    unfold Operation.walkResponse
    cases r.body with
    | json type => exact (List.flatMap_singleton ..).symm
    | empty | rawString => rfl
  unfold Operation.walk operationTypes
  rw [List.flatMap_append, List.flatMap_append, List.flatMap_map, List.flatMap_assoc, hbody,
    hresponse]
  rfl

lemma walk_api (a : Api) : a.walk .onlyTypes = (apiTypes a).flatMap (·.walk .onlyTypes) := by
  unfold Api.walk apiTypes
  rw [List.flatMap_assoc, funext walk_operation]
  rfl

lemma walk_models (models : List Model) :
    walkModels .onlyTypes models = (modelTypes models).flatMap (·.walk .onlyTypes) := by
  unfold walkModels modelTypes
  rw [List.flatMap_assoc]
  congr 1
  funext m
  rw [List.flatMap_map]
  rfl

lemma walk_errors (e : HttpErrors) :
    e.walk .onlyTypes = (errorTypes e).flatMap (·.walk .onlyTypes) := by
  unfold HttpErrors.walk errorTypes
  rw [List.flatMap_append, List.flatMap_map, walk_models]

/-! ### Questions as questions about types -/

section Questions

variable {types : List TypeExpr} {p : Primitive} {q : String → Bool} {a : Api} {models : List Model}
  {e : HttpErrors}

lemma any_named_iff : (types.flatMap (·.walk .onlyTypes)).any (·.isType (·.isNamed q)) = true ↔
    ∃ t ∈ types, q t.leaf = true := by
  simp only [List.any_flatMap, any_walk_named, List.any_eq_true]

lemma any_primitive_iff :
    (types.flatMap (·.walk .onlyTypes)).any (·.isType (·.mentionsPrimitive p)) = true ↔
      ∃ t ∈ types, Primitive.ofName? t.leaf = some p := by
  simp only [List.any_flatMap, any_walk_primitive, List.any_eq_true, mentionsPrimitive_iff]

lemma any_map_iff : (types.flatMap (·.walk .onlyTypes)).any (·.isType TypeExpr.isMap) = true ↔
    ∃ t ∈ types, hasMap t = true := by
  simp only [List.any_flatMap, any_walk_map, List.any_eq_true]

lemma api_usesPrimitive_iff :
    a.usesPrimitive p = true ↔ ∃ t ∈ apiTypes a, Primitive.ofName? t.leaf = some p := by
  rw [Api.usesPrimitive, Api.anyType, walk_api, any_primitive_iff]

lemma api_usesMap_iff : a.usesMap = true ↔ ∃ t ∈ apiTypes a, hasMap t = true := by
  rw [Api.usesMap, Api.anyType, walk_api, any_map_iff]

lemma api_usesModels_iff {v : Version} :
    a.usesModels v = true ↔ ∃ t ∈ apiTypes a, (v.model? t.leaf).isSome = true := by
  rw [Api.usesModels, Api.anyType, walk_api, any_named_iff]

lemma api_usesErrorModels_iff :
    a.usesErrorModels e = true ↔ ∃ t ∈ apiTypes a, (e.model? t.leaf).isSome = true := by
  rw [Api.usesErrorModels, Api.anyType, walk_api, any_named_iff]

lemma api_usesStandardErrors_iff :
    a.usesStandardErrors = true ↔ ∃ t ∈ apiTypes a, standardErrorModels.contains t.leaf = true := by
  rw [Api.usesStandardErrors, Api.anyType, walk_api, any_named_iff]

lemma modelsUsePrimitive_iff : modelsUsePrimitive models p = true ↔
    ∃ t ∈ modelTypes models, Primitive.ofName? t.leaf = some p := by
  rw [modelsUsePrimitive, anyModelType, walk_models, any_primitive_iff]

lemma modelsUseMap_iff :
    modelsUseMap models = true ↔ ∃ t ∈ modelTypes models, hasMap t = true := by
  rw [modelsUseMap, anyModelType, walk_models, any_map_iff]

lemma modelsReferTo_iff :
    modelsReferTo models q = true ↔ ∃ t ∈ modelTypes models, q t.leaf = true := by
  rw [modelsReferTo, anyModelType, walk_models, any_named_iff]

lemma errors_usesPrimitive_iff :
    e.usesPrimitive p = true ↔ ∃ t ∈ errorTypes e, Primitive.ofName? t.leaf = some p := by
  rw [HttpErrors.usesPrimitive, HttpErrors.anyType, walk_errors, any_primitive_iff]

lemma errors_usesMap_iff : e.usesMap = true ↔ ∃ t ∈ errorTypes e, hasMap t = true := by
  rw [HttpErrors.usesMap, HttpErrors.anyType, walk_errors, any_map_iff]

end Questions

/-! ### Questions about operations and parameters -/

section Operations

variable {i : Interest}

lemma type_walk_eq_nil (hi : i.types = false) (t : TypeExpr) : t.walk i = [] := by
  have hreport : ∀ t, i.report (.type t) = [] := fun t => if_neg (by simp [Interest.includes, hi])
  induction t with
  | named name => exact hreport _
  | nullable inner ih | array inner ih | map inner ih => rw [TypeExpr.walk, hreport, ih]; rfl

lemma walkBody_eq_nil (hi : i.types = false) (body : RequestBody) :
    Operation.walkBody i body = [] := by
  cases body with
  | json type description => exact type_walk_eq_nil hi type
  | empty | rawString _ | formData _ | formUrlEncoded _ => rfl

lemma walkResponse_eq_nil (hi : i.types = false) (hresponses : i.responses = false)
    (o : Operation) (r : Response) : o.walkResponse i r = [] := by
  have hreport : i.report (.response o r) = [] := if_neg (by simp [Interest.includes, hresponses])
  unfold Operation.walkResponse
  rw [hreport]
  cases r.body with
  | json type => exact type_walk_eq_nil hi type
  | empty | rawString => rfl

lemma operation_walk_operations (o : Operation) : o.walk .onlyOperations = [.operation o] := by
  have hparams : o.params.flatMap (Operation.walkParam .onlyOperations) = [] :=
    List.flatMap_eq_nil_iff.2 fun p _ => type_walk_eq_nil rfl p.2.type
  have hresponses : o.responses.flatMap (o.walkResponse .onlyOperations) = [] :=
    List.flatMap_eq_nil_iff.2 fun r _ => walkResponse_eq_nil rfl rfl o r
  unfold Operation.walk
  rw [hparams, walkBody_eq_nil rfl, hresponses]
  rfl

lemma operation_walk_params (o : Operation) :
    o.walk .onlyParams = o.params.map fun p => .param p.1 p.2 := by
  have hparam : Operation.walkParam .onlyParams = fun p => [.param p.1 p.2] := by
    funext p
    change [.param p.1 p.2] ++ p.2.type.walk .onlyParams = _
    rw [type_walk_eq_nil rfl, List.append_nil]
  have hresponses : o.responses.flatMap (o.walkResponse .onlyParams) = [] :=
    List.flatMap_eq_nil_iff.2 fun r _ => walkResponse_eq_nil rfl rfl o r
  unfold Operation.walk
  rw [hparam, walkBody_eq_nil rfl, hresponses, List.append_nil, List.append_nil,
    ← List.map_eq_flatMap]
  rfl

lemma api_walk_operations (a : Api) : a.walk .onlyOperations = a.operations.map .operation := by
  unfold Api.walk
  rw [funext operation_walk_operations, ← List.map_eq_flatMap]
  rfl

lemma models_walk_operations (models : List Model) : walkModels .onlyOperations models = [] := by
  unfold walkModels
  rw [List.flatMap_eq_nil_iff]
  intro m _
  have hparts : m.parts.flatMap (·.type.walk .onlyOperations) = [] :=
    List.flatMap_eq_nil_iff.2 fun f _ => type_walk_eq_nil rfl f.type
  unfold Model.walk
  rw [hparts]
  rfl

lemma errors_walk_operations (e : HttpErrors) : e.walk .onlyOperations = [] := by
  have hresponses : e.allResponses.flatMap (·.type.walk .onlyOperations) = [] :=
    List.flatMap_eq_nil_iff.2 fun r _ => type_walk_eq_nil rfl r.type
  unfold HttpErrors.walk
  rw [hresponses, models_walk_operations]
  rfl

variable {a : Api} {s : Spec} {kind : BodyKind} {location : ParamLocation}

lemma api_hasBody_iff : a.hasBody kind = true ↔ ∃ o ∈ a.operations, o.body.kind = kind := by
  unfold Api.hasBody
  rw [api_walk_operations, List.any_map, List.any_eq_true]
  simp [Visit.isOperation]

lemma api_hasParamAt_iff :
    a.hasParamAt location = true ↔ ∃ o ∈ a.operations, ∃ p, (location, p) ∈ o.params := by
  have hwalk : a.walk .onlyParams =
      a.operations.flatMap fun o => o.params.map fun p => .param p.1 p.2 := by
    unfold Api.walk
    rw [funext operation_walk_params]
    rfl
  unfold Api.hasParamAt
  rw [hwalk, List.any_flatMap, List.any_eq_true]
  simp [Visit.isParamAt]

lemma spec_hasBody_iff :
    s.hasBody kind = true ↔ ∃ v ∈ s.versions, ∃ a ∈ v.apis, a.hasBody kind = true := by
  have hversion : ∀ v : Version,
      v.walk .onlyOperations = v.apis.flatMap (·.walk .onlyOperations) := by
    intro v
    unfold Version.walk
    rw [models_walk_operations, List.append_nil]
    rfl
  unfold Spec.hasBody Spec.walk Api.hasBody
  rw [errors_walk_operations, List.append_nil]
  simp only [hversion, List.any_flatMap, List.any_eq_true]

end Operations

end ApiCodegen.Proofs
