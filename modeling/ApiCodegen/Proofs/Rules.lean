import ApiCodegen.Proofs.Reachability
import ApiCodegen.Proofs.Resolution
import ApiCodegen.Signature.Operation

/-!
# The rules of a description

What a description has to keep for code to be generated from it, said of its parts one by one and
without the order in which they are checked. `SpecRules` are the rules of a whole description.
-/

namespace ApiCodegen.Proofs

/-- A tag of the table of statuses. -/
def KnownStatus (tag : String) : Prop := tag ∈ statusCodes.map Prod.fst

instance (tag : String) : Decidable (KnownStatus tag) :=
  inferInstanceAs (Decidable (tag ∈ statusCodes.map Prod.fst))

/-- A reference to a record of the description. The name of a primitive refers to no model. -/
def RefersToRecord (s : Scope) (t : TypeExpr) : Prop :=
  ∃ name origin m, t = .named name ∧ Primitive.ofName? name = none ∧
    s.lookup name = some (origin, some m) ∧ (origin = .version ∨ origin = .error) ∧
    m.isObject = true

/-- The rules of one model. -/
def ModelRules (s : Scope) (m : Model) : Prop :=
  match m.kind with
  | .object fields => ∀ f ∈ fields, Resolves s f.type
  | .oneOf items discriminator =>
    items ≠ [] ∧ (∀ f ∈ items, Resolves s f.type) ∧
      (discriminator.isSome = true → ∀ f ∈ items, RefersToRecord s f.type)
  | .enum values => values ≠ []

/-- The rules of the models of a version or of the error taxonomy. -/
structure ModelsRules (s : Scope) (models : List Model) : Prop where
  each : ∀ m ∈ models, ModelRules s m
  acyclic : ∀ m, ¬Path (.ofModels models) true m m

/-- The rules of the error taxonomy. -/
structure ErrorRules (e : HttpErrors) : Prop where
  statuses : ∀ r ∈ e.responses, KnownStatus r.status
  notStandard : ∀ r ∈ e.responses, r.status ∉ standardErrors.map Prod.fst
  once : (e.responses.map (·.status)).Nodup
  types : ∀ r ∈ e.responses, Resolves (.ofErrors e) r.type
  models : ModelsRules (.ofErrors e) e.models

/-- A name whose values travel as single texts: a primitive other than `json` and `empty`, or an
enum of the description. -/
def HasTextValues (s : Scope) (name : String) : Prop :=
  (∃ p, Primitive.ofName? name = some p ∧ p ≠ .json ∧ p ≠ .empty) ∨
    Primitive.ofName? name = none ∧
      ∃ origin m, s.lookup name = some (origin, some m) ∧ m.isEnum = true

/-- The rule of the type of a parameter: `T`, `T?`, or `T[]` without a default. -/
def ParamRule (s : Scope) (p : Param) : Prop :=
  ∃ name, HasTextValues s name ∧
    (p.type = .named name ∨ p.type = .nullable (.named name) ∨
      p.type = .array (.named name) ∧ p.default = none)

/-- The fields of the form of an operation. -/
def formFields (o : Operation) : List Param := o.body.formParams?.getD []

/-- The parameters that share a function with the payload. -/
def functionParams (o : Operation) : List Param :=
  o.queryParams ++ o.headerParams ++ o.endpoint.params

/-- The rules of an operation. -/
structure OperationRules (s : Scope) (naming : Naming) (o : Operation) : Prop where
  url : ∀ name, name ∈ o.endpoint.placeholders ↔ ∃ p ∈ o.endpoint.params, p.name = name
  types : ∀ p ∈ formFields o ++ functionParams o, ParamRule s p
  unreserved : ∀ p ∈ formFields o ++ functionParams o,
    Naming.unraw (naming.fieldName p.name) ∉ Signature.reservedIdents
  idents : ((functionParams o).map fun p => naming.fieldName p.name).Nodup
  notBody : o.body ≠ .empty → ∀ p ∈ functionParams o,
    naming.fieldName p.name ≠ Signature.bodyIdent
  fields : ((formFields o).map fun p => naming.fieldName p.name).Nodup
  body : ∀ type description, o.body = .json type description → Resolves s type
  answered : o.responses ≠ []
  statuses : ∀ r ∈ o.responses, KnownStatus r.status
  variants : (o.responses.map fun r => naming.variantName r.status).Nodup
  payloads : ∀ r ∈ o.responses, ∀ type, r.body = .json type → Resolves s type

/-- The rules of a description. -/
structure SpecRules (s : Spec) (naming : Naming) : Prop where
  errors : ErrorRules s.httpErrors
  models : ∀ v ∈ s.versions, ModelsRules (.ofVersion v s.httpErrors) v.models
  operations : ∀ v ∈ s.versions, ∀ a ∈ v.apis, ∀ o ∈ a.operations,
    OperationRules (.ofVersion v s.httpErrors) naming o

/-! ### Rules as code reads them -/

lemma knownStatus_iff {tag : String} : KnownStatus tag ↔ ∃ code, statusCode? tag = some code := by
  unfold KnownStatus statusCode?
  rw [← Option.isSome_iff_exists, List.lookup_isSome_iff]
  simp only [List.mem_map, beq_iff_eq]
  constructor
  · rintro ⟨entry, hentry, rfl⟩
    exact ⟨entry, hentry, rfl⟩
  · rintro ⟨entry, hentry, rfl⟩
    exact ⟨entry, hentry, rfl⟩

end ApiCodegen.Proofs
