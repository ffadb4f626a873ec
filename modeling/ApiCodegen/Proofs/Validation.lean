import ApiCodegen.Proofs.Rules
import ApiCodegen.Signature.Validation

/-!
# Validation decides the rules

Each check of `Validation` succeeds exactly on what keeps its rules. Checks that walk over a list
remember the names that are taken; `Fresh` is what such a walk leaves to be shown of the names that
are still to come.
-/

namespace ApiCodegen.Proofs
open Validation

/-- Names that differ from each other and from those that are taken. -/
def Fresh (taken names : List String) : Prop :=
  names.Nodup ∧ ∀ n ∈ names, n ∉ taken

lemma fresh_nil (taken : List String) : Fresh taken [] := by
  simp [Fresh]

lemma fresh_cons {taken names : List String} {n : String} :
    Fresh taken (n :: names) ↔ n ∉ taken ∧ Fresh (n :: taken) names := by
  simp only [Fresh, List.nodup_cons, List.mem_cons, forall_eq_or_imp, not_or]
  constructor
  · rintro ⟨⟨hn, hnodup⟩, htaken, hrest⟩
    exact ⟨htaken, hnodup, fun m hm => ⟨fun heq => hn (heq ▸ hm), hrest m hm⟩⟩
  · rintro ⟨htaken, hnodup, hrest⟩
    exact ⟨⟨fun hmem => (hrest n hmem).1 rfl, hnodup⟩, htaken, fun m hm => (hrest m hm).2⟩

lemma fresh_nil_left {names : List String} : Fresh [] names ↔ names.Nodup := by
  simp [Fresh]

lemma lookup_eq_none_iff_not_mem {seen : List (String × String)} {n : String} :
    seen.lookup n = none ↔ n ∉ seen.map Prod.fst := by
  simp only [List.lookup_eq_none_iff, bne_iff_ne, List.mem_map, not_exists, not_and]
  exact ⟨fun h p hp heq => h p hp heq.symm, fun h p hp heq => h p hp heq.symm⟩

lemma statusCode?_isNone_iff {tag : String} :
    (statusCode? tag).isNone = true ↔ ¬KnownStatus tag := by
  rw [knownStatus_iff, Option.isNone_iff_eq_none, Option.eq_none_iff_forall_ne_some, not_exists]

/-! ### The error taxonomy -/

lemma checkErrorResponses_eq_ok_iff {s : Scope} {here : Location} {seen : List String}
    {rs : List ErrorResponse} :
    checkErrorResponses s here seen rs = .ok () ↔
      (∀ r ∈ rs, KnownStatus r.status ∧ Resolves s r.type) ∧ Fresh seen (rs.map (·.status)) := by
  induction rs generalizing seen with
  | nil => simp [checkErrorResponses, fresh_nil]
  | cons r rs ih =>
    simp only [checkErrorResponses]
    rw [refuse_eq_ok_iff, refuse_eq_ok_iff, statusCode?_isNone_iff, bind_eq_ok_iff, not_not]
    simp only [ih, List.mem_cons, forall_eq_or_imp, List.map_cons, fresh_cons]
    have hres : (∃ type, s.resolve ((here.child "responses").child r.status) r.type = .ok type) ↔
        Resolves s r.type := succeeds_resolve_iff
    rw [exists_and_right, hres, List.contains_iff_mem]
    tauto

/-! ### Models -/

lemma refersToObject_iff {s : Scope} {t : TypeExpr} {here : Location} {type : ResolvedType}
    (h : s.resolve here t = .ok type) : refersToObject s type = true ↔ RefersToRecord s t := by
  cases t with
  | named name =>
    have h : s.resolveName name here = .ok type := h
    unfold Scope.resolveName at h
    unfold RefersToRecord
    cases hp : Primitive.ofName? name with
    | some p =>
      rw [hp] at h
      cases h
      simp only [refersToObject, Bool.false_eq_true, TypeExpr.named.injEq, false_iff, not_exists]
      rintro name' origin m ⟨rfl, hnone, -⟩
      simp [hp] at hnone
    | none =>
      rw [hp] at h
      cases hl : s.lookup name with
      | none => simp [hl] at h
      | some found =>
        obtain ⟨origin, definition⟩ := found
        simp only [hl, Except.ok.injEq] at h
        subst h
        cases definition with
        | none => simp [refersToObject, hl]
        | some m =>
          have horigin := origin_of_lookup hl
          constructor
          · intro hobject
            have hm : m.isObject = true := by
              simp only [refersToObject, hl, Option.bind_some, Option.any_some,
                Bool.and_eq_true] at hobject
              exact hobject.2
            exact ⟨name, origin, m, rfl, hp, hl, horigin, hm⟩
          · rintro ⟨name', origin', m', heq, -, hfound, hdescribed, hm⟩
            cases heq
            rw [hl] at hfound
            cases hfound
            rcases hdescribed with rfl | rfl
            · simp [refersToObject, hl, hm]
            · simp [refersToObject, hl, hm]
  | nullable inner =>
    obtain ⟨type', -, rfl⟩ := map_eq_ok_iff.1 h
    simp [refersToObject, RefersToRecord]
  | array inner =>
    obtain ⟨type', -, rfl⟩ := map_eq_ok_iff.1 h
    simp [refersToObject, RefersToRecord]
  | map inner =>
    obtain ⟨type', -, rfl⟩ := map_eq_ok_iff.1 h
    simp [refersToObject, RefersToRecord]

lemma checkItem_eq_ok_iff {s : Scope} {here : Location} {model : String} {tagged : Bool}
    {item : Field} :
    checkItem s here model tagged item = .ok () ↔
      Resolves s item.type ∧ (tagged = true → RefersToRecord s item.type) := by
  have hresolves : Succeeds (s.resolve (here.child item.name) item.type) ↔ Resolves s item.type :=
    succeeds_resolve_iff
  unfold checkItem
  rw [bind_eq_ok_iff, ← hresolves]
  constructor
  · rintro ⟨type, htype, hcheck⟩
    refine ⟨⟨type, htype⟩, fun htag => (refersToObject_iff htype).1 ?_⟩
    cases href : refersToObject s type with
    | true => rfl
    | false => simp [htag, href] at hcheck
  · rintro ⟨⟨type, htype⟩, href⟩
    refine ⟨type, htype, ?_⟩
    cases htag : tagged with
    | false => rfl
    | true => simp [(refersToObject_iff htype).2 (href htag), pure, Except.pure]

lemma checkModel_eq_ok_iff {s : Scope} {here : Location} {m : Model} :
    checkModel s here m = .ok () ↔ ModelRules s m := by
  unfold checkModel ModelRules
  cases m.kind with
  | object fields =>
    simp only [forM_eq_ok_iff, discard_eq_ok_iff, succeeds_resolve_iff]
  | oneOf items discriminator =>
    simp only [refuse_eq_ok_iff, forM_eq_ok_iff, checkItem_eq_ok_iff, List.isEmpty_iff]
    constructor
    · rintro ⟨hne, hitems⟩
      exact ⟨hne, fun f hf => (hitems f hf).1, fun htag f hf => (hitems f hf).2 htag⟩
    · rintro ⟨hne, hres, href⟩
      exact ⟨hne, fun f hf => ⟨hres f hf, fun htag => href htag f hf⟩⟩
  | enum values =>
    simp only [refuse_eq_ok_iff, List.isEmpty_iff, and_true, ne_eq]

lemma checkModels_eq_ok_iff {s : Scope} {here : Location} {models : List Model} :
    checkModels s here models = .ok () ↔ ModelsRules s models := by
  unfold checkModels
  rw [check_bind_eq_ok_iff, forM_eq_ok_iff]
  simp only [checkModel_eq_ok_iff]
  have hcycle := plainCycle?_eq_none_iff (g := .ofModels models)
  constructor
  · rintro ⟨heach, hmatch⟩
    cases hfound : (ModelGraph.ofModels models).plainCycle? with
    | some m => simp [hfound] at hmatch
    | none => exact ⟨heach, hcycle.1 hfound⟩
  · rintro ⟨heach, hacyclic⟩
    exact ⟨heach, by rw [hcycle.2 hacyclic]⟩

theorem checkErrors_eq_ok_iff {e : HttpErrors} : checkErrors e = .ok () ↔ ErrorRules e := by
  unfold checkErrors
  rw [check_bind_eq_ok_iff, checkErrorResponses_eq_ok_iff, checkModels_eq_ok_iff]
  simp only [Fresh, List.mem_map, forall_exists_index, and_imp, forall_apply_eq_imp_iff₂]
  constructor
  · rintro ⟨⟨heach, hnodup, hstandard⟩, hmodels⟩
    exact ⟨fun r hr => (heach r hr).1, fun r hr => by simpa using hstandard r hr, hnodup,
      fun r hr => (heach r hr).2, hmodels⟩
  · rintro ⟨hstatuses, hstandard, hnodup, htypes, hmodels⟩
    exact ⟨⟨fun r hr => ⟨hstatuses r hr, htypes r hr⟩, hnodup,
      fun r hr => by simpa using hstandard r hr⟩, hmodels⟩

/-! ### Operations -/

lemma checkUrl_eq_ok_iff {here : Location} {e : Endpoint} :
    checkUrl here e = .ok () ↔
      ∀ name, name ∈ e.placeholders ↔ ∃ p ∈ e.params, p.name = name := by
  unfold checkUrl
  constructor
  · intro h name
    split at h
    · cases h
    · rename_i hparams
      split at h
      · cases h
      · rename_i hholes
        rw [List.find?_eq_none] at hparams hholes
        constructor
        · intro hmem
          have hhole := hholes name hmem
          simpa using hhole
        · rintro ⟨p, hp, rfl⟩
          have hparam := hparams p hp
          simpa using hparam
  · intro h
    have hparams : (e.params.find? fun p => !e.placeholders.contains p.name) = none := by
      rw [List.find?_eq_none]
      intro p hp
      simpa using (h p.name).2 ⟨p, hp, rfl⟩
    have hholes : (e.placeholders.find? fun name => !e.params.any (·.name == name)) = none := by
      rw [List.find?_eq_none]
      intro name hname
      simpa using (h name).1 hname
    simp only [hparams, hholes]

lemma checkParam_of_shape {s : Scope} {here : Location} {p : Param} {shape : ParamShape}
    (hshape : ParamShape.ofType? p.type = some shape) :
    checkParam s here p = .ok () ↔
      (shape = .array → p.default = none) ∧ HasTextValues s p.type.leaf := by
  unfold checkParam
  simp only [hshape]
  rw [refuse_eq_ok_iff]
  refine and_congr (by simp) ?_
  unfold Scope.resolveName HasTextValues
  cases hp : Primitive.ofName? p.type.leaf with
  | some q => cases q <;> simp [bind, Except.bind]
  | none =>
    cases hl : s.lookup p.type.leaf with
    | none => simp [bind, Except.bind]
    | some found =>
      obtain ⟨origin, definition⟩ := found
      cases definition with
      | none => simp [bind, Except.bind, ResolvedType.isEnum]
      | some m => cases henum : m.isEnum <;> simp [bind, Except.bind, ResolvedType.isEnum, henum]

lemma checkParam_eq_ok_iff {s : Scope} {here : Location} {p : Param} :
    checkParam s here p = .ok () ↔ ParamRule s p := by
  unfold ParamRule
  match htype : p.type with
  | .named name =>
    have hshape : ParamShape.ofType? p.type = some .required := by
      rw [htype]
      rfl
    rw [checkParam_of_shape hshape, htype]
    simp [TypeExpr.leaf]
  | .nullable (.named name) =>
    have hshape : ParamShape.ofType? p.type = some .optional := by
      rw [htype]
      rfl
    rw [checkParam_of_shape hshape, htype]
    simp [TypeExpr.leaf]
  | .array (.named name) =>
    have hshape : ParamShape.ofType? p.type = some .array := by
      rw [htype]
      rfl
    rw [checkParam_of_shape hshape, htype]
    simp [TypeExpr.leaf, and_comm]
  | .nullable (.nullable _) | .nullable (.array _) | .nullable (.map _) | .array (.nullable _)
  | .array (.array _) | .array (.map _) | .map _ =>
    simp [checkParam, htype, ParamShape.ofType?]

/-- The identifiers of the fields of a form, or of the other parameters. -/
def identsOf (naming : Naming) (form : Bool) (ps : List (ParamLocation × Param)) : List String :=
  (ps.filter fun lp => (lp.1 == .form) == form).map fun lp => naming.fieldName lp.2.name

lemma checkIdents_eq_ok_iff {naming : Naming} {here : Location} {taken : Taken}
    {ps : List (ParamLocation × Param)} :
    checkIdents naming here taken ps = .ok () ↔
      (∀ lp ∈ ps, Naming.unraw (naming.fieldName lp.2.name) ∉ Signature.reservedIdents) ∧
      Fresh (taken.fields.map Prod.fst) (identsOf naming true ps) ∧
      Fresh (taken.params.map Prod.fst) (identsOf naming false ps) := by
  induction ps generalizing taken with
  | nil => simp [checkIdents, identsOf, fresh_nil]
  | cons lp ps ih =>
    obtain ⟨location, p⟩ := lp
    simp only [checkIdents, List.mem_cons, forall_eq_or_imp]
    rw [refuse_eq_ok_iff, List.contains_iff_mem, and_assoc]
    refine and_congr_right fun _ => ?_
    by_cases hform : location = .form
    · subst hform
      have htrue : identsOf naming true ((.form, p) :: ps) =
          naming.fieldName p.name :: identsOf naming true ps := rfl
      have hfalse : identsOf naming false ((.form, p) :: ps) = identsOf naming false ps := rfl
      rw [htrue, hfalse, fresh_cons, ← lookup_eq_none_iff_not_mem]
      cases hseen : taken.fields.lookup (naming.fieldName p.name) with
      | some first => simp [hseen]
      | none => simp [hseen, ih]
    · have htrue : identsOf naming true ((location, p) :: ps) = identsOf naming true ps := by
        simp [identsOf, hform]
      have hfalse : identsOf naming false ((location, p) :: ps) =
          naming.fieldName p.name :: identsOf naming false ps := by
        simp [identsOf, hform]
      rw [htrue, hfalse, fresh_cons, ← lookup_eq_none_iff_not_mem]
      cases hseen : taken.params.lookup (naming.fieldName p.name) with
      | some first => simp [hseen, hform]
      | none => simp [hseen, hform, ih]

lemma succeeds_payloadOf_iff {s : Scope} {here : Location} {body : ResponseBody} :
    Succeeds (Signature.payloadOf s here body) ↔ ∀ type, body = .json type → Resolves s type := by
  cases body with
  | empty => simp [Signature.payloadOf, Succeeds]
  | rawString => simp [Signature.payloadOf, Succeeds]
  | json type =>
    rw [Signature.payloadOf, succeeds_map_iff, succeeds_resolve_iff]
    simp

lemma checkResponses_eq_ok_iff {s : Scope} {naming : Naming} {here : Location}
    {seen : List (String × String)} {rs : List Response} :
    checkResponses s naming here seen rs = .ok () ↔
      (∀ r ∈ rs, KnownStatus r.status ∧ ∀ type, r.body = .json type → Resolves s type) ∧
      Fresh (seen.map Prod.fst) (rs.map fun r => naming.variantName r.status) := by
  induction rs generalizing seen with
  | nil => simp [checkResponses, fresh_nil]
  | cons r rs ih =>
    simp only [checkResponses, List.mem_cons, forall_eq_or_imp, List.map_cons]
    rw [refuse_eq_ok_iff, statusCode?_isNone_iff, not_not, fresh_cons,
      ← lookup_eq_none_iff_not_mem]
    cases hseen : seen.lookup (naming.variantName r.status) with
    | some first => by_cases hfirst : first = r.status <;> simp [hfirst]
    | none =>
      simp only [check_bind_eq_ok_iff, discard_eq_ok_iff, succeeds_payloadOf_iff, ih,
        List.map_cons]
      tauto

lemma checkBody_eq_ok_iff {s : Scope} {here : Location} {body : RequestBody} :
    checkBody s here body = .ok () ↔
      ∀ type description, body = .json type description → Resolves s type := by
  cases body with
  | json type description =>
    rw [checkBody, discard_eq_ok_iff, succeeds_resolve_iff]
    simp
  | empty | rawString _ | formData _ | formUrlEncoded _ => simp [checkBody]

lemma mem_params_iff {o : Operation} {p : Param} :
    p ∈ o.params.map Prod.snd ↔ p ∈ formFields o ++ functionParams o := by
  simp [Operation.params, formFields, functionParams]

lemma identsOf_fields (naming : Naming) (o : Operation) :
    identsOf naming true o.params = (formFields o).map fun p => naming.fieldName p.name := by
  simp [identsOf, Operation.params, formFields, List.filter_map, Function.comp_def]

lemma identsOf_params (naming : Naming) (o : Operation) :
    identsOf naming false o.params = (functionParams o).map fun p => naming.fieldName p.name := by
  have hquery : (ParamLocation.query == .form) = false := rfl
  have hheader : (ParamLocation.header == .form) = false := rfl
  have hurl : (ParamLocation.url == .form) = false := rfl
  simp [identsOf, Operation.params, functionParams, List.filter_map, Function.comp_def, hquery,
    hheader, hurl]

/-- The payload takes its identifier from the parameters, and none from the fields of a form. -/
lemma fresh_initiallyTaken_iff {body : RequestBody} {names : List String} :
    Fresh ((initiallyTaken body).params.map Prod.fst) names ↔
      names.Nodup ∧ (body ≠ .empty → ∀ n ∈ names, n ≠ Signature.bodyIdent) := by
  cases body <;> simp [initiallyTaken, Fresh]

lemma initiallyTaken_fields (body : RequestBody) : (initiallyTaken body).fields = [] := by
  cases body <;> rfl

lemma answered_eq_ok_iff {o : Operation} {fault : Fault} {x : Except Fault Unit} :
    (if o.responses.isEmpty = true then .error fault >>= fun _ : Unit => x else x) = .ok () ↔
      o.responses ≠ [] ∧ x = .ok () := by
  cases h : o.responses with
  | nil => simp [bind, Except.bind]
  | cons r rs => simp

theorem checkOperation_eq_ok_iff {s : Scope} {naming : Naming} {here : Location} {o : Operation} :
    checkOperation s naming here o = .ok () ↔ OperationRules s naming o := by
  have htypes : (∀ lp ∈ o.params, checkParam s (paramLocation here lp.1 lp.2) lp.2 = .ok ()) ↔
      ∀ p ∈ formFields o ++ functionParams o, ParamRule s p := by
    simp only [checkParam_eq_ok_iff, ← mem_params_iff, List.forall_mem_map]
  have hreserved : (∀ lp ∈ o.params,
      Naming.unraw (naming.fieldName lp.2.name) ∉ Signature.reservedIdents) ↔
      ∀ p ∈ formFields o ++ functionParams o,
        Naming.unraw (naming.fieldName p.name) ∉ Signature.reservedIdents := by
    simp only [← mem_params_iff, List.forall_mem_map]
  unfold checkOperation
  rw [check_bind_eq_ok_iff, check_bind_eq_ok_iff, check_bind_eq_ok_iff, check_bind_eq_ok_iff,
    checkUrl_eq_ok_iff, forM_eq_ok_iff, htypes, checkIdents_eq_ok_iff, hreserved,
    checkBody_eq_ok_iff, answered_eq_ok_iff, checkResponses_eq_ok_iff, identsOf_fields,
    identsOf_params, initiallyTaken_fields, List.map_nil, fresh_nil_left, fresh_nil_left,
    fresh_initiallyTaken_iff, List.forall_mem_map]
  constructor
  · rintro ⟨hurl, hparam, ⟨hres, hfields, hidents, hbody⟩, hjson, hanswered, hresponses, hvariants⟩
    exact ⟨hurl, hparam, hres, hidents, hbody, hfields, hjson, hanswered,
      fun r hr => (hresponses r hr).1, hvariants, fun r hr => (hresponses r hr).2⟩
  · intro h
    exact ⟨h.url, h.types, ⟨h.unreserved, h.fields, h.idents, h.notBody⟩, h.body, h.answered,
      fun r hr => ⟨h.statuses r hr, h.payloads r hr⟩, h.variants⟩

/-! ### Descriptions -/

lemma checkVersion_eq_ok_iff {e : HttpErrors} {naming : Naming} {v : Version} :
    checkVersion e naming v = .ok () ↔ ModelsRules (.ofVersion v e) v.models ∧
      ∀ a ∈ v.apis, ∀ o ∈ a.operations, OperationRules (.ofVersion v e) naming o := by
  unfold checkVersion
  rw [check_bind_eq_ok_iff, checkModels_eq_ok_iff, forM_eq_ok_iff]
  simp only [forM_eq_ok_iff, checkOperation_eq_ok_iff]

lemma SpecRules.of_validate {s : Spec} {naming : Naming} (h : s.validate naming = .ok ()) :
    SpecRules s naming := by
  unfold Spec.validate at h
  rw [check_bind_eq_ok_iff, checkErrors_eq_ok_iff, forM_eq_ok_iff] at h
  obtain ⟨herrors, hversions⟩ := h
  refine ⟨herrors, fun v hv => ?_, fun v hv => ?_⟩
  · exact (checkVersion_eq_ok_iff.1 (hversions v hv)).1
  · exact (checkVersion_eq_ok_iff.1 (hversions v hv)).2

lemma SpecRules.validate {s : Spec} {naming : Naming} (h : SpecRules s naming) :
    s.validate naming = .ok () := by
  unfold Spec.validate
  rw [check_bind_eq_ok_iff, checkErrors_eq_ok_iff, forM_eq_ok_iff]
  refine ⟨h.errors, fun v hv => ?_⟩
  exact checkVersion_eq_ok_iff.2 ⟨h.models v hv, h.operations v hv⟩

/-- Validation is sound and complete: it accepts exactly the descriptions that keep the rules. -/
theorem validate_eq_ok_iff (s : Spec) (naming : Naming) :
    s.validate naming = .ok () ↔ SpecRules s naming :=
  ⟨SpecRules.of_validate, SpecRules.validate⟩

/-- An operation with parameters at several places and several responses. -/
def putOrder : Operation where
  name := "put_order"
  endpoint := ⟨.put, "/orders/{id}", [.ofType "id" (.named "uuid")]⟩
  headerParams := [.ofType "Trace-Id" (.nullable (.named "string"))]
  queryParams := [.ofType "color" (.array (.named "Color"))]
  body := .json (.named "Order") none
  responses := [⟨"ok", .json (.named "Order"), none⟩, ⟨"no_content", .empty, none⟩,
    ⟨"conflict", .rawString, none⟩]
  description := none

/-- A version with a model that holds itself through a nullable field, and a tagged choice. -/
def shopVersion : Version where
  name := "v1"
  url := none
  apis := [⟨"orders", [putOrder]⟩]
  models := [
    ⟨"Order", .object [.ofType "next" (.nullable (.named "Order")),
      .ofType "color" (.named "Color")], none⟩,
    ⟨"Event", .oneOf [.ofType "placed" (.named "Order"),
      .ofType "refused" (.named "ForbiddenError")] (some "kind"), none⟩,
    ⟨"Color", .enum [⟨"red", none⟩, ⟨"green", none⟩], none⟩]

/-- A description with an error response of its own. -/
def shop : Spec where
  name := "shop"
  versions := [shopVersion]
  httpErrors := ⟨[⟨"forbidden", .named "ForbiddenError", none⟩],
    [⟨"ForbiddenError", .object [.ofType "reason" (.named "string")], none⟩]⟩

example : shop.validate .standard = .ok () := by decide +kernel

end ApiCodegen.Proofs
