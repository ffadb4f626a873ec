import ApiCodegen.Proofs.Sequencing
import ApiCodegen.Signature.Operation

/-!
# Signatures taken apart

A signature that builds is made of what the parts of its operation resolve to. The lemmas below say
this once for each part, so that no proof about a signature has to follow the steps that built it.
-/

namespace ApiCodegen.Proofs

variable {s : Scope} {naming : Naming} {here : Location} {o : Operation}

lemma ofParam_eq_ok_iff {location : ParamLocation} {p : Param} {c : ParamCodec} :
    ParamCodec.ofParam s naming here location p = .ok c ↔
      ∃ shape type, ParamShape.ofType? p.type = some shape ∧
        s.resolve (here.child p.name) p.type = .ok type ∧
        c = ⟨p, location, naming.fieldName p.name, shape, type, type.leaf⟩ := by
  unfold ParamCodec.ofParam
  cases hshape : ParamShape.ofType? p.type with
  | none => simp
  | some shape =>
    simp only [Option.some.injEq]
    rw [bind_eq_ok_iff]
    constructor
    · rintro ⟨type, htype, hc⟩
      cases hc
      exact ⟨shape, type, rfl, htype, rfl⟩
    · rintro ⟨_, type, rfl, htype, rfl⟩
      exact ⟨type, htype, rfl⟩

lemma variantOf_eq_ok_iff {r : Response} {v : ResponseVariant} :
    Signature.variantOf s naming here r = .ok v ↔
      ∃ code payload, statusCode? r.status = some code ∧
        Signature.payloadOf s ((here.child "responses").child r.status) r.body = .ok payload ∧
        v = ⟨naming.variantName r.status, code, r, payload⟩ := by
  unfold Signature.variantOf
  rw [bind_eq_ok_iff]
  cases hcode : statusCode? r.status with
  | none => simp
  | some code =>
    simp only [Option.some.injEq]
    constructor
    · rintro ⟨payload, hpayload, hv⟩
      cases hv
      exact ⟨code, payload, rfl, hpayload, rfl⟩
    · rintro ⟨_, payload, rfl, hpayload, rfl⟩
      exact ⟨payload, hpayload, rfl⟩

lemma variants_returnsOf (enumName : String) (variants : List ResponseVariant) :
    (Signature.returnsOf enumName variants).variants = variants := by
  unfold Signature.returnsOf
  split
  · rfl
  · rfl

/-- What the payload of an operation becomes. -/
inductive BodyBuilt (s : Scope) (naming : Naming) (here : Location) (o : Operation) :
    BodyShape → Prop
  | none (hbody : o.body = .empty) : BodyBuilt s naming here o .none
  | text {description : Option String} (hbody : o.body = .rawString description) :
    BodyBuilt s naming here o .text
  | json {t : TypeExpr} {description : Option String} {type : ResolvedType}
    (hbody : o.body = .json t description)
    (hresolve : s.resolve (here.child "body") t = .ok type) : BodyBuilt s naming here o (.json type)
  | multipart {params : List Param} {fields : List ParamCodec} (hbody : o.body = .formData params)
    (hfields : params.mapM (ParamCodec.ofParam s naming here .form) = .ok fields) :
    BodyBuilt s naming here o (.form (Signature.formName naming o) fields true)
  | urlEncoded {params : List Param} {fields : List ParamCodec}
    (hbody : o.body = .formUrlEncoded params)
    (hfields : params.mapM (ParamCodec.ofParam s naming here .form) = .ok fields) :
    BodyBuilt s naming here o (.form (Signature.formName naming o) fields false)

lemma bodyOf_eq_ok_iff {body : BodyShape} :
    Signature.bodyOf s naming here o = .ok body ↔ BodyBuilt s naming here o body := by
  unfold Signature.bodyOf
  constructor
  · intro h
    cases hbody : o.body with
    | empty =>
      rw [hbody] at h
      cases h
      exact .none hbody
    | rawString description =>
      rw [hbody] at h
      cases h
      exact .text hbody
    | json t description =>
      rw [hbody] at h
      obtain ⟨type, hresolve, rfl⟩ := map_eq_ok_iff.1 h
      exact .json hbody hresolve
    | formData params =>
      rw [hbody] at h
      obtain ⟨fields, hfields, rfl⟩ := map_eq_ok_iff.1 h
      exact .multipart hbody hfields
    | formUrlEncoded params =>
      rw [hbody] at h
      obtain ⟨fields, hfields, rfl⟩ := map_eq_ok_iff.1 h
      exact .urlEncoded hbody hfields
  · rintro (hbody | hbody | ⟨hbody, hresolve⟩ | ⟨hbody, hfields⟩ | ⟨hbody, hfields⟩)
    · rw [hbody]
    · rw [hbody]
    · rw [hbody]
      exact map_eq_ok_iff.2 ⟨_, hresolve, rfl⟩
    · rw [hbody]
      exact map_eq_ok_iff.2 ⟨_, hfields, rfl⟩
    · rw [hbody]
      exact map_eq_ok_iff.2 ⟨_, hfields, rfl⟩

/-- What an operation becomes, part by part. -/
structure Built (s : Scope) (naming : Naming) (here : Location) (o : Operation) (sig : Signature) :
    Prop where
  operation : sig.operation = o
  fnName : sig.fnName = naming.fnName o.name
  body : BodyBuilt s naming here o sig.body
  query : o.queryParams.mapM (ParamCodec.ofParam s naming here .query) = .ok sig.query
  header : o.headerParams.mapM (ParamCodec.ofParam s naming here .header) = .ok sig.header
  url : o.endpoint.params.mapM (ParamCodec.ofParam s naming here .url) = .ok sig.url
  returns : ∃ variants, o.responses.mapM (Signature.variantOf s naming here) = .ok variants ∧
    sig.returns = Signature.returnsOf (Signature.responseName naming o) variants

/-- The signatures of an operation are those that are built of its parts. -/
theorem ofOperation_eq_ok_iff {sig : Signature} :
    Signature.ofOperation s naming here o = .ok sig ↔ Built s naming here o sig := by
  unfold Signature.ofOperation
  constructor
  · intro h
    obtain ⟨body, hbody, h⟩ := bind_eq_ok_iff.1 h
    obtain ⟨variants, hvariants, h⟩ := bind_eq_ok_iff.1 h
    obtain ⟨query, hquery, h⟩ := bind_eq_ok_iff.1 h
    obtain ⟨header, hheader, h⟩ := bind_eq_ok_iff.1 h
    obtain ⟨url, hurl, h⟩ := bind_eq_ok_iff.1 h
    cases h
    exact ⟨rfl, rfl, bodyOf_eq_ok_iff.1 hbody, hquery, hheader, hurl, variants, hvariants, rfl⟩
  · intro h
    obtain ⟨hoperation, hfnName, hbody, hquery, hheader, hurl, variants, hvariants, hreturns⟩ := h
    have hsig : Signature.mk o (naming.fnName o.name) sig.body sig.query sig.header sig.url
        (Signature.returnsOf (Signature.responseName naming o) variants) = sig := by
      rw [← hfnName, ← hreturns, ← hoperation]
    rw [← hsig]
    exact bind_eq_ok_iff.2 ⟨_, bodyOf_eq_ok_iff.2 hbody, bind_eq_ok_iff.2 ⟨_, hvariants,
      bind_eq_ok_iff.2 ⟨_, hquery, bind_eq_ok_iff.2 ⟨_, hheader, bind_eq_ok_iff.2 ⟨_, hurl, rfl⟩⟩⟩⟩⟩

end ApiCodegen.Proofs
