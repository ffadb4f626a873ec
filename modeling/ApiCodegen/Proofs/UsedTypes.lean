import ApiCodegen.Proofs.Needs
import ApiCodegen.Proofs.SignatureTypes
import ApiCodegen.Proofs.Validation

/-!
# What an API uses, by its resolved types

Questions about an API go through the names in its declared types. Its signatures hold what these
types resolve to, each of them and nothing else, so that every question has an answer in terms of
resolved types. Names of models are looked for without regard to primitives and shadowing: a
question about models may be answered with yes where resolution gives the name to something else.
-/

namespace ApiCodegen.Proofs

section Questions

variable {s : Scope} {here : Location} {t : TypeExpr} {type : ResolvedType} {p : Primitive}

lemma leaf_eq_primitive_iff (h : s.resolve here t = .ok type) :
    type.leaf = .primitive p ↔ Primitive.ofName? t.leaf = some p := by
  have hname := resolveName_eq_ok_iff.1 (resolveName_leaf h)
  rcases hname with ⟨q, hq, hleaf⟩ | ⟨hnone, origin, m, -, hleaf⟩
  · rw [hq, hleaf, ResolvedType.primitive.injEq, Option.some.injEq]
  · simp [hnone, hleaf]

/-- A type refers to a model of an origin if its innermost name is no primitive and is found there
first. -/
lemma leaf_eq_model_iff (h : s.resolve here t = .ok type) {origin : ModelOrigin} :
    (∃ name isEnum, type.leaf = .model name origin isEnum) ↔
      Primitive.ofName? t.leaf = none ∧ ∃ m, s.lookup t.leaf = some (origin, m) := by
  have hname := resolveName_eq_ok_iff.1 (resolveName_leaf h)
  rcases hname with ⟨q, hq, hleaf⟩ | ⟨hnone, found, m, hm, hleaf⟩
  · simp [hq, hleaf]
  · simp [hnone, hm, hleaf]

end Questions

/-! ### The types of an API -/

section Declared

variable {s : Scope} {naming : Naming} {here : Location} {o : Operation} {sig : Signature}
  {location : ParamLocation}

/-- One of the types is what a declared type resolves to. -/
def HasResolved (s : Scope) (types : List ResolvedType) (t : TypeExpr) : Prop :=
  ∃ type ∈ types, ∃ here, s.resolve here t = .ok type

lemma HasResolved.mono {types types' : List ResolvedType} {t : TypeExpr}
    (h : HasResolved s types t) (hsub : types ⊆ types') : HasResolved s types' t := by
  obtain ⟨type, htype, hresolve⟩ := h
  exact ⟨type, hsub htype, hresolve⟩

lemma hasResolved_of_param {ps : List Param} {cs : List ParamCodec}
    (h : ps.mapM (ParamCodec.ofParam s naming here location) = .ok cs) {p : Param} (hp : p ∈ ps) :
    HasResolved s (cs.map (·.type)) p.type := by
  obtain ⟨c, hc, hcodec⟩ := exists_mem_of_mapM h hp
  exact ⟨c.type, List.mem_map_of_mem hc, _, resolve_of_ofParam hcodec⟩

lemma hasResolved_of_field {body : BodyShape} (h : BodyBuilt s naming here o body) {p : Param}
    (hp : p ∈ o.body.formParams?.getD []) : HasResolved s (bodyTypes body) p.type := by
  cases h with
  | none hbody | text hbody | json hbody _ => simp [hbody, RequestBody.formParams?] at hp
  | multipart hbody hfields | urlEncoded hbody hfields =>
    rw [hbody] at hp
    exact hasResolved_of_param hfields hp

lemma hasResolved_of_request {body : BodyShape} (h : BodyBuilt s naming here o body)
    {t : TypeExpr} (ht : t ∈ requestTypes o.body) : HasResolved s (bodyTypes body) t := by
  cases h with
  | none hbody | text hbody | multipart hbody _ | urlEncoded hbody _ =>
    simp [hbody, requestTypes] at ht
  | json hbody hresolve =>
    rw [hbody] at ht
    cases List.mem_singleton.1 ht
    exact ⟨_, List.mem_singleton.2 rfl, _, hresolve⟩

lemma hasResolved_of_response {r : Response} {v : ResponseVariant}
    (h : Signature.variantOf s naming here r = .ok v) {t : TypeExpr}
    (ht : t ∈ responseTypes r.body) : HasResolved s (payloadTypes v.payload) t := by
  obtain ⟨code, payload, -, hpayload, rfl⟩ := variantOf_eq_ok_iff.1 h
  cases hbody : r.body with
  | empty | rawString => simp [hbody, responseTypes] at ht
  | json declared =>
    rw [hbody] at ht hpayload
    cases List.mem_singleton.1 ht
    obtain ⟨type, hresolve, rfl⟩ := map_eq_ok_iff.1 hpayload
    exact ⟨type, List.mem_singleton.2 rfl, _, hresolve⟩

/-- A signature leaves out no type that its operation declares. -/
lemma hasResolved_of_signature (h : Signature.ofOperation s naming here o = .ok sig)
    {t : TypeExpr} (ht : t ∈ operationTypes o) : HasResolved s (signatureTypes sig) t := by
  have hbuilt := ofOperation_eq_ok_iff.1 h
  have hcodecs : ∀ cs ⊆ sig.params, cs.map (·.type) ⊆ signatureTypes sig := by
    intro cs hcs type htype
    exact List.mem_append_left _ (List.mem_append_right _ (List.map_subset _ hcs htype))
  have hquery : sig.query ⊆ sig.params := by simp [Signature.params]
  have hheader : sig.header ⊆ sig.params := by simp [Signature.params]
  have hurl : sig.url ⊆ sig.params := by simp [Signature.params]
  rcases List.mem_append.1 ht with ht | ht
  · rcases List.mem_append.1 ht with ht | ht
    · obtain ⟨⟨location, p⟩, hp, rfl⟩ := List.mem_map.1 ht
      simp only [Operation.params, List.mem_append, List.mem_map, Prod.mk.injEq] at hp
      rcases hp with
        ((⟨q, hq, rfl, rfl⟩ | ⟨q, hq, rfl, rfl⟩) | ⟨q, hq, rfl, rfl⟩) | ⟨q, hq, rfl, rfl⟩
      · exact (hasResolved_of_field hbuilt.body hq).mono bodyTypes_subset
      · exact (hasResolved_of_param hbuilt.query hq).mono (hcodecs _ hquery)
      · exact (hasResolved_of_param hbuilt.header hq).mono (hcodecs _ hheader)
      · exact (hasResolved_of_param hbuilt.url hq).mono (hcodecs _ hurl)
    · exact (hasResolved_of_request hbuilt.body ht).mono bodyTypes_subset
  · obtain ⟨r, hr, ht⟩ := List.mem_flatMap.1 ht
    obtain ⟨variants, hvariants, hreturns⟩ := hbuilt.returns
    obtain ⟨v, hv, hvariant⟩ := exists_mem_of_mapM hvariants hr
    refine (hasResolved_of_response hvariant ht).mono (payloadTypes_subset ?_)
    rw [hreturns, variants_returnsOf]
    exact hv

end Declared

/-- One of the types is a model of an origin, in whatever containers. -/
def HasOrigin (types : List ResolvedType) (origin : ModelOrigin) : Prop :=
  ∃ type ∈ types, ∃ name isEnum, type.leaf = .model name origin isEnum

/-- The questions about an API, answered by its resolved types. -/
structure UsageAgrees (v : Version) (errors : HttpErrors) (a : Api) (types : List ResolvedType) :
    Prop where
  primitive : ∀ p, a.usesPrimitive p = true ↔ ∃ type ∈ types, type.leaf = .primitive p
  map : a.usesMap = true ↔ ∃ type ∈ types, type.hasMap = true
  models : HasOrigin types .version → a.usesModels v = true
  errorModels : HasOrigin types .error → a.usesErrorModels errors = true
  standardErrors : HasOrigin types .standard → a.usesStandardErrors = true
  models_iff : (∀ m ∈ v.models, Primitive.ofName? m.name = none) →
    (a.usesModels v = true ↔ HasOrigin types .version)

section Apis

variable {e : Emission} {v : Version} {a : Api} {sigs : List Signature}

/-- What can be told of a type from the type it resolves to can be asked of either. -/
lemma exists_apiType_iff (h : e.signatures v a = .ok sigs) {P : TypeExpr → Prop}
    {Q : ResolvedType → Prop}
    (hPQ : ∀ here t type, (Scope.ofVersion v e.spec.httpErrors).resolve here t = .ok type →
      (P t ↔ Q type)) :
    (∃ t ∈ apiTypes a, P t) ↔ ∃ type ∈ sigs.flatMap signatureTypes, Q type := by
  constructor
  · rintro ⟨t, ht, hP⟩
    obtain ⟨o, ho, ht⟩ := List.mem_flatMap.1 ht
    obtain ⟨sig, hsig, hbuilt⟩ := exists_mem_of_mapM h ho
    obtain ⟨type, htype, here, hresolve⟩ := hasResolved_of_signature hbuilt ht
    exact ⟨type, List.mem_flatMap.2 ⟨sig, hsig, htype⟩, (hPQ here t type hresolve).1 hP⟩
  · rintro ⟨type, htype, hQ⟩
    obtain ⟨sig, hsig, htype⟩ := List.mem_flatMap.1 htype
    obtain ⟨o, ho, hbuilt⟩ := exists_of_mem_mapM h hsig
    obtain ⟨t, ht, here, hresolve⟩ := resolvesTo_of_signature hbuilt htype
    exact ⟨t, List.mem_flatMap.2 ⟨o, ho, ht⟩, (hPQ here t type hresolve).2 hQ⟩

lemma hasOrigin_iff (h : e.signatures v a = .ok sigs) (origin : ModelOrigin) :
    HasOrigin (sigs.flatMap signatureTypes) origin ↔ ∃ t ∈ apiTypes a,
      Primitive.ofName? t.leaf = none ∧
        ∃ m, (Scope.ofVersion v e.spec.httpErrors).lookup t.leaf = some (origin, m) :=
  (exists_apiType_iff h fun _ _ _ hresolve => (leaf_eq_model_iff hresolve).symm).symm

/-- A name is found in the version exactly if the version has a model of this name. -/
lemma lookup_version_iff {errors : HttpErrors} {name : String} :
    (∃ m, (Scope.ofVersion v errors).lookup name = some (.version, m)) ↔
      (v.model? name).isSome = true := by
  constructor
  · rintro ⟨m, hlookup⟩
    have hfound := lookup_eq_some hlookup
    exact hfound
  · intro hsome
    obtain ⟨m, hm⟩ := Option.isSome_iff_exists.1 hsome
    have hfind : findModel (Scope.ofVersion v errors).models name = some m := hm
    exact ⟨some m, by rw [Scope.lookup, hfind]⟩

lemma usageAgrees_of_signatures (h : e.signatures v a = .ok sigs) :
    UsageAgrees v e.spec.httpErrors a (sigs.flatMap signatureTypes) := by
  have hmodels : HasOrigin (sigs.flatMap signatureTypes) .version ↔ ∃ t ∈ apiTypes a,
      Primitive.ofName? t.leaf = none ∧ (v.model? t.leaf).isSome = true := by
    rw [hasOrigin_iff h]
    simp only [lookup_version_iff]
  constructor
  · intro p
    rw [api_usesPrimitive_iff]
    exact exists_apiType_iff h fun _ _ _ hresolve => (leaf_eq_primitive_iff hresolve).symm
  · rw [api_usesMap_iff]
    exact exists_apiType_iff h fun _ _ _ hresolve => by rw [hasMap_of_resolve hresolve]
  · intro horigin
    obtain ⟨t, ht, -, hmodel⟩ := hmodels.1 horigin
    exact api_usesModels_iff.2 ⟨t, ht, hmodel⟩
  · intro horigin
    obtain ⟨t, ht, -, m, hlookup⟩ := (hasOrigin_iff h .error).1 horigin
    have hfound := lookup_eq_some hlookup
    exact api_usesErrorModels_iff.2 ⟨t, ht, hfound.2⟩
  · intro horigin
    obtain ⟨t, ht, -, m, hlookup⟩ := (hasOrigin_iff h .standard).1 horigin
    have hfound := lookup_eq_some hlookup
    exact api_usesStandardErrors_iff.2 ⟨t, ht, hfound.2.2⟩
  · intro hnames
    rw [hmodels, api_usesModels_iff]
    constructor
    · rintro ⟨t, ht, hmodel⟩
      obtain ⟨m, hm⟩ := Option.isSome_iff_exists.1 hmodel
      obtain ⟨hmem, hname⟩ := mem_of_findModel hm
      exact ⟨t, ht, hname ▸ hnames m hmem, hmodel⟩
    · rintro ⟨t, ht, -, hmodel⟩
      exact ⟨t, ht, hmodel⟩

end Apis

/-- Questions about primitives agree with resolution, and so do those about an API whose signatures
build. -/
theorem usage_agrees :
    (∀ (s : Scope) (here : Location) (t : TypeExpr) (type : ResolvedType),
      s.resolve here t = .ok type →
        ∀ p, t.mentionsPrimitive p = true ↔ type.leaf = .primitive p) ∧
      ∀ (e : Emission) (v : Version) (a : Api) (sigs : List Signature),
        e.signatures v a = .ok sigs →
          UsageAgrees v e.spec.httpErrors a (sigs.flatMap signatureTypes) := by
  constructor
  · intro s here t type hresolve p
    rw [mentionsPrimitive_iff, leaf_eq_primitive_iff hresolve]
  · intro e v a sigs hsigs
    exact usageAgrees_of_signatures hsigs

theorem usage_agrees_shop :
    ∃ type sigs, (Scope.ofVersion shopVersion shop.httpErrors).resolve .root
        (.map (.nullable (.named "bool"))) = .ok type ∧
      (∀ p, (TypeExpr.map (.nullable (.named "bool"))).mentionsPrimitive p = true ↔
        type.leaf = .primitive p) ∧
      (Emission.mk shop .standard .standard .client).signatures shopVersion
        ⟨"orders", [putOrder]⟩ = .ok sigs ∧
      UsageAgrees shopVersion shop.httpErrors ⟨"orders", [putOrder]⟩
        (sigs.flatMap signatureTypes) :=
  ⟨_, _, rfl,
    usage_agrees.1 (.ofVersion shopVersion shop.httpErrors) .root
      (.map (.nullable (.named "bool"))) _ rfl,
    rfl,
    usage_agrees.2 ⟨shop, .standard, .standard, .client⟩ _ _ _ rfl⟩

end ApiCodegen.Proofs
