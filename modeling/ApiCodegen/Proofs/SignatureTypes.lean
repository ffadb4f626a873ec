import ApiCodegen.Proofs.Dispatch
import ApiCodegen.Proofs.Spellings
import ApiCodegen.Proofs.Usage

/-!
# The types of a signature

A signature holds resolved types: of its payload or of the fields of its form, of its parameters,
and of the payloads of its responses. Each is what a type that the operation declares resolves to,
and every type that code for the operation spells is one of them, or has no name to import.
-/

namespace ApiCodegen.Proofs

/-- The types of the payload of a request. -/
def bodyTypes : BodyShape → List ResolvedType
  | .json type => [type]
  | .form _ fields _ => fields.map (·.type)
  | .none | .text => []

/-- The types of the payload of a response. -/
def payloadTypes : Payload → List ResolvedType
  | .json type => [type]
  | .empty | .text => []

/-- The types of a payload that the function itself names; those of a form belong to its struct. -/
def argumentTypes : BodyShape → List ResolvedType
  | .json type => [type]
  | .none | .text | .form _ _ _ => []

/-- The types of a result that the function itself names. -/
def resultTypes : Returns → List ResolvedType
  | .single variant => payloadTypes variant.payload
  | .multiple _ _ => []

lemma types_eq (sig : Signature) : sig.types =
    argumentTypes sig.body ++ sig.params.map (·.type) ++ resultTypes sig.returns := by
  unfold Signature.types
  cases sig.body with
  | none | text | json _ | form _ _ _ =>
    cases sig.returns with
    | multiple enumName variants => rfl
    | single variant =>
      obtain ⟨name, code, response, payload⟩ := variant
      cases payload with
      | empty | text | json _ => rfl

/-- The types of a signature. -/
def signatureTypes (sig : Signature) : List ResolvedType :=
  bodyTypes sig.body ++ sig.params.map (·.type) ++
    sig.returns.variants.flatMap fun v => payloadTypes v.payload

/-- One of the declared types resolves to this one. -/
def ResolvesTo (s : Scope) (types : List TypeExpr) (type : ResolvedType) : Prop :=
  ∃ t ∈ types, ∃ here, s.resolve here t = .ok type

section Declared

variable {s : Scope} {naming : Naming} {here : Location} {o : Operation} {sig : Signature}
  {location : ParamLocation}

lemma resolve_of_ofParam {p : Param} {c : ParamCodec}
    (h : ParamCodec.ofParam s naming here location p = .ok c) :
    s.resolve (here.child p.name) p.type = .ok c.type := by
  obtain ⟨shape, type, -, htype, rfl⟩ := ofParam_eq_ok_iff.1 h
  exact htype

lemma resolvesTo_of_codec {ps : List Param} {cs : List ParamCodec}
    (h : ps.mapM (ParamCodec.ofParam s naming here location) = .ok cs)
    (hps : ∀ p ∈ ps, (location, p) ∈ o.params) {c : ParamCodec} (hc : c ∈ cs) :
    ResolvesTo s (operationTypes o) c.type := by
  obtain ⟨p, hp, hcodec⟩ := exists_of_mem_mapM h hc
  refine ⟨p.type, ?_, here.child p.name, resolve_of_ofParam hcodec⟩
  exact List.mem_append_left _ (List.mem_append_left _ (List.mem_map_of_mem (hps p hp)))

lemma resolvesTo_of_body {body : BodyShape} (h : BodyBuilt s naming here o body)
    {type : ResolvedType} (htype : type ∈ bodyTypes body) :
    ResolvesTo s (operationTypes o) type := by
  have hfields : ∀ params, o.body.formParams? = some params → ∀ fields,
      params.mapM (ParamCodec.ofParam s naming here .form) = .ok fields →
        ∀ c ∈ fields, ResolvesTo s (operationTypes o) c.type := by
    intro params hparams fields hcodecs c hc
    refine resolvesTo_of_codec hcodecs (fun p hp => ?_) hc
    simp [Operation.params, hparams, hp]
  cases h with
  | none _ | text _ => cases htype
  | json hbody hresolve =>
    cases List.mem_singleton.1 htype
    refine ⟨_, ?_, _, hresolve⟩
    simp [operationTypes, requestTypes, hbody]
  | multipart hbody hcodecs | urlEncoded hbody hcodecs =>
    obtain ⟨c, hc, rfl⟩ := List.mem_map.1 htype
    exact hfields _ (by rw [hbody]; rfl) _ hcodecs c hc

lemma resolvesTo_of_variant {r : Response} (hr : r ∈ o.responses) {v : ResponseVariant}
    (h : Signature.variantOf s naming here r = .ok v) {type : ResolvedType}
    (htype : type ∈ payloadTypes v.payload) : ResolvesTo s (operationTypes o) type := by
  obtain ⟨code, payload, -, hpayload, rfl⟩ := variantOf_eq_ok_iff.1 h
  cases hbody : r.body with
  | empty | rawString =>
    rw [hbody] at hpayload
    cases hpayload
    cases htype
  | json declared =>
    rw [hbody] at hpayload
    obtain ⟨type', hresolve, rfl⟩ := map_eq_ok_iff.1 hpayload
    cases List.mem_singleton.1 htype
    refine ⟨declared, List.mem_append_right _ ?_, _, hresolve⟩
    refine List.mem_flatMap.2 ⟨r, hr, ?_⟩
    simp [responseTypes, hbody]

/-- The types of a signature are those that its operation declares, resolved. -/
theorem resolvesTo_of_signature (h : Signature.ofOperation s naming here o = .ok sig)
    {type : ResolvedType} (htype : type ∈ signatureTypes sig) :
    ResolvesTo s (operationTypes o) type := by
  have hbuilt := ofOperation_eq_ok_iff.1 h
  rcases List.mem_append.1 htype with htype | htype
  · rcases List.mem_append.1 htype with htype | htype
    · exact resolvesTo_of_body hbuilt.body htype
    · obtain ⟨c, hc, rfl⟩ := List.mem_map.1 htype
      rcases List.mem_append.1 hc with hc | hc
      · rcases List.mem_append.1 hc with hc | hc
        · exact resolvesTo_of_codec hbuilt.query (fun p hp => by simp [Operation.params, hp]) hc
        · exact resolvesTo_of_codec hbuilt.header (fun p hp => by simp [Operation.params, hp]) hc
      · exact resolvesTo_of_codec hbuilt.url (fun p hp => by simp [Operation.params, hp]) hc
  · obtain ⟨v, hv, htype⟩ := List.mem_flatMap.1 htype
    obtain ⟨variants, hvariants, hreturns⟩ := hbuilt.returns
    rw [hreturns, variants_returnsOf] at hv
    obtain ⟨r, hr, hvariant⟩ := exists_of_mem_mapM hvariants hv
    exact resolvesTo_of_variant hr hvariant htype

end Declared

/-! ### Types in the code of an operation -/

/-- How files of an API write these types, and types that need nothing. -/
inductive SpelledFrom (naming : Naming) (types : List ResolvedType) : Spelling → Prop
  | resolved {type : ResolvedType} (h : type ∈ types) :
    SpelledFrom naming types (type.spell naming .inApi)
  /-- A type that the file declares itself. -/
  | declared (name : String) : SpelledFrom naming types (.named "" name)
  | string : SpelledFrom naming types (.primitive .string)
  | unit : SpelledFrom naming types .unit
  | text : SpelledFrom naming types .text
  | borrowed {t : Spelling} (h : SpelledFrom naming types t) : SpelledFrom naming types (.borrowed t)

section Spelled

variable {naming : Naming} {sig : Signature} {types : List ResolvedType}

lemma SpelledFrom.mono {types' : List ResolvedType} {t : Spelling} (h : SpelledFrom naming types t)
    (hsub : types ⊆ types') : SpelledFrom naming types' t := by
  induction h with
  | resolved htype => exact .resolved (hsub htype)
  | declared name => exact .declared name
  | string => exact .string
  | unit => exact .unit
  | text => exact .text
  | borrowed _ ih => exact .borrowed ih

lemma spelledFrom_payload {p : Payload} {t : Spelling} (ht : p.spelling? naming .inApi = some t) :
    SpelledFrom naming (payloadTypes p) t := by
  cases p with
  | empty => cases ht
  | text =>
    cases ht
    exact .string
  | json type =>
    cases ht
    exact .resolved (List.mem_singleton.2 rfl)

lemma bodyTypes_subset : bodyTypes sig.body ⊆ signatureTypes sig := by
  intro type htype
  exact List.mem_append_left _ (List.mem_append_left _ htype)

lemma payloadTypes_subset {v : ResponseVariant} (hv : v ∈ sig.returns.variants) :
    payloadTypes v.payload ⊆ signatureTypes sig := by
  intro type htype
  exact List.mem_append_right _ (List.mem_flatMap.2 ⟨v, hv, htype⟩)

lemma spelledFrom_formCode {t : Spelling} (ht : t ∈ (sig.formCode naming).spellings) :
    SpelledFrom naming (signatureTypes sig) t := by
  have hbody : bodyTypes sig.body ⊆ signatureTypes sig := bodyTypes_subset
  unfold Signature.formCode at ht
  cases hshape : sig.body with
  | none | text | json _ => simp [hshape] at ht
  | form structName fields multipart =>
    rw [hshape] at ht
    change t ∈ (Code.line _ ++ .texts _ ++ .braces _ (.all _) ++ .blank).spellings at ht
    simp only [spellings_append, spellings_line, line_spellings_text, line_spellings_copied,
      line_spellings_nil, spellings_texts, spellings_braces, line_spellings_declares, spellings_all,
      List.flatMap_map, spellings_doc, line_spellings_spelled, spellings_blank, List.nil_append,
      List.append_nil, List.mem_flatMap, List.mem_singleton] at ht
    obtain ⟨c, hc, rfl⟩ := ht
    rw [hshape] at hbody
    exact .resolved (hbody (List.mem_map_of_mem hc))

lemma spelledFrom_responseCode {t : Spelling} (ht : t ∈ (sig.responseCode naming).spellings) :
    SpelledFrom naming (signatureTypes sig) t := by
  unfold Signature.responseCode at ht
  cases hreturns : sig.returns with
  | single v => simp [hreturns] at ht
  | multiple enumName variants =>
    rw [hreturns] at ht
    change t ∈ (Code.line _ ++ .texts _ ++ .braces _ (.all _) ++ .blank).spellings at ht
    simp only [spellings_append, spellings_line, line_spellings_text,
      line_spellings_copied, line_spellings_nil, spellings_texts, spellings_braces,
      line_spellings_declares, spellings_all, List.flatMap_map, spellings_blank, List.nil_append,
      List.append_nil, List.mem_flatMap] at ht
    obtain ⟨v, hv, ht⟩ := ht
    have hsub : payloadTypes v.payload ⊆ signatureTypes sig :=
      payloadTypes_subset (by rw [hreturns]; exact hv)
    unfold Signature.variantCode at ht
    cases hpayload : v.payload.spelling? naming .inApi with
    | none => simp [hpayload] at ht
    | some type =>
      simp only [hpayload, spellings_append, spellings_doc, spellings_line,
        line_spellings_declares, line_spellings_text, line_spellings_spelled, line_spellings_nil,
        List.nil_append, List.mem_singleton] at ht
      rw [ht]
      exact (spelledFrom_payload hpayload).mono hsub

/-- The types that the operations of an API declare have types of their signatures inside. -/
lemma spelledFrom_typesCode {sigs : List Signature} {t : Spelling}
    (ht : t ∈ (Signature.typesCode naming sigs).spellings) :
    ∃ sig ∈ sigs, SpelledFrom naming (signatureTypes sig) t := by
  unfold Signature.typesCode at ht
  rw [spellings_all, List.flatMap_map] at ht
  obtain ⟨sig, hsig, ht⟩ := List.mem_flatMap.1 ht
  refine ⟨sig, hsig, ?_⟩
  rcases List.mem_append.1 (spellings_append .. ▸ ht) with ht | ht
  · exact spelledFrom_formCode ht
  · exact spelledFrom_responseCode ht

lemma spelledFrom_returns :
    SpelledFrom naming (signatureTypes sig) (sig.returnSpelling naming .inApi) := by
  unfold Signature.returnSpelling
  cases hreturns : sig.returns with
  | multiple enumName variants => exact .declared enumName
  | single v =>
    have hsub : payloadTypes v.payload ⊆ signatureTypes sig :=
      payloadTypes_subset (by rw [hreturns]; exact List.mem_singleton.2 rfl)
    dsimp only
    cases hpayload : v.payload.spelling? naming .inApi with
    | none => exact .unit
    | some type => exact (spelledFrom_payload hpayload).mono hsub

lemma spelledFrom_formals {body : Option Spelling}
    (hbody : ∀ t, body = some t → SpelledFrom naming (signatureTypes sig) t)
    {f : Signature.Formal} (hf : f ∈ sig.formals naming .inApi body) :
    SpelledFrom naming (signatureTypes sig) f.type := by
  rcases List.mem_append.1 hf with hf | hf
  · obtain ⟨t, ht, rfl⟩ := Option.map_eq_some_iff.1 (Option.mem_toList.1 hf)
    exact hbody t ht
  · obtain ⟨c, hc, rfl⟩ := List.mem_map.1 hf
    refine .resolved (List.mem_append_left _ (List.mem_append_right _ ?_))
    exact List.mem_map_of_mem hc

lemma spelledFrom_clientFormals {f : Signature.Formal} (hf : f ∈ sig.clientFormals naming .inApi) :
    SpelledFrom naming (signatureTypes sig) f.type := by
  have hbody : bodyTypes sig.body ⊆ signatureTypes sig := bodyTypes_subset
  refine spelledFrom_formals (fun t ht => ?_) hf
  cases hshape : sig.body with
  | none =>
    rw [hshape] at ht
    cases ht
  | text =>
    rw [hshape] at ht
    cases ht
    exact .text
  | json type =>
    rw [hshape] at ht hbody
    cases ht
    exact .borrowed (.resolved (hbody (List.mem_singleton.2 rfl)))
  | form structName fields multipart =>
    rw [hshape] at ht
    cases ht
    exact .borrowed (.declared structName)

lemma spelledFrom_serviceFormals {f : Signature.Formal}
    (hf : f ∈ sig.serviceFormals naming .inApi) :
    SpelledFrom naming (signatureTypes sig) f.type := by
  have hbody : bodyTypes sig.body ⊆ signatureTypes sig := bodyTypes_subset
  refine spelledFrom_formals (fun t ht => ?_) hf
  cases hshape : sig.body with
  | none =>
    rw [hshape] at ht
    cases ht
  | text =>
    rw [hshape] at ht
    cases ht
    exact .string
  | json type =>
    rw [hshape] at ht hbody
    cases ht
    exact .resolved (hbody (List.mem_singleton.2 rfl))
  | form structName fields multipart =>
    rw [hshape] at ht
    cases ht
    exact .declared structName

lemma spellings_receiverLine (formals : List Signature.Formal) :
    (Signature.receiverLine formals).spellings = formals.map (·.type) := by
  unfold Signature.receiverLine Signature.formalsLine
  simp only [line_spellings_text, line_spellings_append, line_spellings_joined, List.flatMap_map,
    List.cons_append, line_spellings_binds, line_spellings_spelled, line_spellings_nil,
    List.append_nil]
  exact List.map_eq_flatMap.symm

end Spelled

end ApiCodegen.Proofs
