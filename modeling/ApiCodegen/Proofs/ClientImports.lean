import ApiCodegen.Proofs.Needs
import ApiCodegen.Proofs.SignatureTypes
import ApiCodegen.Proofs.Taxonomy

/-!
# Imports of client files

A client spells the types of its API and, in the branches of every method, those of the error
taxonomy. Its imports follow the types of the API and the modules that models are reached through.
A primitive or a map that only the taxonomy has is spelled and not imported.
-/

namespace ApiCodegen.Proofs

/-! ### Imports of the types of an API -/

section Apis

variable {e : Emission} {v : Version} {a : Api} {u : UsePath} {types : List ResolvedType}
  {naming : Naming} {version : String}

/-- What the types of an API need, each under the question whether the API has such a type. -/
lemma mem_apiUses_iff : u ∈ e.apiUses v a ↔
    a.usesModels v = true ∧ u = modelsUse (e.versionModule v) ∨
      a.usesErrorModels e.spec.httpErrors = true ∧ u = errorsUse ∨
      a.usesStandardErrors = true ∧ u = standardUse ∨
      (∃ p, a.usesPrimitive p = true ∧ primitiveUse? p = some u) ∨
      a.usesMap = true ∧ u = mapUse :=
  mem_pathUses_iff

/-- A file of an API imports what the resolved types of the API need. -/
lemma mem_apiUses {type : ResolvedType}
    (htype : ResolvesTo (.ofVersion v e.spec.httpErrors) (apiTypes a) type)
    (hu : u ∈ needs (e.versionModule v) (type.spell naming .inApi)) : u ∈ e.apiUses v a := by
  obtain ⟨t, ht, here, hresolve⟩ := htype
  rw [mem_apiUses_iff]
  rcases (mem_needs_iff hresolve).1 hu with ⟨p, hp, hpu⟩ | ⟨origin, m, -, hlookup, hq⟩ | ⟨hmap, rfl⟩
  · exact Or.inr (Or.inr (Or.inr (Or.inl ⟨p, api_usesPrimitive_iff.2 ⟨t, ht, hp⟩, hpu⟩)))
  · have hfound := lookup_eq_some hlookup
    cases origin with
    | version =>
      cases hq
      exact Or.inl ⟨api_usesModels_iff.2 ⟨t, ht, hfound⟩, rfl⟩
    | error =>
      cases hq
      exact Or.inr (Or.inl ⟨api_usesErrorModels_iff.2 ⟨t, ht, hfound.2⟩, rfl⟩)
    | standard =>
      cases hq
      exact Or.inr (Or.inr (Or.inl ⟨api_usesStandardErrors_iff.2 ⟨t, ht, hfound.2.2⟩, rfl⟩))
  · exact Or.inr (Or.inr (Or.inr (Or.inr ⟨api_usesMap_iff.2 ⟨t, ht, hmap⟩, rfl⟩)))

lemma mem_apiUses_of_signature {sigs : List Signature} (hsigs : e.signatures v a = .ok sigs)
    {sig : Signature} (hsig : sig ∈ sigs) {type : ResolvedType} (htype : type ∈ signatureTypes sig)
    (hu : u ∈ needs (e.versionModule v) (type.spell naming .inApi)) : u ∈ e.apiUses v a := by
  obtain ⟨o, ho, hsig⟩ := exists_of_mem_mapM hsigs hsig
  obtain ⟨d, hd, hresolve⟩ := resolvesTo_of_signature hsig htype
  exact mem_apiUses ⟨d, List.mem_flatMap.2 ⟨o, ho, hd⟩, hresolve⟩ hu

/-- What is spelled from some types needs nothing that none of them needs. -/
lemma needs_spelledFrom {t : Spelling} (h : SpelledFrom naming types t) (hu : u ∈ needs version t) :
    ∃ type ∈ types, u ∈ needs version (type.spell naming .inApi) := by
  induction h with
  | resolved htype => exact ⟨_, htype, hu⟩
  | declared name => cases hu
  | string => cases hu
  | unit => cases hu
  | text => cases hu
  | borrowed _ ih => exact ih hu

end Apis

/-! ### Code without types -/

section Writing

variable {naming : Naming} {sig : Signature} {errors : List ErrorVariant}

lemma statement_spellings (w : ParamWriting) (writer value : Line) :
    (w.statement writer value).spellings = writer.spellings ++ value.spellings := by
  have hargument : (w.argument value).spellings = value.spellings := by
    unfold ParamWriting.argument ParamWriting.formatCall
    cases w.shape <;> cases w.formatted <;> simp
  unfold ParamWriting.statement
  simp [hargument]

lemma writingCode_spellings {writer : Var} {place : ParamCodec → Line} {codecs : List ParamCodec}
    (hplace : ∀ c, (place c).spellings = []) :
    (writingCode writer place codecs).spellings = [] := by
  unfold writingCode
  split
  · rfl
  · simp [statement_spellings, hplace]

lemma urlLine_spellings (url : String) (codecs : List ParamCodec) :
    (ClientMethod.urlLine url codecs).spellings = [] := by
  have hargument : ∀ c : ParamCodec, c.urlArgument.spellings = [] := by
    intro c
    unfold ParamCodec.urlArgument ParamWriting.formatCall
    split <;> simp
  unfold ClientMethod.urlLine
  simp [hargument]

lemma queryCode_spellings (codecs : List ParamCodec) :
    (ClientMethod.queryCode codecs).spellings = [] := by
  unfold ClientMethod.queryCode
  split
  · rfl
  · rw [spellings_append, writingCode_spellings fun _ => rfl]
    simp

lemma headerCode_spellings (codecs : List ParamCodec) :
    (ClientMethod.headerCode codecs).spellings = [] := by
  unfold ClientMethod.headerCode
  split
  · rfl
  · change (writingCode _ _ _ ++ .hanging _ _ _).spellings = []
    rw [spellings_append, writingCode_spellings fun _ => rfl]
    simp

lemma bodyCode_spellings (body : BodyShape) : (ClientMethod.bodyCode body).spellings = [] := by
  unfold ClientMethod.bodyCode
  cases body with
  | none => rfl
  | text => simp
  | json type => simp
  | form structName fields multipart =>
    have hform : (ClientMethod.formCode multipart).spellings = [] := by
      unfold ClientMethod.formCode
      split <;> simp
    dsimp only
    split
    · simp [hform]
    · rw [spellings_append, writingCode_spellings fun _ => rfl, hform]
      rfl

end Writing

/-! ### Types in the methods of a client -/

section Methods

variable {naming : Naming} {sig : Signature} {errors : List ErrorVariant}

lemma branchCode_spellings (b : ClientBranch) :
    (b.branchCode naming).spellings = (b.readLine naming).spellings ++ b.returnLine.spellings := by
  unfold ClientBranch.branchCode
  simp

/-- A branch spells the type of a document that it reads. -/
lemma mem_readLine_spellings {b : ClientBranch} {t : Spelling} :
    t ∈ (b.readLine naming).spellings ↔ ∃ type ∈ payloadTypes b.payload, t = type.spell naming .inApi := by
  unfold ClientBranch.readLine
  cases hpayload : b.payload with
  | empty => simp [payloadTypes]
  | text => simp [payloadTypes]
  | json type => simp [payloadTypes]

lemma value?_eq (b : ClientBranch) : b.value? = none ∨ ∃ v, b.value? = some (.reads v) := by
  unfold ClientBranch.value?
  cases b.payload with
  | empty => exact Or.inl rfl
  | text | json _ => exact Or.inr ⟨_, rfl⟩

/-- What is returned is named by an enum of the file at most. -/
lemma spelledFrom_returnLine {b : ClientBranch} {t : Spelling} {types : List ResolvedType}
    (ht : t ∈ b.returnLine.spellings) : SpelledFrom naming types t := by
  have houtcome : (b.outcome.line b.value?).spellings = [] ∨
      ∃ enumName, (b.outcome.line b.value?).spellings = [.named "" enumName] := by
    unfold Outcome.line
    cases houtcome : b.outcome with
    | bare =>
      rcases value?_eq b with hvalue | ⟨v, hvalue⟩
      · exact Or.inl (by simp [hvalue])
      · exact Or.inl (by simp [hvalue])
    | variant enumName name =>
      rcases value?_eq b with hvalue | ⟨v, hvalue⟩
      · exact Or.inr ⟨enumName, by simp [hvalue]⟩
      · exact Or.inr ⟨enumName, by simp [hvalue]⟩
    | failure name =>
      rcases value?_eq b with hvalue | ⟨v, hvalue⟩
      · exact Or.inl (by simp [hvalue])
      · exact Or.inl (by simp [hvalue])
  have hline : b.returnLine.spellings = (b.outcome.line b.value?).spellings := by
    unfold ClientBranch.returnLine
    simp
  rw [hline] at ht
  rcases houtcome with hnone | ⟨enumName, hsome⟩
  · rw [hnone] at ht
    cases ht
  · rw [hsome, List.mem_singleton] at ht
    rw [ht]
    exact .declared enumName

lemma dispatch_spellings (branches : List ClientBranch) :
    (ClientBranch.dispatch naming branches).spellings =
      branches.flatMap fun b => (b.readLine naming).spellings ++ b.returnLine.spellings := by
  unfold ClientBranch.dispatch
  simp [List.flatMap_map, branchCode_spellings]

/-- The types of a method: what it takes and returns, and what its branches read. -/
lemma method_spellings (urlPrefix api : String) :
    (ClientMethod.ofSignature naming urlPrefix api sig errors).code.spellings =
      (sig.clientFormals naming .inApi).map (·.type) ++ sig.returnSpelling naming .inApi ::
        (ClientBranch.dispatch naming (ClientBranch.ofSignature sig errors)).spellings := by
  have hcomment : (ClientMethod.ofSignature naming urlPrefix api sig errors).comment.spellings =
      [] := by
    unfold ClientMethod.ofSignature
    dsimp only
    split <;> simp
  have hbody : (ClientMethod.ofSignature naming urlPrefix api sig errors).body.spellings =
      (ClientBranch.dispatch naming (ClientBranch.ofSignature sig errors)).spellings := by
    unfold ClientMethod.ofSignature
    simp [urlLine_spellings, queryCode_spellings, headerCode_spellings, bodyCode_spellings]
  change ((ClientMethod.ofSignature naming urlPrefix api sig errors).comment ++
    .braces _ (ClientMethod.ofSignature naming urlPrefix api sig errors).body).spellings = _
  rw [spellings_append, hcomment, spellings_braces, hbody]
  simp only [line_spellings_append, spellings_receiverLine, line_spellings_text,
    line_spellings_declares, line_spellings_spelled, line_spellings_nil, List.nil_append,
    List.append_assoc, List.cons_append]
  rfl

end Methods

/-! ### Types of error responses -/

section Errors

variable {errors : HttpErrors} {naming : Naming} {variants : List ErrorVariant} {version : String}
  {x : ErrorVariant} {r : ErrorResponse} {u : UsePath}

/-- Each error has the type of one of the responses. -/
lemma exists_response_of_mem (h : ErrorVariant.ofErrors naming errors = .ok variants)
    (hx : x ∈ variants) :
    ∃ r ∈ errors.allResponses, ∃ here, (Scope.ofErrors errors).resolve here r.type = .ok x.type := by
  obtain ⟨r, hr, hentry⟩ := entry_of_mem (entries_of_ofErrors h) hx
  exact ⟨r, hr, hentry.type⟩

lemma exists_variant_of_mem (h : ErrorVariant.ofErrors naming errors = .ok variants)
    (hr : r ∈ errors.responses) :
    ∃ x ∈ variants, ∃ here, (Scope.ofErrors errors).resolve here r.type = .ok x.type := by
  have hall : r ∈ errors.allResponses := List.mem_append_right _ hr
  obtain ⟨x, hx, hentry⟩ := exists_of_mem_forall₂ (entries_of_ofErrors h).flip hall
  exact ⟨x, hx, hentry.type⟩

/-- A primitive or a map of a type that needs an import, where the API has neither. -/
def MissedBy (a : Api) (t : TypeExpr) (u : UsePath) : Prop :=
  (∃ p, Primitive.ofName? t.leaf = some p ∧ primitiveUse? p = some u ∧ a.usesPrimitive p = false) ∨
    (hasMap t = true ∧ u = mapUse ∧ a.usesMap = false)

/-- The standard errors are models and nothing else. -/
lemma not_missedBy_standard {a : Api} (hr : r ∈ HttpErrors.standardResponses) :
    ¬MissedBy a r.type u := by
  have hplain : ∀ r ∈ HttpErrors.standardResponses,
      Primitive.ofName? r.type.leaf = none ∧ hasMap r.type = false := by decide
  obtain ⟨hname, hmap⟩ := hplain r hr
  rintro (⟨p, hp, -⟩ | ⟨htrue, -⟩)
  · exact absurd (hp.symm.trans hname) (by simp)
  · exact absurd (htrue.symm.trans hmap) (by decide)

lemma needs_of_missedBy {a : Api} {s : Scope} {here : Location} {type : ResolvedType}
    {paths : TypePaths} (h : s.resolve here r.type = .ok type) (hu : MissedBy a r.type u) :
    u ∈ needs version (type.spell naming paths) := by
  rw [mem_needs_iff h]
  rcases hu with ⟨p, hp, hpu, -⟩ | ⟨hmap, rfl, -⟩
  · exact Or.inl ⟨p, hp, hpu⟩
  · exact Or.inr (Or.inr ⟨hmap, rfl⟩)

end Errors

/-! ### The imports of a client -/

/-- What a client may import besides what its API needs. -/
def clientModules : List UsePath :=
  [standardUse, errorsUse, .internal ["errors"] (.name "ClientError"),
    .internal ["response"] .module, .internal ["params"] (.name "ParamsWriter")]

section Clients

variable {e : Emission} {v : Version} {a : Api} {errors : List ErrorVariant} {u : UsePath}
  {root : String}

lemma mem_clientUses_iff : u ∈ e.clientUses v a errors ↔
    (u = standardUse ∨ u = .internal ["errors"] (.name "ClientError") ∨
      u = .internal ["response"] .module) ∨
      (Emission.hasErrorModel errors = true ∧ u = errorsUse) ∨
      (Emission.writesPairs a = true ∧ u = .internal ["params"] (.name "ParamsWriter")) ∨
      u ∈ e.apiUses v a := by
  unfold Emission.clientUses
  simp only [List.mem_append, List.mem_cons, List.not_mem_nil, or_false, mem_useIf_iff, or_assoc]
  rfl

lemma mem_clientModules (h : u ∈ e.clientUses v a errors) :
    u ∈ clientModules ∨ u ∈ e.apiUses v a := by
  rcases mem_clientUses_iff.1 h with (rfl | rfl | rfl) | ⟨-, rfl⟩ | ⟨-, rfl⟩ | h
  · exact Or.inl (by decide)
  · exact Or.inl (by decide)
  · exact Or.inl (by decide)
  · exact Or.inl (by decide)
  · exact Or.inl (by decide)
  · exact Or.inr h

lemma told_of_mem_clientUses (h : u ∈ e.clientUses v a errors) :
    Told root (e.versionModule v) u := by
  rcases mem_clientUses_iff.1 h with (rfl | rfl | rfl) | ⟨-, rfl⟩ | ⟨-, rfl⟩ | h
  · exact told_of_useOfLast? useOfLast?_standardUse
  · exact told_of_last (lastSegment_name (by decide)) rfl
  · exact told_of_last (lastSegment_module (by decide)) rfl
  · exact told_of_useOfLast? useOfLast?_errorsUse
  · exact told_of_last (lastSegment_name (by decide)) rfl
  · exact told_of_mem_pathUses h

/-- A client imports a primitive or a map only for its API. -/
lemma not_mem_clientUses {t : TypeExpr} (h : MissedBy a t u) : u ∉ e.clientUses v a errors := by
  intro hu
  rcases h with ⟨p, -, hp, hunused⟩ | ⟨-, rfl, hunused⟩
  · have hother : u ∉ clientModules := by
      cases p <;> cases hp <;> decide
    have hused : a.usesPrimitive p = true :=
      (mem_pathUses_primitive hp).1 ((mem_clientModules hu).resolve_left hother)
    exact absurd (hused.symm.trans hunused) (by decide)
  · have hused : a.usesMap = true :=
      mem_pathUses_map.1 ((mem_clientModules hu).resolve_left (by decide))
    exact absurd (hused.symm.trans hunused) (by decide)

/-- What the type of an error needs is imported, unless it is a primitive or a map that the API does
not have. -/
lemma imported_of_error (h : e.errorVariants = .ok errors) {x : ErrorVariant} (hx : x ∈ errors)
    (hu : u ∈ needs (e.versionModule v) (x.type.spell e.naming .inApi)) :
    u ∈ e.clientUses v a errors ∨ ∃ r ∈ e.spec.httpErrors.responses, MissedBy a r.type u := by
  obtain ⟨r, hr, here, hresolve⟩ := exists_response_of_mem h hx
  have hmissed : MissedBy a r.type u →
      ∃ r ∈ e.spec.httpErrors.responses, MissedBy a r.type u := by
    intro hmissed
    rcases List.mem_append.1 hr with hr | hr
    · exact absurd hmissed (not_missedBy_standard hr)
    · exact ⟨r, hr, hmissed⟩
  have hapi : u ∈ e.apiUses v a → u ∈ e.clientUses v a errors := fun h =>
    mem_clientUses_iff.2 (Or.inr (Or.inr (Or.inr h)))
  rcases (mem_needs_iff hresolve).1 hu with ⟨p, hp, hpu⟩ | ⟨origin, m, hp, hm, hq⟩ | ⟨hmap, rfl⟩
  · cases hused : a.usesPrimitive p with
    | true => exact Or.inl (hapi ((mem_pathUses_primitive hpu).2 hused))
    | false => exact Or.inr (hmissed (Or.inl ⟨p, hp, hpu, hused⟩))
  · left
    have hleaf : x.type.leaf = .model r.type.leaf origin (m.any Model.isEnum) := by
      have hname : (Scope.ofErrors e.spec.httpErrors).resolveName r.type.leaf here =
          .ok (.model r.type.leaf origin (m.any Model.isEnum)) :=
        resolveName_eq_ok_iff.2 (Or.inr ⟨hp, origin, m, hm, rfl⟩)
      exact Except.ok.inj ((resolveName_leaf hresolve).symm.trans hname)
    have hfound := lookup_eq_some hm
    rw [mem_clientUses_iff]
    cases origin with
    | version => cases hfound
    | error =>
      cases hq
      refine Or.inr (Or.inl ⟨List.any_eq_true.2 ⟨x, hx, ?_⟩, rfl⟩)
      rw [hleaf]
    | standard =>
      cases hq
      exact Or.inl (Or.inl rfl)
  · cases hused : a.usesMap with
    | true => exact Or.inl (hapi (mem_pathUses_map.2 hused))
    | false => exact Or.inr (hmissed (Or.inr ⟨hmap, rfl, hused⟩))

/-- A method spells the types of its operation and those of all errors. -/
lemma spelledFrom_method {naming : Naming} {sig : Signature} {urlPrefix api : String} {t : Spelling}
    (ht : t ∈ (ClientMethod.ofSignature naming urlPrefix api sig errors).code.spellings) :
    SpelledFrom naming (signatureTypes sig ++ errors.map (·.type)) t := by
  have hsig : signatureTypes sig ⊆ signatureTypes sig ++ errors.map (·.type) :=
    List.subset_append_left _ _
  rw [method_spellings, List.mem_append, List.mem_cons, dispatch_spellings] at ht
  rcases ht with ht | rfl | ht
  · obtain ⟨f, hf, rfl⟩ := List.mem_map.1 ht
    exact (spelledFrom_clientFormals hf).mono hsig
  · exact spelledFrom_returns.mono hsig
  · obtain ⟨b, hb, ht⟩ := List.mem_flatMap.1 ht
    rcases List.mem_append.1 ht with ht | ht
    · obtain ⟨type, htype, rfl⟩ := mem_readLine_spellings.1 ht
      refine .resolved ?_
      rcases List.mem_append.1 hb with hb | hb
      · obtain ⟨w, hw, rfl⟩ := List.mem_map.1 hb
        exact hsig (payloadTypes_subset hw htype)
      · obtain ⟨x, hx, rfl⟩ := List.mem_map.1 hb
        cases List.mem_singleton.1 htype
        exact List.mem_append_right _ (List.mem_map_of_mem hx)
    · exact spelledFrom_returnLine ht

lemma error_mem_method {naming : Naming} {sig : Signature} {urlPrefix api : String}
    {x : ErrorVariant} (hx : x ∈ errors) : x.type.spell naming .inApi ∈
      (ClientMethod.ofSignature naming urlPrefix api sig errors).code.spellings := by
  rw [method_spellings, dispatch_spellings]
  refine List.mem_append_right _ (List.mem_cons_of_mem _ (List.mem_flatMap.2 ?_))
  refine ⟨⟨x.code, .json x.type, .failure x.name⟩, ?_, List.mem_append_left _ ?_⟩
  · exact List.mem_append_right _ (List.mem_map.2 ⟨x, hx, rfl⟩)
  · exact mem_readLine_spellings.2 ⟨x.type, List.mem_singleton.2 rfl, rfl⟩

/-- The source text of the client of an API. -/
def clientSource (e : Emission) (v : Version) (a : Api) (sigs : List Signature)
    (errors : List ErrorVariant) : SourceFile :=
  .plain (e.clientUses v a errors)
    (Signature.typesCode e.naming sigs ++ Emission.clientStructCode a.name ++
      .braces [.text "impl Client"] (Emission.clientConstructorsCode ++
        .all ((e.clientMethods v a sigs errors).map fun m => .blank ++ m.code)))

lemma mem_clientSource_iff {sigs : List Signature} {t : Spelling} :
    t ∈ (clientSource e v a sigs errors).body.spellings ↔
      t ∈ (Signature.typesCode e.naming sigs).spellings ∨
        ∃ m ∈ e.clientMethods v a sigs errors, t ∈ m.code.spellings := by
  have hstruct : (Emission.clientStructCode a.name).spellings = [] := by
    simp [Emission.clientStructCode]
  have hconstructors : Emission.clientConstructorsCode.spellings = [] := by
    simp [Emission.clientConstructorsCode]
  simp [clientSource, SourceFile.plain, hstruct, hconstructors, List.flatMap_map]

end Clients

/-! ### Clients of validated descriptions -/

/-- What a client imports of what it spells. A primitive or a map that only a response of the error
taxonomy has is spelled in every method, and not imported. -/
structure ClientImports (e : Emission) (v : Version) (a : Api) (f : SourceFile) : Prop where
  imported : ∀ t ∈ f.body.spellings, ∀ u ∈ needs (e.versionModule v) t,
    Imported e.config.modulePath f.uses u ∨
      ∃ r ∈ e.spec.httpErrors.responses, MissedBy a r.type u
  missed : ∀ r ∈ e.spec.httpErrors.responses, ∀ u, MissedBy a r.type u →
    ¬Imported e.config.modulePath f.uses u ∧
      (a.operations ≠ [] → ∃ t ∈ f.body.spellings, u ∈ needs (e.versionModule v) t)

lemma clientImports_of_source {e : Emission} {v : Version} {a : Api} {sigs : List Signature}
    {errors : List ErrorVariant} (hsigs : e.signatures v a = .ok sigs)
    (herrors : e.errorVariants = .ok errors) :
    ClientImports e v a (clientSource e v a sigs errors) where
  imported := by
    intro t ht u hu
    have hspelled : ∃ sig ∈ sigs,
        SpelledFrom e.naming (signatureTypes sig ++ errors.map (·.type)) t := by
      rcases mem_clientSource_iff.1 ht with ht | ⟨m, hm, ht⟩
      · obtain ⟨sig, hsig, ht⟩ := spelledFrom_typesCode ht
        exact ⟨sig, hsig, ht.mono (List.subset_append_left _ _)⟩
      · obtain ⟨sig, hsig, rfl⟩ := List.mem_map.1 hm
        exact ⟨sig, hsig, spelledFrom_method ht⟩
    obtain ⟨sig, hsig, hspelled⟩ := hspelled
    obtain ⟨type, htype, hu⟩ := needs_spelledFrom hspelled hu
    rcases List.mem_append.1 htype with htype | htype
    · left
      have hapi : u ∈ e.apiUses v a := mem_apiUses_of_signature hsigs hsig htype hu
      exact imported_of_mem (mem_clientUses_iff.2 (Or.inr (Or.inr (Or.inr hapi))))
    · obtain ⟨x, hx, rfl⟩ := List.mem_map.1 htype
      exact (imported_of_error herrors hx hu).imp_left imported_of_mem
  missed := by
    intro r hr u hu
    obtain ⟨x, hx, here, hresolve⟩ := exists_variant_of_mem herrors hr
    have hneeds : u ∈ needs (e.versionModule v) (x.type.spell e.naming .inApi) :=
      needs_of_missedBy hresolve hu
    refine ⟨fun himported => ?_, fun hoperations => ?_⟩
    · have hmem := (imported_iff_mem hneeds fun w => told_of_mem_clientUses).1 himported
      exact not_mem_clientUses hu hmem
    · obtain ⟨o, ho⟩ := List.exists_mem_of_ne_nil _ hoperations
      obtain ⟨sig, hsig, -⟩ := exists_mem_of_mapM hsigs ho
      refine ⟨_, mem_clientSource_iff.2 (Or.inr ⟨_, List.mem_map_of_mem hsig, ?_⟩), hneeds⟩
      exact error_mem_method hx

lemma exists_clientImports {e : Emission} (h : SpecRules e.spec e.naming) {v : Version}
    (hv : v ∈ e.spec.versions) {a : Api} (ha : a ∈ v.apis) :
    ∃ f, e.clientFile v a =
        .ok ⟨⟨.generated, [e.versionModule v], e.apiModule a⟩, .source f⟩ ∧
      ClientImports e v a f := by
  obtain ⟨file, hfile⟩ := succeeds_clientFile h hv ha
  obtain ⟨sigs, hsigs, hrest⟩ := bind_eq_ok_iff.1 hfile
  obtain ⟨errors, herrors, hsource⟩ := bind_eq_ok_iff.1 hrest
  refine ⟨clientSource e v a sigs errors, ?_, clientImports_of_source hsigs herrors⟩
  rw [hfile, ← hsource]
  rfl

/-- The client of an API imports what the types that it spells need, except for primitives and maps
that only the error taxonomy has. -/
theorem validated_client_imports (spec : Spec) (g : Generator) (run : RunKind)
    (h : spec.validate g.naming = .ok ()) {v : Version} (hv : v ∈ spec.versions) {a : Api}
    (ha : a ∈ v.apis) :
    let e : Emission := ⟨spec, g.config, g.naming, run⟩
    ∃ f, e.clientFile v a =
        .ok ⟨⟨.generated, [e.versionModule v], e.apiModule a⟩, .source f⟩ ∧
      ClientImports e v a f :=
  exists_clientImports (SpecRules.of_validate h) hv ha

/-- The client of the shop imports all that it spells: the error response of the shop is a model. -/
theorem validated_client_imports_shop :
    shop.validate .standard = .ok () ∧ shopVersion ∈ shop.versions ∧
      ⟨"orders", [putOrder]⟩ ∈ shopVersion.apis ∧
      ∃ f, (Emission.mk shop .standard .standard .client).clientFile shopVersion
          ⟨"orders", [putOrder]⟩ = .ok ⟨⟨.generated, ["v1"], "orders"⟩, .source f⟩ ∧
        ∀ t ∈ f.body.spellings, ∀ u ∈ needs "v1" t, Imported "crate::spec" f.uses u := by
  have hvalid : shop.validate .standard = .ok () := by decide +kernel
  have hversion : shopVersion ∈ shop.versions := List.mem_cons_self
  have hapi : ⟨"orders", [putOrder]⟩ ∈ shopVersion.apis := List.mem_cons_self
  obtain ⟨f, hf, himports⟩ :=
    validated_client_imports shop ⟨.standard, .standard, fun _ => true⟩ .client hvalid hversion hapi
  refine ⟨hvalid, hversion, hapi, f, hf, fun t ht u hu => ?_⟩
  refine (himports.imported t ht u hu).resolve_right ?_
  rintro ⟨r, hr, hmissed⟩
  cases List.mem_singleton.1 hr
  have hname : Primitive.ofName? "ForbiddenError" = none := by decide +kernel
  rcases hmissed with ⟨p, hp, -⟩ | ⟨hmap, -⟩
  · exact absurd (hp.symm.trans hname) (by simp)
  · exact absurd hmap (by decide)

/-- A read without parameters. -/
def readApi : Api :=
  ⟨"a", [⟨"get", ⟨.get, "/x", []⟩, [], [], .empty, [⟨"ok", .empty, none⟩], none⟩]⟩

/-- A description with an error response that is a primitive. -/
def uuidConflict : Spec :=
  ⟨"s", [⟨"v1", none, [readApi], []⟩], ⟨[⟨"conflict", .named "uuid", none⟩], []⟩⟩

/-- The description is accepted, and its client spells a type that it does not import. -/
theorem uuidConflict_not_imported :
    uuidConflict.validate .standard = .ok () ∧
      ∃ f, (Emission.mk uuidConflict .standard .standard .client).clientFile
          ⟨"v1", none, [readApi], []⟩ readApi = .ok ⟨⟨.generated, ["v1"], "a"⟩, .source f⟩ ∧
        ∃ t ∈ f.body.spellings, .external "uuid::Uuid" ∈ needs "v1" t ∧
          ¬Imported "crate::spec" f.uses (.external "uuid::Uuid") := by
  have hvalid : uuidConflict.validate .standard = .ok () := by decide +kernel
  have hrules : SpecRules (Emission.mk uuidConflict .standard .standard .client).spec .standard :=
    .of_validate hvalid
  obtain ⟨f, hf, himports⟩ := exists_clientImports (a := readApi) hrules List.mem_cons_self
    List.mem_cons_self
  have hmissed : MissedBy readApi (.named "uuid") (.external "uuid::Uuid") :=
    Or.inl ⟨.uuid, by decide +kernel, rfl, by decide +kernel⟩
  obtain ⟨habsent, hspelled⟩ := himports.missed _ List.mem_cons_self _ hmissed
  obtain ⟨t, ht, hu⟩ := hspelled (List.cons_ne_nil _ _)
  exact ⟨hvalid, f, hf, t, ht, hu, habsent⟩

end ApiCodegen.Proofs
