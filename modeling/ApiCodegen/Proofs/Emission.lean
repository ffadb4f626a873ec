import ApiCodegen.Proofs.Rendering
import ApiCodegen.Proofs.Validation
import ApiCodegen.Tree.Generator

/-!
# Emission after validation

Emission resolves the types of a description again, at other places and in other pieces than
validation did. What resolves does so at every place, hence the rules of a part are enough for all
that is emitted for it: signatures, declarations of models, and the error taxonomy.
-/

namespace ApiCodegen.Proofs

/-! ### Signatures -/

section Signatures

variable {s : Scope} {naming : Naming} {o : Operation} {here : Location}

lemma HasTextValues.known {name : String} (h : HasTextValues s name) : Known s name := by
  rcases h with ⟨p, hp, -⟩ | ⟨-, origin, m, hlookup, -⟩
  · exact Or.inl ⟨p, hp⟩
  · exact Or.inr (exists_lookup_iff.1 ⟨_, hlookup⟩)

/-- The type of a parameter has a shape and resolves as a whole, not only its innermost name. -/
lemma ParamRule.shape_and_resolves {p : Param} (h : ParamRule s p) :
    (∃ shape, ParamShape.ofType? p.type = some shape) ∧ Resolves s p.type := by
  obtain ⟨name, htext, htype⟩ := h
  unfold Resolves
  rcases htype with htype | htype | ⟨htype, -⟩
  · rw [htype]
    exact ⟨⟨.required, rfl⟩, htext.known⟩
  · rw [htype]
    exact ⟨⟨.optional, rfl⟩, htext.known⟩
  · rw [htype]
    exact ⟨⟨.array, rfl⟩, htext.known⟩

lemma succeeds_ofParam {p : Param} {location : ParamLocation} (h : ParamRule s p) :
    Succeeds (ParamCodec.ofParam s naming here location p) := by
  obtain ⟨⟨shape, hshape⟩, hres⟩ := h.shape_and_resolves
  simp only [ParamCodec.ofParam, hshape]
  apply (succeeds_resolve_iff.2 hres).bind
  intro type _
  exact Succeeds.pure _

lemma succeeds_ofParams {ps : List Param} {location : ParamLocation}
    (h : ∀ p ∈ ps, ParamRule s p) :
    Succeeds (ps.mapM (ParamCodec.ofParam s naming here location)) :=
  Succeeds.mapM fun p hp => succeeds_ofParam (h p hp)

lemma OperationRules.paramRule_of_function (h : OperationRules s naming o) {p : Param}
    (hp : p ∈ functionParams o) : ParamRule s p :=
  h.types p (List.mem_append_right _ hp)

lemma OperationRules.paramRule_of_field (h : OperationRules s naming o) {p : Param}
    (hp : p ∈ formFields o) : ParamRule s p :=
  h.types p (List.mem_append_left _ hp)

lemma succeeds_bodyOf (h : OperationRules s naming o) :
    Succeeds (Signature.bodyOf s naming here o) := by
  have hfields : ∀ params, o.body.formParams? = some params → ∀ p ∈ params, ParamRule s p := by
    intro params hparams p hp
    refine h.paramRule_of_field ?_
    rw [formFields, hparams]
    exact hp
  unfold Signature.bodyOf
  cases hbody : o.body with
  | empty => exact Succeeds.ok _
  | rawString description => exact Succeeds.ok _
  | json type description =>
    exact succeeds_map_iff.2 (succeeds_resolve_iff.2 (h.body type description hbody))
  | formData params =>
    exact succeeds_map_iff.2 (succeeds_ofParams (hfields params (by rw [hbody]; rfl)))
  | formUrlEncoded params =>
    exact succeeds_map_iff.2 (succeeds_ofParams (hfields params (by rw [hbody]; rfl)))

lemma succeeds_variantOf {r : Response} (hstatus : KnownStatus r.status)
    (hpayload : ∀ type, r.body = .json type → Resolves s type) :
    Succeeds (Signature.variantOf s naming here r) := by
  obtain ⟨code, hcode⟩ := knownStatus_iff.1 hstatus
  unfold Signature.variantOf
  apply (succeeds_payloadOf_iff.2 hpayload).bind
  intro payload _
  rw [hcode]
  exact Succeeds.pure _

/-- An operation that keeps the rules has a signature, wherever its faults would be reported. -/
theorem succeeds_ofOperation (h : OperationRules s naming o) :
    Succeeds (Signature.ofOperation s naming here o) := by
  have hfunction : ∀ p ∈ functionParams o, ParamRule s p := fun p => h.paramRule_of_function
  simp only [functionParams, List.forall_mem_append] at hfunction
  obtain ⟨⟨hquery, hheader⟩, hurl⟩ := hfunction
  have hvariants : Succeeds (o.responses.mapM (Signature.variantOf s naming here)) :=
    Succeeds.mapM fun r hr => succeeds_variantOf (h.statuses r hr) (h.payloads r hr)
  unfold Signature.ofOperation
  apply (succeeds_bodyOf h).bind
  intro body _
  apply hvariants.bind
  intro variants _
  apply (succeeds_ofParams hquery).bind
  intro query _
  apply (succeeds_ofParams hheader).bind
  intro header _
  apply (succeeds_ofParams hurl).bind
  intro url _
  exact Succeeds.pure _

end Signatures

/-! ### Models and errors -/

lemma succeeds_fieldSpelling {s : ModelScope} {model : String} {here : Location} {f : Field}
    (h : Resolves s.scope f.type) : Succeeds (s.fieldSpelling model here f) := by
  unfold ModelScope.fieldSpelling
  apply (succeeds_resolve_iff.2 h).bind
  intro type _
  exact Succeeds.pure _

lemma succeeds_modelCode {s : ModelScope} {here : Location} {m : Model}
    (h : ModelRules s.scope m) : Succeeds (s.modelCode here m) := by
  unfold ModelScope.modelCode
  unfold ModelRules at h
  cases hkind : m.kind with
  | object fields =>
    rw [hkind] at h
    have hfields : Succeeds (fields.mapM (s.fieldCode m.name (here.child m.name))) := by
      apply Succeeds.mapM
      intro f hf
      apply (succeeds_fieldSpelling (h f hf)).bind
      intro type _
      exact Succeeds.pure _
    apply hfields.bind
    intro body _
    exact Succeeds.pure _
  | oneOf items discriminator =>
    rw [hkind] at h
    have hitems : Succeeds (items.mapM (s.itemCode m.name (here.child m.name))) := by
      apply Succeeds.mapM
      intro f hf
      apply (succeeds_fieldSpelling (h.2.1 f hf)).bind
      intro type _
      exact Succeeds.pure _
    apply hitems.bind
    intro body _
    exact Succeeds.pure _
  | enum values => exact Succeeds.ok _

lemma succeeds_modelsCode {s : Scope} {naming : Naming} {paths : TypePaths} {here : Location}
    {models : List Model} (h : ModelsRules s models) :
    Succeeds (modelsCode s naming paths here models) := by
  unfold modelsCode
  have hcodes : Succeeds (models.mapM
      (ModelScope.modelCode ⟨s, .ofModels models, naming, paths⟩ here)) :=
    Succeeds.mapM fun m hm => succeeds_modelCode (h.each m hm)
  apply hcodes.bind
  intro codes _
  exact Succeeds.pure _

lemma succeeds_ofResponse {s : Scope} {naming : Naming} {standard : Bool} {r : ErrorResponse}
    (hstatus : KnownStatus r.status) (htype : Resolves s r.type) :
    Succeeds (ErrorVariant.ofResponse s naming standard r) := by
  obtain ⟨code, hcode⟩ := knownStatus_iff.1 hstatus
  simp only [ErrorVariant.ofResponse, hcode]
  apply (succeeds_resolve_iff.2 htype).bind
  intro type _
  exact Succeeds.pure _

/-- The standard errors are known in every scope. -/
lemma standardResponses_known (s : Scope) {r : ErrorResponse}
    (hr : r ∈ HttpErrors.standardResponses) : KnownStatus r.status ∧ Resolves s r.type := by
  simp only [HttpErrors.standardResponses, standardErrors, List.map_cons, List.map_nil,
    List.mem_cons, List.not_mem_nil, or_false] at hr
  rcases hr with rfl | rfl | rfl
  · exact ⟨by decide, Or.inr (Or.inr (Or.inr (by decide)))⟩
  · exact ⟨by decide, Or.inr (Or.inr (Or.inr (by decide)))⟩
  · exact ⟨by decide, Or.inr (Or.inr (Or.inr (by decide)))⟩

theorem succeeds_ofErrors {naming : Naming} {e : HttpErrors} (h : ErrorRules e) :
    Succeeds (ErrorVariant.ofErrors naming e) := by
  unfold ErrorVariant.ofErrors
  have hstandard : Succeeds (HttpErrors.standardResponses.mapM
      (ErrorVariant.ofResponse (.ofErrors e) naming true)) := by
    apply Succeeds.mapM
    intro r hr
    obtain ⟨hstatus, htype⟩ := standardResponses_known (.ofErrors e) hr
    exact succeeds_ofResponse hstatus htype
  have hown : Succeeds (e.responses.mapM (ErrorVariant.ofResponse (.ofErrors e) naming false)) :=
    Succeeds.mapM fun r hr => succeeds_ofResponse (h.statuses r hr) (h.types r hr)
  apply hstandard.bind
  intro standard _
  apply hown.bind
  intro own _
  exact Succeeds.pure _

/-! ### Files of a run -/

section Runs

variable {e : Emission} (h : SpecRules e.spec e.naming)

include h

lemma succeeds_signatures {v : Version} {a : Api} (hv : v ∈ e.spec.versions) (ha : a ∈ v.apis) :
    Succeeds (e.signatures v a) :=
  Succeeds.mapM fun o ho => succeeds_ofOperation (h.operations v hv a ha o ho)

lemma succeeds_errorFile : Succeeds e.errorFile := by
  unfold Emission.errorFile
  apply (succeeds_ofErrors h.errors).bind
  intro variants _
  apply (succeeds_modelsCode h.errors.models).bind
  intro models _
  exact Succeeds.pure _

lemma succeeds_modelFiles {v : Version} (hv : v ∈ e.spec.versions) :
    Succeeds (e.modelFiles v) := by
  unfold Emission.modelFiles
  split
  · exact Succeeds.pure _
  · apply (succeeds_modelsCode (h.models v hv)).bind
    intro body _
    exact Succeeds.pure _

lemma succeeds_clientFile {v : Version} {a : Api} (hv : v ∈ e.spec.versions) (ha : a ∈ v.apis) :
    Succeeds (e.clientFile v a) := by
  unfold Emission.clientFile
  apply (succeeds_signatures h hv ha).bind
  intro sigs _
  apply (succeeds_ofErrors h.errors).bind
  intro errors _
  exact Succeeds.pure _

lemma succeeds_serviceFiles {v : Version} {a : Api} (hv : v ∈ e.spec.versions)
    (ha : a ∈ v.apis) : Succeeds (e.serviceFiles v a) := by
  unfold Emission.serviceFiles
  apply (succeeds_signatures h hv ha).bind
  intro sigs _
  exact Succeeds.pure _

lemma succeeds_skeletonFile {v : Version} {a : Api} (hv : v ∈ e.spec.versions)
    (ha : a ∈ v.apis) : Succeeds (e.skeletonFile v a) := by
  unfold Emission.skeletonFile
  apply (succeeds_signatures h hv ha).bind
  intro sigs _
  exact Succeeds.pure _

lemma succeeds_skeletonFiles : Succeeds e.skeletonFiles := by
  unfold Emission.skeletonFiles
  refine Succeeds.bind (Succeeds.mapM fun v hv => ?_) fun files _ => Succeeds.pure _
  unfold Emission.versionSkeletons
  have hfiles : Succeeds (v.apis.mapM (e.skeletonFile v)) :=
    Succeeds.mapM fun a ha => succeeds_skeletonFile h hv ha
  apply hfiles.bind
  intro files _
  exact Succeeds.pure _

lemma succeeds_versionFiles {v : Version} (hv : v ∈ e.spec.versions) :
    Succeeds (e.versionFiles v) := by
  have hapis : Succeeds (e.apiFiles v) := by
    unfold Emission.apiFiles
    cases e.run with
    | models => exact Succeeds.ok _
    | client => exact Succeeds.mapM fun a ha => succeeds_clientFile h hv ha
    | service =>
      exact succeeds_map_iff.2 (Succeeds.mapM fun a ha => succeeds_serviceFiles h hv ha)
  unfold Emission.versionFiles
  apply (succeeds_modelFiles h hv).bind
  intro models _
  apply hapis.bind
  intro apis _
  exact Succeeds.pure _

lemma succeeds_files : Succeeds e.files := by
  unfold Emission.files
  have hversions : Succeeds (e.versions.mapM e.versionFiles) :=
    Succeeds.mapM fun v hv => succeeds_versionFiles h (List.mem_of_mem_filter hv)
  apply (succeeds_errorFile h).bind
  intro errors _
  apply hversions.bind
  intro versions _
  by_cases hrun : e.run = .service
  · simp only [hrun, ite_true]
    apply (succeeds_skeletonFiles h).bind
    intro skeletons _
    exact Succeeds.pure _
  · simp only [hrun, ite_false]
    exact Succeeds.pure _

end Runs

/-- Every emitter of a run gives its files, and the files of the run can be written. -/
structure EmitsAll (e : Emission) : Prop where
  errorFile : Succeeds e.errorFile
  modelFiles : ∀ v ∈ e.spec.versions, Succeeds (e.modelFiles v)
  signature : ∀ v ∈ e.spec.versions, ∀ a ∈ v.apis, ∀ o ∈ a.operations, ∀ here,
    Succeeds (Signature.ofOperation (.ofVersion v e.spec.httpErrors) e.naming here o)
  clientFile : ∀ v ∈ e.spec.versions, ∀ a ∈ v.apis, Succeeds (e.clientFile v a)
  serviceFiles : ∀ v ∈ e.spec.versions, ∀ a ∈ v.apis, Succeeds (e.serviceFiles v a)
  skeletonFiles : Succeeds e.skeletonFiles
  artifacts : ∃ files artifacts, e.files = .ok files ∧ files.mapM e.artifact = .ok artifacts

lemma SpecRules.emitsAll {e : Emission} (h : SpecRules e.spec e.naming) : EmitsAll e where
  errorFile := succeeds_errorFile h
  modelFiles _ hv := succeeds_modelFiles h hv
  signature v hv a ha o ho _ := succeeds_ofOperation (h.operations v hv a ha o ho)
  clientFile _ hv _ ha := succeeds_clientFile h hv ha
  serviceFiles _ hv _ ha := succeeds_serviceFiles h hv ha
  skeletonFiles := succeeds_skeletonFiles h
  artifacts := by
    obtain ⟨files, hfiles⟩ := succeeds_files h
    obtain ⟨artifacts, hartifacts⟩ := Succeeds.mapM fun f (_ : f ∈ files) => succeeds_artifact e f
    exact ⟨files, artifacts, hfiles, hartifacts⟩

lemma EmitsAll.of_validate {spec : Spec} {naming : Naming} (h : spec.validate naming = .ok ())
    (config : Config) (run : RunKind) : EmitsAll ⟨spec, config, naming, run⟩ :=
  SpecRules.emitsAll (e := ⟨spec, config, naming, run⟩) (.of_validate h)

/-- What a run gives are its files as artifacts, and the parser takes those that are source text. -/
lemma files_of_generate {spec : Spec} {g : Generator} {run : RunKind} {set : ArtifactSet}
    (h : g.generate spec run = .ok set) :
    ∃ files, (Emission.mk spec g.config g.naming run).files = .ok files ∧
      files.mapM (Emission.mk spec g.config g.naming run).artifact = .ok set.files ∧
      ∀ a ∈ set.files, a.isSource = true → g.parses a.content = true := by
  obtain ⟨-, h⟩ := check_bind_eq_ok_iff.1 h
  obtain ⟨files, hfiles, h⟩ := bind_eq_ok_iff.1 h
  obtain ⟨artifacts, hartifacts, h⟩ := bind_eq_ok_iff.1 h
  split at h
  · cases h
  · rename_i hnone
    cases h
    refine ⟨files, hfiles, hartifacts, fun a ha hsource => ?_⟩
    simpa [hsource] using List.find?_eq_none.1 hnone a ha

lemma generate_eq_ok {spec : Spec} {g : Generator} {run : RunKind} {files : List TreeFile}
    {artifacts : List Artifact} (hvalid : spec.validate g.naming = .ok ())
    (hfiles : (Emission.mk spec g.config g.naming run).files = .ok files)
    (hartifacts : files.mapM (Emission.mk spec g.config g.naming run).artifact = .ok artifacts)
    (hparses : ∀ a ∈ artifacts, g.parses a.content = true) :
    g.generate spec run = .ok ⟨artifacts⟩ := by
  have hfind : (artifacts.find? fun a => a.isSource && !g.parses a.content) = none :=
    List.find?_eq_none.2 fun a ha => by simp [hparses a ha]
  simp only [Generator.generate, Emission.artifacts, hvalid, hfiles, hartifacts, hfind, bind,
    Except.bind]
  rfl

/-- A run on a valid description has its files, and gives nothing but these. -/
lemma exists_run {spec : Spec} (g : Generator) (run : RunKind)
    (h : spec.validate g.naming = .ok ()) :
    ∃ files artifacts, (Emission.mk spec g.config g.naming run).files = .ok files ∧
      files.mapM (Emission.mk spec g.config g.naming run).artifact = .ok artifacts ∧
      ∀ set, g.generate spec run = .ok set → set.files = artifacts := by
  obtain ⟨files, artifacts, hfiles, hartifacts⟩ :=
    (EmitsAll.of_validate h g.config run).artifacts
  refine ⟨files, artifacts, hfiles, hartifacts, fun set hset => ?_⟩
  obtain ⟨files', hfiles', hartifacts', -⟩ := files_of_generate hset
  rw [hfiles, Except.ok.injEq] at hfiles'
  rw [← hfiles', hartifacts, Except.ok.injEq] at hartifacts'
  exact hartifacts'.symm

/-- Validation is sufficient for emission: after it nothing fails but the check of the files that
have been written. -/
theorem validated_emitsAll (spec : Spec) (g : Generator) (run : RunKind)
    (h : spec.validate g.naming = .ok ()) :
    EmitsAll ⟨spec, g.config, g.naming, run⟩ ∧
      ∀ fault, g.generate spec run = .error fault → ∃ path, fault = .invalidOutput path := by
  have hall := EmitsAll.of_validate h g.config run
  refine ⟨hall, fun fault hfault => ?_⟩
  obtain ⟨files, artifacts, hfiles, hartifacts⟩ := hall.artifacts
  simp only [Generator.generate, Emission.artifacts, h, hfiles, hartifacts, bind,
    Except.bind] at hfault
  split at hfault
  · rename_i f _
    cases hfault
    exact ⟨_, rfl⟩
  · cases hfault

theorem validated_emitsAll_shop :
    shop.validate .standard = .ok () ∧
      ∃ files artifacts, (Emission.mk shop .standard .standard .service).files = .ok files ∧
        files.mapM (Emission.mk shop .standard .standard .service).artifact = .ok artifacts := by
  have h : shop.validate .standard = .ok () := by decide +kernel
  exact ⟨h, (validated_emitsAll shop ⟨.standard, .standard, fun _ => true⟩ .service h).1.artifacts⟩

end ApiCodegen.Proofs
