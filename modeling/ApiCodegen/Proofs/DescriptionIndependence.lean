import ApiCodegen.Proofs.BareSignatures
import ApiCodegen.Proofs.Comments
import ApiCodegen.Proofs.Emission

/-!
# Descriptions cannot change code

A description is written by a step of its own, which gives comment lines only. Each emitter writes
the same code for a bare part as for the part itself, comments apart, so that the output of a run on
a specification has the paths, the kinds and the lines of code of the run on the bare specification.
-/

namespace ApiCodegen

/-- The run on the bare specification. -/
def Emission.bare (e : Emission) : Emission := { e with spec := e.spec.bare }

def ModelScope.bare (s : ModelScope) : ModelScope := { s with scope := s.scope.bare }

end ApiCodegen

namespace ApiCodegen.Proofs

/-- Two pieces of code write the same steps, comments apart. -/
def SameCode (c d : Code) : Prop := codeSteps c = codeSteps d

section Pieces

variable {α : Type} {c c' d d' : Code} {f g : α → Code}

lemma SameCode.append (h : SameCode c c') (h' : SameCode d d') : SameCode (c ++ d) (c' ++ d') := by
  unfold SameCode at h h' ⊢
  rw [codeSteps_append, codeSteps_append, h, h']

lemma SameCode.braces (head : Line) (h : SameCode c c') :
    SameCode (.braces head c) (.braces head c') := by
  unfold SameCode at h ⊢
  rw [codeSteps_braces, codeSteps_braces, h]

lemma SameCode.all {codes codes' : List Code} (h : List.Forall₂ SameCode codes codes') :
    SameCode (.all codes) (.all codes') := by
  induction h with
  | nil => rfl
  | cons hcode _ ih => exact hcode.append ih

lemma SameCode.all_map (h : ∀ a, SameCode (f a) (g a)) (as : List α) :
    SameCode (.all (as.map f)) (.all (as.map g)) := by
  apply SameCode.all
  rw [List.forall₂_map_left_iff, List.forall₂_map_right_iff, List.forall₂_same]
  exact fun a _ => h a

lemma SameCode.spaced_map (h : ∀ a, SameCode (f a) (g a)) (as : List α) :
    SameCode (spaced (as.map f)) (spaced (as.map g)) := by
  induction as with
  | nil => rfl
  | cons a as ih =>
    cases as with
    | nil => exact h a
    | cons b bs => exact ((h a).append rfl).append ih

/-- A comment that describes, whatever it says. -/
lemma SameCode.doc (text text' : Option String) : SameCode (.doc text) (.doc text') := rfl

end Pieces

/-! ### Types and comments of operations -/

section Operations

variable (naming : Naming)

lemma formCode_bare (s : Signature) : SameCode (s.bare.formCode naming) (s.formCode naming) := by
  obtain ⟨operation, fnName, body, query, header, url, returns⟩ := s
  cases body with
  | none | text | json _ => rfl
  | form structName fields multipart =>
    unfold Signature.formCode Signature.bare BodyShape.bare
    dsimp only
    rw [List.map_map]
    apply SameCode.append _ rfl
    apply SameCode.append rfl
    apply SameCode.braces
    apply SameCode.all_map
    intro c
    exact (SameCode.doc _ _).append rfl

lemma responseCode_bare (s : Signature) :
    SameCode (s.bare.responseCode naming) (s.responseCode naming) := by
  have hvariant : ∀ v : ResponseVariant,
      SameCode (Signature.variantCode naming v.bare) (Signature.variantCode naming v) :=
    fun v => (SameCode.doc _ _).append rfl
  obtain ⟨operation, fnName, body, query, header, url, returns⟩ := s
  cases returns with
  | single _ => rfl
  | multiple enumName variants =>
    unfold Signature.responseCode Signature.bare Returns.bare
    dsimp only
    rw [List.map_map]
    apply SameCode.append _ rfl
    apply SameCode.append rfl
    apply SameCode.braces
    exact SameCode.all_map hvariant variants

lemma typesCode_bare (sigs : List Signature) :
    SameCode (Signature.typesCode naming (sigs.map Signature.bare))
      (Signature.typesCode naming sigs) := by
  unfold Signature.typesCode
  rw [List.map_map]
  apply SameCode.all_map
  intro s
  exact (formCode_bare naming s).append (responseCode_bare naming s)

lemma traitMethodCode_bare (s : Signature) :
    SameCode (s.bare.traitMethodCode naming) (s.traitMethodCode naming) := by
  unfold Signature.traitMethodCode
  rw [serviceFormals_bare, returnSpelling_bare]
  exact (SameCode.doc _ _).append rfl

lemma clientMethodCode_bare (urlPrefix api : String) (errors : List ErrorVariant) (s : Signature) :
    SameCode
      (ClientMethod.ofSignature naming urlPrefix api s.bare (errors.map ErrorVariant.bare)).code
      (ClientMethod.ofSignature naming urlPrefix api s errors).code := by
  have hseparator : SameCode .nothing
      (if s.operation.description.isSome then .texts ["///"] else .nothing) := by
    split
    · exact codeSteps_bar.symm
    · rfl
  rw [clientMethod_bare]
  unfold ClientMethod.code
  apply SameCode.append _ rfl
  unfold ClientMethod.ofSignature
  dsimp only
  apply SameCode.append _ rfl
  apply SameCode.append _ rfl
  exact (SameCode.doc _ _).append hseparator

end Operations

/-! ### Models and errors -/

section Models

variable (naming : Naming)

lemma fieldSpelling_bare (s : ModelScope) (model : String) (here : Location) (f : Field) :
    s.bare.fieldSpelling model here f.bare = s.fieldSpelling model here f := by
  have hscope : s.bare.scope = s.scope.bare := rfl
  unfold ModelScope.fieldSpelling
  rw [hscope, resolve_bare]
  rfl

lemma fieldCode_bare (s : ModelScope) (model : String) (here : Location) (f : Field) :
    Parallel SameCode (s.bare.fieldCode model here f.bare) (s.fieldCode model here f) := by
  unfold ModelScope.fieldCode
  rw [fieldSpelling_bare]
  cases s.fieldSpelling model here f with
  | error fault => exact .error fault
  | ok type => exact .ok (((SameCode.doc _ _).append rfl).append rfl)

lemma itemCode_bare (s : ModelScope) (model : String) (here : Location) (f : Field) :
    Parallel SameCode (s.bare.itemCode model here f.bare) (s.itemCode model here f) := by
  unfold ModelScope.itemCode
  rw [fieldSpelling_bare]
  cases s.fieldSpelling model here f with
  | error fault => exact .error fault
  | ok type => exact .ok (((SameCode.doc _ _).append rfl).append rfl)

lemma enumCode_bare (s : ModelScope) (m : Model) (values : List EnumValue) :
    SameCode (s.bare.enumCode m.bare (values.map EnumValue.bare)) (s.enumCode m values) := by
  have htexts : ∀ name,
      s.bare.enumTextCode name (values.map EnumValue.bare) = s.enumTextCode name values := by
    intro name
    unfold ModelScope.enumTextCode
    rw [List.map_map, List.map_map, List.map_map]
    rfl
  have hvalue : ∀ v : EnumValue, SameCode (s.bare.valueCode v.bare) (s.valueCode v) :=
    fun v => ((SameCode.doc _ _).append rfl).append rfl
  unfold ModelScope.enumCode
  dsimp only
  rw [htexts, List.map_map]
  apply SameCode.append _ rfl
  apply SameCode.append _ rfl
  apply SameCode.append ((SameCode.doc _ _).append rfl)
  apply SameCode.braces
  exact SameCode.all_map hvalue values

lemma forall₂_map_bare {α β : Type} (bare : α → β) (as : List α) :
    List.Forall₂ (fun b a => b = bare a) (as.map bare) as := by
  rw [List.forall₂_map_left_iff, List.forall₂_same]
  exact fun a _ => rfl

/-- The declaration of a bare model is that of the model, comments apart. -/
lemma modelCode_bare (s : ModelScope) (here : Location) (m : Model) :
    Parallel SameCode (s.bare.modelCode here m.bare) (s.modelCode here m) := by
  obtain ⟨name, kind, description⟩ := m
  cases kind with
  | object fields =>
    apply (Parallel.mapM (forall₂_map_bare Field.bare fields) ?_).bind
    · intro codes codes' hcodes
      exact .ok (((SameCode.doc _ _).append rfl).append (.braces _ (.all hcodes)))
    · rintro _ f rfl
      exact fieldCode_bare s name (here.child name) f
  | oneOf items discriminator =>
    apply (Parallel.mapM (forall₂_map_bare Field.bare items) ?_).bind
    · intro codes codes' hcodes
      exact .ok ((((SameCode.doc _ _).append rfl).append rfl).append (.braces _ (.all hcodes)))
    · rintro _ f rfl
      exact itemCode_bare s name (here.child name) f
  | enum values => exact .ok (enumCode_bare s _ values)

lemma modelsCode_bare (scope : Scope) (paths : TypePaths) (here : Location) (models : List Model) :
    Parallel SameCode (modelsCode scope.bare naming paths here (models.map Model.bare))
      (modelsCode scope naming paths here models) := by
  unfold modelsCode
  rw [ofModels_bare]
  apply (Parallel.mapM (forall₂_map_bare Model.bare models) ?_).bind
  · intro codes codes' hcodes
    apply Parallel.ok
    apply SameCode.all
    rw [List.forall₂_map_left_iff, List.forall₂_map_right_iff]
    exact hcodes.imp fun _ _ hcode => SameCode.append hcode rfl
  · rintro _ m rfl
    exact modelCode_bare ⟨scope, .ofModels models, naming, paths⟩ here m

lemma clientErrorCode_bare (variants : List ErrorVariant) :
    SameCode (clientErrorCode naming (variants.map ErrorVariant.bare))
      (clientErrorCode naming variants) := by
  unfold clientErrorCode
  rw [List.map_map]
  apply SameCode.append rfl
  apply SameCode.braces
  apply SameCode.append _ rfl
  apply SameCode.all_map
  intro v
  exact (SameCode.doc _ _).append rfl

lemma serviceErrorCode_bare (variants : List ErrorVariant) :
    SameCode (serviceErrorCode naming (variants.map ErrorVariant.bare))
      (serviceErrorCode naming variants) := by
  have hvariant : ∀ v : ErrorVariant,
      SameCode (serviceVariantCode naming v.bare) (serviceVariantCode naming v) :=
    fun v => (SameCode.doc _ _).append rfl
  have harms : (variants.map ErrorVariant.bare).map respondArm = variants.map respondArm := by
    rw [List.map_map]
    rfl
  unfold serviceErrorCode
  rw [harms, List.map_map]
  iterate 7 apply SameCode.append _ rfl
  apply SameCode.append rfl
  apply SameCode.braces
  exact SameCode.all_map hvariant variants

end Models

/-! ### Files -/

/-- Two files that differ in comments only. -/
inductive SameFile : TreeFile → TreeFile → Prop
  | same (f : TreeFile) : SameFile f f
  | source (path : TreePath) (submodules : List String) (opensParent : Bool) (uses : List UsePath)
      {body body' : Code} (h : SameCode body body') :
      SameFile ⟨path, .source ⟨submodules, opensParent, uses, body⟩⟩
        ⟨path, .source ⟨submodules, opensParent, uses, body'⟩⟩

section Files

variable (e : Emission) (v : Version) (a : Api)

lemma signatures_bare :
    e.bare.signatures v.bare a.bare = (e.signatures v a).map (List.map Signature.bare) := by
  have hscope : Scope.ofVersion v.bare e.bare.spec.httpErrors =
      (Scope.ofVersion v e.spec.httpErrors).bare := rfl
  unfold Emission.signatures
  rw [hscope]
  apply mapM_map_eq
  intro o
  exact ofOperation_bare o

lemma errorVariants_bare :
    e.bare.errorVariants = e.errorVariants.map (List.map ErrorVariant.bare) :=
  ofErrors_bare e.spec.httpErrors

lemma apiUses_bare : e.bare.apiUses v.bare a.bare = e.apiUses v a := by
  have herrors : e.bare.spec.httpErrors = e.spec.httpErrors.bare := rfl
  have hmodels : a.bare.usesModels v.bare = a.usesModels v := by simp [Api.usesModels]
  have herrorModels : a.bare.usesErrorModels e.spec.httpErrors.bare =
      a.usesErrorModels e.spec.httpErrors := by simp [Api.usesErrorModels]
  have hstandard : a.bare.usesStandardErrors = a.usesStandardErrors := anyType_bare a _
  have hprimitive : a.bare.usesPrimitive = a.usesPrimitive := funext fun p => anyType_bare a _
  have hmap : a.bare.usesMap = a.usesMap := anyType_bare a _
  unfold Emission.apiUses
  rw [herrors, hmodels, herrorModels, hstandard, hprimitive, hmap]
  rfl

lemma modelUses_bare : e.bare.modelUses v.bare = e.modelUses v := by
  have hmodels : v.bare.models = v.models.map Model.bare := rfl
  have herrors : e.bare.spec.httpErrors = e.spec.httpErrors.bare := rfl
  have hprimitive : modelsUsePrimitive (v.models.map Model.bare) = modelsUsePrimitive v.models :=
    funext fun p => anyModelType_bare _ _
  have hmap : modelsUseMap (v.models.map Model.bare) = modelsUseMap v.models :=
    anyModelType_bare _ _
  have hrefer : modelsReferTo (v.models.map Model.bare) = modelsReferTo v.models :=
    funext fun known => anyModelType_bare _ _
  unfold Emission.modelUses
  simp only [hmodels, herrors, hprimitive, hmap, hrefer, isNone_model_bare,
    errors_isSome_model_bare]

lemma errorUses_bare : e.bare.errorUses = e.errorUses := by
  have herrors : e.bare.spec.httpErrors = e.spec.httpErrors.bare := rfl
  have hmodels : e.spec.httpErrors.bare.models = e.spec.httpErrors.models.map Model.bare := rfl
  have hrun : e.bare.run = e.run := rfl
  have hprimitive : e.spec.httpErrors.bare.usesPrimitive = e.spec.httpErrors.usesPrimitive :=
    funext fun p => errors_anyType_bare _ _
  have hmap : e.spec.httpErrors.bare.usesMap = e.spec.httpErrors.usesMap := errors_anyType_bare _ _
  have hrefer : modelsReferTo (e.spec.httpErrors.models.map Model.bare) =
      modelsReferTo e.spec.httpErrors.models := funext fun known => anyModelType_bare _ _
  unfold Emission.errorUses
  simp only [herrors, hmodels, hrun, hprimitive, hmap, hrefer, errors_isNone_model_bare,
    List.isEmpty_map]

lemma clientUses_bare (errors : List ErrorVariant) :
    e.bare.clientUses v.bare a.bare (errors.map ErrorVariant.bare) = e.clientUses v a errors := by
  have hmodel : Emission.hasErrorModel (errors.map ErrorVariant.bare) =
      Emission.hasErrorModel errors := by
    unfold Emission.hasErrorModel
    rw [List.any_map]
    rfl
  have hpairs : Emission.writesPairs a.bare = Emission.writesPairs a := by
    unfold Emission.writesPairs
    rw [hasParamAt_bare, hasParamAt_bare, hasBody_bare, hasBody_bare]
  unfold Emission.clientUses
  rw [hmodel, hpairs, apiUses_bare]

lemma needs_bare : HandlerNeeds.ofApi a.bare = HandlerNeeds.ofApi a := by
  have hoperations : a.bare.operations = a.operations.map Operation.bare := rfl
  have hfields : ∀ o : Operation, HandlerNeeds.isUrlEncodedWithFields o.bare.body =
      HandlerNeeds.isUrlEncodedWithFields o.body := by
    intro o
    obtain ⟨name, endpoint, header, query, body, responses, description⟩ := o
    cases body with
    | formUrlEncoded params =>
      change (!(params.map Param.bare).isEmpty) = !params.isEmpty
      rw [List.isEmpty_map]
    | empty | rawString _ | json _ _ | formData _ => rfl
  have hkind : ∀ o : Operation, o.bare.body.kind = o.body.kind := fun o => kind_bare o.body
  have hheaders : a.bare.readsHeaders = a.readsHeaders := by
    unfold Api.readsHeaders
    rw [hoperations, hasParamAt_bare, List.any_map]
    simp only [Function.comp_def, hkind]
  unfold HandlerNeeds.ofApi
  rw [hoperations, hheaders, List.any_map]
  simp only [Function.comp_def, hfields, hasParamAt_bare, hasBody_bare]

lemma sameFiles_refl (files : List TreeFile) : List.Forall₂ SameFile files files :=
  List.forall₂_same.2 fun f _ => .same f

lemma modelFiles_bare :
    Parallel (List.Forall₂ SameFile) (e.bare.modelFiles v.bare) (e.modelFiles v) := by
  have hmodels : v.bare.models = v.models.map Model.bare := rfl
  have hscope : Scope.ofVersion v.bare e.bare.spec.httpErrors =
      (Scope.ofVersion v e.spec.httpErrors).bare := rfl
  unfold Emission.modelFiles
  rw [hmodels, hscope, modelUses_bare, List.isEmpty_map]
  split
  · exact .ok .nil
  · apply (modelsCode_bare _ _ _ _ _).bind
    intro body body' hbody
    exact .ok (.cons (.source _ _ _ _ hbody) .nil)

lemma errorFile_bare : Parallel SameFile e.bare.errorFile e.errorFile := by
  have herrors : e.bare.spec.httpErrors = e.spec.httpErrors.bare := rfl
  have hmodels : e.spec.httpErrors.bare.models = e.spec.httpErrors.models.map Model.bare := rfl
  have hscope : Scope.ofErrors e.spec.httpErrors.bare = (Scope.ofErrors e.spec.httpErrors).bare :=
    rfl
  have htype : ∀ variants, SameCode (e.bare.errorTypeCode (variants.map ErrorVariant.bare))
      (e.errorTypeCode variants) := by
    intro variants
    have hrun : e.bare.run = e.run := rfl
    unfold Emission.errorTypeCode
    rw [hrun]
    cases e.run with
    | models => rfl
    | client => exact clientErrorCode_bare e.naming variants
    | service => exact serviceErrorCode_bare e.naming variants
  unfold Emission.errorFile
  rw [errorVariants_bare, errorUses_bare, herrors, hmodels, hscope]
  apply (Parallel.of_map _ _).bind
  rintro _ variants rfl
  apply (modelsCode_bare _ _ _ _ _).bind
  intro models models' hcode
  exact .ok (.source _ _ _ _ (hcode.append (htype variants)))

lemma clientFile_bare : Parallel SameFile (e.bare.clientFile v.bare a.bare) (e.clientFile v a) := by
  unfold Emission.clientFile
  rw [signatures_bare, errorVariants_bare]
  apply (Parallel.of_map _ _).bind
  rintro _ sigs rfl
  apply (Parallel.of_map _ _).bind
  rintro _ errors rfl
  rw [clientUses_bare]
  apply Parallel.ok
  apply SameFile.source
  apply SameCode.append
  · exact (typesCode_bare e.naming sigs).append rfl
  · apply SameCode.braces
    apply SameCode.append rfl
    unfold Emission.clientMethods
    rw [List.map_map, List.map_map, List.map_map]
    apply SameCode.all_map
    intro s
    exact SameCode.append rfl (clientMethodCode_bare e.naming v.urlPrefix a.name errors s)

lemma serviceFiles_bare :
    Parallel (List.Forall₂ SameFile) (e.bare.serviceFiles v.bare a.bare) (e.serviceFiles v a) := by
  have hbody : ∀ sigs, SameCode (e.bare.serviceBody a.bare (sigs.map Signature.bare))
      (e.serviceBody a sigs) := by
    intro sigs
    unfold Emission.serviceBody
    rw [List.map_map]
    apply SameCode.append
    · exact ((typesCode_bare e.naming sigs).append rfl).append rfl
    · apply SameCode.braces
      exact SameCode.spaced_map (traitMethodCode_bare e.naming) sigs
  have hrouter : ∀ sigs, e.bare.routerCode v.bare a.bare (sigs.map Signature.bare) =
      e.routerCode v a sigs := by
    intro sigs
    have hroute : v.bare.urlPrefix = v.urlPrefix := rfl
    unfold Emission.routerCode
    rw [hroute, routes_bare]
    rfl
  have hhandlers : ∀ sigs, e.bare.handlers v.bare a.bare (sigs.map Signature.bare) =
      e.handlers v a sigs := by
    intro sigs
    unfold Emission.handlers
    rw [List.map_map]
    exact List.map_congr_left fun s _ => handler_bare e.naming s _ _ _
  unfold Emission.serviceFiles
  rw [signatures_bare]
  apply (Parallel.of_map _ _).bind
  rintro _ sigs rfl
  dsimp only
  rw [hrouter, hhandlers, needs_bare, apiUses_bare]
  exact .ok (.cons (.source _ _ _ _ (hbody sigs)) (.cons (.same _) .nil))

lemma skeletonFile_bare : e.bare.skeletonFile v.bare a.bare = e.skeletonFile v a := by
  have huses : ∀ sigs, e.bare.signatureUses v.bare (sigs.map Signature.bare) =
      e.signatureUses v sigs := by
    intro sigs
    have htypes : (sigs.map Signature.bare).flatMap Signature.types =
        sigs.flatMap Signature.types := by
      rw [List.flatMap_map]
      simp only [types_bare]
    unfold Emission.signatureUses
    rw [htypes]
    rfl
  have hmethods : ∀ sigs : List Signature,
      (sigs.map Signature.bare).map (Emission.skeletonMethod e.naming) =
        sigs.map (Emission.skeletonMethod e.naming) := by
    intro sigs
    rw [List.map_map]
    exact List.map_congr_left fun s _ => skeletonMethod_bare s e.naming
  have hnaming : e.bare.naming = e.naming := rfl
  unfold Emission.skeletonFile
  rw [signatures_bare]
  cases e.signatures v a with
  | error fault => rfl
  | ok sigs =>
    change Except.ok _ = Except.ok _
    rw [huses, hnaming, hmethods]
    rfl

end Files

/-! ### Runs -/

section Runs

variable (e : Emission)

lemma versions_bare : e.bare.versions = e.versions.map Version.bare := by
  have hrun : e.bare.run = e.run := rfl
  have hspec : e.bare.spec.versions = e.spec.versions.map Version.bare := rfl
  have hmodels : ∀ v : Version, v.bare.models.isEmpty = v.models.isEmpty :=
    fun v => List.isEmpty_map
  unfold Emission.versions
  rw [hrun, hspec, List.filter_map]
  simp only [Function.comp_def, hmodels]

lemma versionModules_bare (v : Version) : e.bare.versionModules v.bare = e.versionModules v := by
  have hmodels : v.bare.models.isEmpty = v.models.isEmpty := List.isEmpty_map
  have hapis : v.bare.apis.map e.bare.apiModule = v.apis.map e.apiModule := List.map_map
  have hrun : e.bare.run = e.run := rfl
  unfold Emission.versionModules
  rw [hmodels, hapis, hrun]

lemma supportModules_bare : e.bare.supportModules = e.supportModules := by
  have hrun : e.bare.run = e.run := rfl
  have hforms : e.bare.readsForms = e.readsForms := by
    have hspec : e.bare.spec = e.spec.bare := rfl
    unfold Emission.readsForms
    rw [hspec, spec_hasBody_bare, spec_hasBody_bare]
  unfold Emission.supportModules
  rw [hrun, hforms]

lemma rootIndex_bare : e.bare.rootIndex = e.rootIndex := by
  have hrun : e.bare.run = e.run := rfl
  have hversions : e.bare.versions.map e.bare.versionModule = e.versions.map e.versionModule := by
    rw [versions_bare, List.map_map]
    rfl
  unfold Emission.rootIndex Emission.rootModules
  rw [supportModules_bare, hrun, hversions]

lemma supportFiles_bare : e.bare.supportFiles = e.supportFiles := by
  unfold Emission.supportFiles
  rw [supportModules_bare]

lemma rootRouterFile_bare : e.bare.rootRouterFile = e.rootRouterFile := by
  have hapis : e.bare.mergedApis = e.mergedApis := by
    have hversions : e.bare.spec.versions = e.spec.versions.map Version.bare := rfl
    have hversion : ∀ v : Version, v.bare.apis = v.apis.map Api.bare := fun _ => rfl
    unfold Emission.mergedApis
    rw [hversions, List.flatMap_map]
    simp only [hversion, List.map_map]
    rfl
  have hconfig : e.bare.config = e.config := rfl
  unfold Emission.rootRouterFile
  rw [hapis, hconfig]

lemma apiFiles_bare (v : Version) :
    Parallel (List.Forall₂ SameFile) (e.bare.apiFiles v.bare) (e.apiFiles v) := by
  have hrun : e.bare.run = e.run := rfl
  have hapis : v.bare.apis = v.apis.map Api.bare := rfl
  unfold Emission.apiFiles
  rw [hrun, hapis]
  cases e.run with
  | models => exact .ok .nil
  | client =>
    apply Parallel.mapM (forall₂_map_bare Api.bare v.apis)
    rintro _ a rfl
    exact clientFile_bare e v a
  | service =>
    apply (Parallel.mapM (forall₂_map_bare Api.bare v.apis) ?_).map
    · intro groups groups' hgroups
      exact List.rel_flatten hgroups
    · rintro _ a rfl
      exact serviceFiles_bare e v a

lemma versionFiles_bare (v : Version) :
    Parallel (List.Forall₂ SameFile) (e.bare.versionFiles v.bare) (e.versionFiles v) := by
  unfold Emission.versionFiles
  apply (modelFiles_bare e v).bind
  intro models models' hmodels
  apply (apiFiles_bare e v).bind
  intro apis apis' hapis
  rw [versionModules_bare]
  exact .ok (.cons (.same _) (List.rel_append hmodels hapis))

lemma skeletonFiles_bare : e.bare.skeletonFiles = e.skeletonFiles := by
  have hversions : e.bare.spec.versions = e.spec.versions.map Version.bare := rfl
  have hversion : ∀ v, e.bare.versionSkeletons v.bare = e.versionSkeletons v := by
    intro v
    have hapis : v.bare.apis = v.apis.map Api.bare := rfl
    have hfiles : (v.apis.map Api.bare).mapM (e.bare.skeletonFile v.bare) =
        v.apis.mapM (e.skeletonFile v) := by
      rw [List.mapM_map]
      exact congrArg v.apis.mapM (funext (skeletonFile_bare e v))
    unfold Emission.versionSkeletons
    rw [hapis, hfiles, List.map_map]
    rfl
  unfold Emission.skeletonFiles
  rw [hversions, List.mapM_map, List.map_map]
  simp only [Function.comp_def, hversion]
  rfl

/-- The files of a run are those of the bare run, comments apart. -/
theorem files_bare : Parallel (List.Forall₂ SameFile) e.bare.files e.files := by
  have hrun : e.bare.run = e.run := rfl
  unfold Emission.files
  rw [versions_bare, rootIndex_bare, supportFiles_bare, rootRouterFile_bare, skeletonFiles_bare,
    hrun]
  apply (errorFile_bare e).bind
  intro errors errors' herrors
  apply (Parallel.mapM (forall₂_map_bare Version.bare e.versions) ?_).bind
  · intro versions versions' hversions
    have hrest : ∀ (root router skeletons : List TreeFile), List.Forall₂ SameFile
        (root ++ [errors] ++ router ++ versions.flatten ++ skeletons)
        (root ++ [errors'] ++ router ++ versions'.flatten ++ skeletons) := by
      intro root router skeletons
      apply List.rel_append _ (sameFiles_refl skeletons)
      apply List.rel_append _ (List.rel_flatten hversions)
      apply List.rel_append _ (sameFiles_refl router)
      exact List.rel_append (sameFiles_refl root) (.cons herrors .nil)
    split
    · apply (Parallel.refl e.skeletonFiles).bind
      rintro skeletons _ rfl
      exact .ok (hrest _ _ skeletons)
    · exact .ok (hrest _ _ [])
  · rintro _ v rfl
    exact versionFiles_bare e v

end Runs

/-! ### Artifacts -/

/-- The artifacts of a run before their items are checked. -/
def emitted (e : Emission) : Except Fault (List Artifact) := do
  let files ← e.files
  files.mapM e.artifact

lemma succeeds_emitted (e : Emission) (h : e.spec.validate e.naming = .ok ()) :
    Succeeds (emitted e) := by
  have hrules : SpecRules e.spec e.naming := .of_validate h
  obtain ⟨files, artifacts, hfiles, hartifacts⟩ := hrules.emitsAll.artifacts
  exact ⟨artifacts, bind_eq_ok_iff.2 ⟨files, hfiles, hartifacts⟩⟩

/-- What remains of an artifact without its comments. -/
def withoutComments (a : Artifact) : String × ArtifactKind × List (List Char) :=
  (a.path, a.kind, codeLines a.content)

lemma artifact_bare (e : Emission) {f g : TreeFile} (h : SameFile f g) :
    Parallel (fun a b => withoutComments a = withoutComments b) (e.bare.artifact f)
      (e.artifact g) := by
  cases h with
  | same f =>
    have hsame : e.bare.artifact f = e.artifact f := rfl
    rw [hsame]
    cases e.artifact f with
    | error fault => exact .error fault
    | ok a => exact .ok rfl
  | @source path submodules opensParent uses body body' h =>
    have hlines : SameCode
        ((SourceFile.mk submodules opensParent uses body).code e.config.modulePath)
        ((SourceFile.mk submodules opensParent uses body').code e.config.modulePath) :=
      SameCode.append rfl h
    have htexts := congrArg (fun lines => (e.pathText path, ArtifactKind.generated, lines))
      (codeLines_congr hlines)
    exact .ok htexts

lemma withoutComments_bare (e : Emission) :
    (emitted e.bare).map (List.map withoutComments) =
      (emitted e).map (List.map withoutComments) := by
  have hemitted : Parallel (List.Forall₂ fun a b => withoutComments a = withoutComments b)
      (emitted e.bare) (emitted e) := by
    unfold emitted
    apply (files_bare e).bind
    intro files files' hfiles
    exact Parallel.mapM hfiles fun f g h => artifact_bare e h
  apply hemitted.map_eq
  intro before after hsame
  rwa [← List.forall₂_eq_eq_eq, List.forall₂_map_left_iff, List.forall₂_map_right_iff]

/-- Two specifications that differ in descriptions only are both accepted or refused with one fault,
and if they are accepted the runs on them give the same paths, kinds and lines of code in the same
order. -/
theorem descriptions_keep_code {s t : Spec} (h : s.bare = t.bare) (config : Config)
    (naming : Naming) (run : RunKind) :
    s.validate naming = t.validate naming ∧
      (s.validate naming = .ok () → ∃ before after, emitted ⟨s, config, naming, run⟩ = .ok before ∧
        emitted ⟨t, config, naming, run⟩ = .ok after ∧
        before.map withoutComments = after.map withoutComments) := by
  have hvalidate : s.validate naming = t.validate naming := by
    rw [← validate_bare s, h, validate_bare]
  refine ⟨hvalidate, fun hs => ?_⟩
  have ht : t.validate naming = .ok () := hvalidate ▸ hs
  obtain ⟨before, hbefore⟩ := succeeds_emitted ⟨s, config, naming, run⟩ hs
  obtain ⟨after, hafter⟩ := succeeds_emitted ⟨t, config, naming, run⟩ ht
  have hsame : (emitted ⟨s, config, naming, run⟩).map (List.map withoutComments) =
      (emitted ⟨t, config, naming, run⟩).map (List.map withoutComments) := by
    rw [← withoutComments_bare, ← withoutComments_bare ⟨t, config, naming, run⟩]
    unfold Emission.bare
    dsimp only
    rw [h]
  rw [hbefore, hafter] at hsame
  exact ⟨before, after, hbefore, hafter, Except.ok.inj hsame⟩

/-- The order of the shop with descriptions, one of which tries to close a block. -/
def describedOrder : Operation :=
  { putOrder with
    body := .json (.named "Order") (some "The order")
    responses := [⟨"ok", .json (.named "Order"), some "The order as it is kept"⟩,
      ⟨"no_content", .empty, some ""⟩, ⟨"conflict", .rawString, none⟩]
    description := some "Puts an order.\n\n  \x7d\nfn more() \x7b\x7d  " }

def describedShop : Spec :=
  { shop with
    versions := [{ shopVersion with apis := [⟨"orders", [describedOrder]⟩] }]
    httpErrors := { shop.httpErrors with
      responses := [⟨"forbidden", .named "ForbiddenError", some "Not allowed\n*/"⟩] } }

theorem descriptions_keep_code_shop :
    shop.bare = describedShop.bare ∧ shop.validate .standard = .ok () ∧
      ∃ before after, emitted ⟨shop, .standard, .standard, .service⟩ = .ok before ∧
        emitted ⟨describedShop, .standard, .standard, .service⟩ = .ok after ∧
        before.map withoutComments = after.map withoutComments := by
  have hbare : shop.bare = describedShop.bare := by decide +kernel
  have hvalid : shop.validate .standard = .ok () := by decide +kernel
  exact ⟨hbare, hvalid, (descriptions_keep_code hbare .standard .standard .service).2 hvalid⟩

end ApiCodegen.Proofs
