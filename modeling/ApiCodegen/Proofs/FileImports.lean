import ApiCodegen.Proofs.ClientImports
import ApiCodegen.Tree.Generator

/-!
# Imports of the other files

The files of models, errors, services and skeletons import what the types in them need. Each decides
by a mechanism of its own: questions about the models, questions about the error taxonomy, questions
about the API, and for skeletons a fold over the types of the methods, which imports nothing else.
-/

namespace ApiCodegen.Proofs

/-- What the types need is imported. -/
def Covered (root version : String) (uses : List UsePath) (types : List Spelling) : Prop :=
  ∀ t ∈ types, ∀ u ∈ needs version t, Imported root uses u

/-- Types as a file writes them: what is written for a declared type needs what its resolved type
needs. -/
def WrittenFrom (s : Scope) (naming : Naming) (paths : TypePaths) (types : List TypeExpr)
    (t : Spelling) : Prop :=
  ∃ d ∈ types, ∃ here type, s.resolve here d = .ok type ∧
    qualifier t = qualifier (type.spell naming paths) ∧
      ∀ version, needs version t = needs version (type.spell naming paths)

section Writing

variable {s : Scope} {naming : Naming} {paths : TypePaths} {types : List TypeExpr} {t : Spelling}

lemma WrittenFrom.mono {types' : List TypeExpr} (h : WrittenFrom s naming paths types t)
    (hsub : types ⊆ types') : WrittenFrom s naming paths types' t := by
  obtain ⟨d, hd, hrest⟩ := h
  exact ⟨d, hsub hd, hrest⟩

variable (naming paths) in
lemma qualifier_spell (type : ResolvedType) :
    qualifier (type.spell naming paths) = "" ∨
      ∃ origin, qualifier (type.spell naming paths) = ResolvedType.modelPath paths origin := by
  induction type with
  | primitive p => exact Or.inl rfl
  | model name origin isEnum => exact Or.inr ⟨origin, rfl⟩
  | «local» name => exact Or.inl rfl
  | option inner ih | vec inner ih | map inner ih => exact ih

/-- No module stands before a type that is not empty and not before models. -/
lemma WrittenFrom.qualifier_ne {q : String} (h : WrittenFrom s naming paths types t)
    (hempty : q ≠ "") (hpaths : ∀ origin, ResolvedType.modelPath paths origin ≠ q) :
    qualifier t ≠ q := by
  obtain ⟨d, -, here, type, -, hqualifier, -⟩ := h
  rw [hqualifier]
  rcases qualifier_spell naming paths type with hnone | ⟨origin, hsome⟩
  · rw [hnone]
    exact hempty.symm
  · rw [hsome]
    exact hpaths origin

end Writing

/-! ### Models -/

section Models

variable {s : ModelScope} {naming : Naming} {paths : TypePaths} {here : Location}
  {models : List Model} {code : Code} {t : Spelling}

/-- A box changes nothing about what a field needs. -/
lemma resolve_of_fieldSpelling {model : String} {f : Field}
    (h : s.fieldSpelling model here f = .ok t) :
    ∃ type, s.scope.resolve (here.child f.name) f.type = .ok type ∧
      qualifier t = qualifier (type.spell s.naming s.paths) ∧
        ∀ version, needs version t = needs version (type.spell s.naming s.paths) := by
  obtain ⟨type, htype, hspell⟩ := bind_eq_ok_iff.1 h
  refine ⟨type, htype, ?_⟩
  cases type with
  | option inner =>
    dsimp only at hspell
    split at hspell
    · cases hspell
      exact ⟨rfl, fun _ => rfl⟩
    · cases hspell
      exact ⟨rfl, fun _ => rfl⟩
  | primitive _ | model _ _ _ | «local» _ | vec _ | map _ =>
    cases hspell
    exact ⟨rfl, fun _ => rfl⟩

lemma writtenFrom_modelsCode {scope : Scope}
    (h : modelsCode scope naming paths here models = .ok code) (ht : t ∈ code.spellings) :
    WrittenFrom scope naming paths (modelTypes models) t := by
  obtain ⟨codes, hcodes, hcode⟩ := bind_eq_ok_iff.1 h
  cases hcode
  rw [spellings_all, List.flatMap_map] at ht
  obtain ⟨code, hcode, ht⟩ := List.mem_flatMap.1 ht
  rw [spellings_append, spellings_blank, List.append_nil] at ht
  obtain ⟨m, hm, hmodel⟩ := exists_of_mem_mapM hcodes hcode
  obtain ⟨f, hf, hspelling⟩ := exists_of_mem_forall₂ (modelCode_spellings hmodel) ht
  obtain ⟨type, hresolve, hneeds⟩ := resolve_of_fieldSpelling hspelling
  exact ⟨f.type, List.mem_flatMap.2 ⟨m, hm, List.mem_map_of_mem hf⟩, _, type, hresolve, hneeds⟩

end Models

section ModelFiles

variable {e : Emission} {v : Version} {t : Spelling} {u : UsePath} {version : String}

/-- The file of the models imports error models that no model of the version shadows, and standard
error models that none of the two shadows. -/
lemma mem_modelUses {naming : Naming}
    (h : WrittenFrom (.ofVersion v e.spec.httpErrors) naming .inModels (modelTypes v.models) t)
    (hu : u ∈ needs version t) : u ∈ e.modelUses v := by
  obtain ⟨d, hd, here, type, hresolve, -, hneeds⟩ := h
  rw [hneeds, mem_needs_iff hresolve] at hu
  unfold Emission.modelUses
  simp only [List.mem_append, mem_useIf_iff, mem_typeUses_iff, modelsReferTo_iff,
    Bool.and_eq_true]
  rcases hu with ⟨p, hp, hpu⟩ | ⟨origin, m, -, hlookup, hq⟩ | ⟨hmap, rfl⟩
  · exact Or.inr (Or.inl ⟨p, modelsUsePrimitive_iff.2 ⟨d, hd, hp⟩, hpu⟩)
  · have hfound := lookup_eq_some hlookup
    cases origin with
    | version => cases hq
    | error =>
      cases hq
      exact Or.inl (Or.inl (Or.inr ⟨⟨d, hd, Option.isNone_iff_eq_none.2 hfound.1, hfound.2⟩, rfl⟩))
    | standard =>
      cases hq
      exact Or.inl (Or.inr ⟨⟨d, hd, Option.isNone_iff_eq_none.2 hfound.1, hfound.2.2⟩, rfl⟩)
  · exact Or.inr (Or.inr ⟨modelsUseMap_iff.2 ⟨d, hd, hmap⟩, rfl⟩)

/-- The file of the error taxonomy imports the standard error models if it has an error type, and
else if its models refer to one that they do not shadow. -/
lemma mem_errorUses {naming : Naming} {types : List TypeExpr}
    (h : WrittenFrom (.ofErrors e.spec.httpErrors) naming .inErrors types t)
    (htypes : types ⊆ errorTypes e.spec.httpErrors)
    (hmodels : e.run = .models → types ⊆ modelTypes e.spec.httpErrors.models)
    (hu : u ∈ needs version t) : u ∈ e.errorUses := by
  obtain ⟨d, hd, here, type, hresolve, -, hneeds⟩ := h
  rw [hneeds, mem_needs_iff hresolve] at hu
  unfold Emission.errorUses
  simp only [List.mem_append, mem_useIf_iff, mem_typeUses_iff, Bool.or_eq_true, bne_iff_ne,
    modelsReferTo_iff, Bool.and_eq_true]
  rcases hu with ⟨p, hp, hpu⟩ | ⟨origin, m, -, hlookup, hq⟩ | ⟨hmap, rfl⟩
  · exact Or.inr (Or.inl ⟨p, errors_usesPrimitive_iff.2 ⟨d, htypes hd, hp⟩, hpu⟩)
  · have hfound := lookup_eq_some hlookup
    cases origin with
    | version => cases hfound
    | error => cases hq
    | standard =>
      cases hq
      refine Or.inl (Or.inl (Or.inr ⟨?_, rfl⟩))
      by_cases hrun : e.run = .models
      · exact Or.inr ⟨d, hmodels hrun hd, Option.isNone_iff_eq_none.2 hfound.2.1, hfound.2.2⟩
      · exact Or.inl hrun
  · exact Or.inr (Or.inr ⟨errors_usesMap_iff.2 ⟨d, htypes hd, hmap⟩, rfl⟩)

end ModelFiles

/-! ### Errors -/

section Errors

variable {e : Emission} {naming : Naming} {variants : List ErrorVariant} {x : ErrorVariant}
  {t : Spelling}

lemma valueCode_spellings : (x.valueCode naming).spellings = [x.type.spell naming .inErrors] := by
  simp [ErrorVariant.valueCode, ErrorVariant.attributeLine]

lemma serviceVariant_spellings (ht : t ∈ (serviceVariantCode naming x).spellings) :
    t = x.type.spell naming .inErrors := by
  unfold serviceVariantCode ErrorVariant.docCode at ht
  rw [spellings_append, spellings_doc, List.nil_append] at ht
  split at ht
  · simp at ht
  · rwa [valueCode_spellings, List.mem_singleton] at ht

lemma respondArm_spellings : (respondArm x).spellings = [] := by
  unfold respondArm
  cases x.handling <;> simp

/-- The error type of a run has the types of the errors inside, and the run of models has none. -/
lemma exists_of_errorType (ht : t ∈ (e.errorTypeCode variants).spellings) :
    e.run ≠ .models ∧ ∃ x ∈ variants, t = x.type.spell e.naming .inErrors := by
  unfold Emission.errorTypeCode at ht
  cases hrun : e.run with
  | models => simp [hrun] at ht
  | client =>
    refine ⟨by simp, ?_⟩
    simpa [hrun, clientErrorCode, ErrorVariant.docCode, valueCode_spellings,
      List.flatMap_map] using ht
  | service =>
    refine ⟨by simp, ?_⟩
    have hvariants : ∃ x ∈ variants, t ∈ (serviceVariantCode e.naming x).spellings := by
      simpa [hrun, serviceErrorCode, respondArm_spellings, List.flatMap_map] using ht
    obtain ⟨x, hx, ht⟩ := hvariants
    exact ⟨x, hx, serviceVariant_spellings ht⟩

lemma writtenFrom_error (h : ErrorVariant.ofErrors naming e.spec.httpErrors = .ok variants)
    (hx : x ∈ variants) :
    WrittenFrom (.ofErrors e.spec.httpErrors) naming .inErrors
      (e.spec.httpErrors.allResponses.map (·.type)) (x.type.spell naming .inErrors) := by
  obtain ⟨r, hr, here, hresolve⟩ := exists_response_of_mem h hx
  exact ⟨r.type, List.mem_map_of_mem hr, here, x.type, hresolve, rfl, fun _ => rfl⟩

end Errors

/-! ### Services -/

section Services

variable {e : Emission} {v : Version} {a : Api} {sigs : List Signature} {naming : Naming}
  {sig : Signature} {t : Spelling}

lemma spellings_spaced (codes : List Code) :
    (spaced codes).spellings = codes.flatMap Code.spellings := by
  induction codes with
  | nil => rfl
  | cons code codes ih =>
    cases codes with
    | nil => simp [spaced]
    | cons next codes =>
      have hspaced : spaced (code :: next :: codes) = code ++ .blank ++ spaced (next :: codes) :=
        rfl
      rw [hspaced, spellings_append, spellings_append, ih, spellings_blank, List.append_nil]
      rfl

lemma traitMethod_spellings : (sig.traitMethodCode naming).spellings =
    (sig.serviceFormals naming .inApi).map (·.type) ++ [sig.returnSpelling naming .inApi] := by
  simp [Signature.traitMethodCode, spellings_receiverLine]

lemma spelledFrom_serviceBody (ht : t ∈ (e.serviceBody a sigs).spellings) :
    ∃ sig ∈ sigs, SpelledFrom e.naming (signatureTypes sig) t := by
  have hparts : t ∈ (Signature.typesCode e.naming sigs).spellings ∨
      ∃ sig ∈ sigs, t ∈ (sig.traitMethodCode e.naming).spellings := by
    simpa [Emission.serviceBody, spellings_spaced, List.flatMap_map] using ht
  rcases hparts with ht | ⟨sig, hsig, ht⟩
  · exact spelledFrom_typesCode ht
  · refine ⟨sig, hsig, ?_⟩
    rw [traitMethod_spellings, List.mem_append, List.mem_singleton] at ht
    rcases ht with ht | rfl
    · obtain ⟨f, hf, rfl⟩ := List.mem_map.1 ht
      exact spelledFrom_serviceFormals hf
    · exact spelledFrom_returns

end Services

/-! ### Skeletons -/

/-- The types of the parameters and of the result of a method. -/
def methodTypes (m : SkeletonMethod) : List Spelling := m.params.map (·.2) ++ [m.returns]

section Skeletons

variable {e : Emission} {v : Version} {a : Api} {sigs : List Signature} {naming : Naming}
  {sig : Signature} {t : Spelling} {u : UsePath} {version root : String}

/-- The imports of what types refer to. -/
def referenceUses (version : String) (refs : ReferencedTypes) : List UsePath :=
  useIf refs.versionModels (modelsUse version) ++ useIf refs.errorModels errorsUse ++
    useIf refs.standardModels standardUse ++ typeUses refs.primitives.contains refs.map

variable (naming) in
/-- Collecting a type adds what the type needs, and nothing else. -/
lemma mem_referenceUses_collect (known : ReferencedTypes) (type : ResolvedType) :
    u ∈ referenceUses version (known.collect type) ↔
      u ∈ referenceUses version known ∨ u ∈ needs version (type.spell naming .inApi) := by
  unfold referenceUses
  induction type with
  | primitive p =>
    simp only [mem_pathUses_iff, ReferencedTypes.collect, ResolvedType.spell, needs,
      Option.mem_toList, List.contains_cons, Bool.or_eq_true, beq_iff_eq]
    grind
  | model name origin isEnum =>
    simp only [mem_pathUses_iff]
    cases origin with
    | version =>
      have hneeds : u ∈ needs version ((ResolvedType.model name .version isEnum).spell naming
          .inApi) ↔ u = modelsUse version := List.mem_singleton
      simp only [hneeds, ReferencedTypes.collect, true_and]
      grind
    | error =>
      have hneeds : u ∈ needs version ((ResolvedType.model name .error isEnum).spell naming
          .inApi) ↔ u = errorsUse := List.mem_singleton
      simp only [hneeds, ReferencedTypes.collect, true_and]
      grind
    | standard =>
      have hneeds : u ∈ needs version ((ResolvedType.model name .standard isEnum).spell naming
          .inApi) ↔ u = standardUse := List.mem_singleton
      simp only [hneeds, ReferencedTypes.collect, true_and]
      grind
  | «local» name => simp [ReferencedTypes.collect, ResolvedType.spell, needs, qualifierUse?]
  | option inner ih | vec inner ih => exact ih
  | map inner ih =>
    rw [ResolvedType.spell, needs, List.mem_cons, or_left_comm, ← ih]
    simp only [mem_pathUses_iff, ReferencedTypes.collect, true_and]
    grind

variable (naming) in
lemma mem_referenceUses_ofTypes (types : List ResolvedType) :
    u ∈ referenceUses version (.ofTypes types) ↔
      ∃ type ∈ types, u ∈ needs version (type.spell naming .inApi) := by
  have hfold : ∀ known, u ∈ referenceUses version (types.foldl ReferencedTypes.collect known) ↔
      u ∈ referenceUses version known ∨
        ∃ type ∈ types, u ∈ needs version (type.spell naming .inApi) := by
    induction types with
    | nil => simp
    | cons type types ih =>
      intro known
      rw [List.foldl_cons, ih, mem_referenceUses_collect naming]
      simp only [List.mem_cons, exists_eq_or_imp, or_assoc]
  have hnone : u ∉ referenceUses version .none := by
    simp [referenceUses, ReferencedTypes.none, typeUses, useIf]
  rw [ReferencedTypes.ofTypes, hfold, or_iff_right hnone]

/-- What the types of a method need is what the types that its function names need. -/
lemma needs_skeletonMethod : (∃ t ∈ methodTypes (Emission.skeletonMethod naming sig),
      u ∈ needs version t) ↔ ∃ type ∈ sig.types, u ∈ needs version (type.spell naming .inApi) := by
  have hdeclared : ∀ name, u ∉ needs version (.named "" name) := fun _ => nofun
  have hstring : u ∉ needs version (.primitive .string) := nofun
  have hunit : u ∉ needs version .unit := nofun
  have hreturns : u ∈ needs version (sig.returnSpelling naming .inApi) ↔
      ∃ type ∈ resultTypes sig.returns, u ∈ needs version (type.spell naming .inApi) := by
    unfold Signature.returnSpelling
    cases sig.returns with
    | multiple enumName variants => simp [hdeclared, resultTypes]
    | single w =>
      obtain ⟨name, code, response, payload⟩ := w
      cases payload with
      | empty => simp [Payload.spelling?, hunit, resultTypes, payloadTypes]
      | text => simp [Payload.spelling?, hstring, resultTypes, payloadTypes]
      | json type => simp [Payload.spelling?, resultTypes, payloadTypes]
  have hformals : (∃ t ∈ (sig.serviceFormals naming .inApi).map (·.type), u ∈ needs version t) ↔
      ∃ type ∈ argumentTypes sig.body ++ sig.params.map (·.type),
        u ∈ needs version (type.spell naming .inApi) := by
    unfold Signature.serviceFormals Signature.formals
    cases sig.body with
    | none => simp [argumentTypes]
    | text => simp [hstring, argumentTypes]
    | json type => simp [argumentTypes]
    | form structName fields multipart => simp [hdeclared, argumentTypes]
  have htypes : methodTypes (Emission.skeletonMethod naming sig) =
      (sig.serviceFormals naming .inApi).map (·.type) ++ [sig.returnSpelling naming .inApi] := by
    simp [methodTypes, Emission.skeletonMethod]
  simp only [htypes, types_eq, List.mem_append, or_and_right, exists_or,
    List.mem_singleton, exists_eq_left] at hformals ⊢
  exact or_congr hformals hreturns

lemma mem_signatureUses_iff : u ∈ e.signatureUses v sigs ↔
    ∃ m ∈ sigs.map (Emission.skeletonMethod e.naming), ∃ t ∈ methodTypes m,
      u ∈ needs (e.versionModule v) t := by
  have huses : e.signatureUses v sigs =
      referenceUses (e.versionModule v) (.ofTypes (sigs.flatMap Signature.types)) := rfl
  rw [huses, mem_referenceUses_ofTypes e.naming]
  constructor
  · rintro ⟨type, htype, hu⟩
    obtain ⟨sig, hsig, htype⟩ := List.mem_flatMap.1 htype
    exact ⟨_, List.mem_map_of_mem hsig, needs_skeletonMethod.2 ⟨type, htype, hu⟩⟩
  · rintro ⟨m, hm, hu⟩
    obtain ⟨sig, hsig, rfl⟩ := List.mem_map.1 hm
    obtain ⟨type, htype, hu⟩ := needs_skeletonMethod.1 hu
    exact ⟨type, List.mem_flatMap.2 ⟨sig, hsig, htype⟩, hu⟩

/-- A skeleton imports exactly what the types of its methods need, besides the error type and the
trait. -/
lemma imported_iff_skeleton {t : Spelling} (hu : u ∈ needs (e.versionModule v) t) :
    Imported root ([.internal ["errors"] (.name "ServiceError"),
        .internal [e.versionModule v, e.apiModule a] .everything] ++ e.signatureUses v sigs) u ↔
      ∃ m ∈ sigs.map (Emission.skeletonMethod e.naming), ∃ t ∈ methodTypes m,
        u ∈ needs (e.versionModule v) t := by
  have htold : ∀ w ∈ [.internal ["errors"] (.name "ServiceError"),
      .internal [e.versionModule v, e.apiModule a] .everything] ++ e.signatureUses v sigs,
      Told root (e.versionModule v) w := by
    intro w hw
    simp only [List.mem_append, List.mem_cons, List.not_mem_nil, or_false] at hw
    rcases hw with (rfl | rfl) | hw
    · exact told_of_last (lastSegment_name (by decide)) rfl
    · exact told_of_last lastSegment_everything rfl
    · exact told_of_mem_pathUses hw
  have hfixed : u ∉ [.internal ["errors"] (.name "ServiceError"),
      .internal [e.versionModule v, e.apiModule a] .everything] := by
    intro hfixed
    simp only [List.mem_cons, List.not_mem_nil, or_false] at hfixed
    rcases hfixed with rfl | rfl
    · exact not_mem_needs_of_last root (lastSegment_name (by decide)) rfl hu
    · exact not_mem_needs_of_last root lastSegment_everything rfl hu
  rw [imported_iff_mem hu htold, List.mem_append, or_iff_right hfixed, mem_signatureUses_iff]

end Skeletons

/-! ### Files of validated descriptions -/

/-- What the files of a run that are no clients import of what they spell, and the modules that no
type of the models and of the errors is reached through. -/
structure FileImports (e : Emission) : Prop where
  models : ∀ v ∈ e.spec.versions, v.models = [] ∧ e.modelFiles v = .ok [] ∨
    ∃ f, e.modelFiles v = .ok [⟨⟨.generated, [e.versionModule v], "models"⟩, .source f⟩] ∧
      Covered e.config.modulePath (e.versionModule v) f.uses f.body.spellings ∧
        ∀ t ∈ f.body.spellings, qualifier t ≠ "models::"
  errors : ∃ f, e.errorFile = .ok ⟨⟨.generated, [], "errors"⟩, .source f⟩ ∧
    (∀ version, Covered e.config.modulePath version f.uses f.body.spellings) ∧
      ∀ t ∈ f.body.spellings, qualifier t ≠ "models::" ∧ qualifier t ≠ "errors::"
  services : ∀ v ∈ e.spec.versions, ∀ a ∈ v.apis, ∃ f routing, e.serviceFiles v a =
      .ok [⟨.ofDirectory .generated (e.apiDirs v a), .source f⟩, routing] ∧
    Covered e.config.modulePath (e.versionModule v) f.uses f.body.spellings
  skeletons : ∀ v ∈ e.spec.versions, ∀ a ∈ v.apis, ∃ s, e.skeletonFile v a =
      .ok ⟨⟨.services, [e.versionModule v], e.apiModule a⟩, .skeleton s⟩ ∧
    Covered e.config.modulePath (e.versionModule v) s.uses (s.methods.flatMap methodTypes) ∧
      ∀ t, ∀ u ∈ needs (e.versionModule v) t, Imported e.config.modulePath s.uses u →
        ∃ m ∈ s.methods, ∃ t ∈ methodTypes m, u ∈ needs (e.versionModule v) t

section Files

variable {e : Emission} (h : SpecRules e.spec e.naming) {v : Version} (hv : v ∈ e.spec.versions)
  {a : Api} (ha : a ∈ v.apis)

include h

include hv in
lemma models_imports : v.models = [] ∧ e.modelFiles v = .ok [] ∨
    ∃ f, e.modelFiles v = .ok [⟨⟨.generated, [e.versionModule v], "models"⟩, .source f⟩] ∧
      Covered e.config.modulePath (e.versionModule v) f.uses f.body.spellings ∧
        ∀ t ∈ f.body.spellings, qualifier t ≠ "models::" := by
  have hnot : ∀ origin, ResolvedType.modelPath .inModels origin ≠ "models::" := by
    intro origin
    cases origin <;> decide
  unfold Emission.modelFiles
  by_cases hempty : v.models.isEmpty = true
  · left
    rw [if_pos hempty]
    exact ⟨List.isEmpty_iff.1 hempty, rfl⟩
  · right
    rw [if_neg hempty]
    obtain ⟨code, hcode⟩ : Succeeds (modelsCode (.ofVersion v e.spec.httpErrors) e.naming .inModels
        ((Location.root.child (e.versionModule v)).child "models") v.models) :=
      succeeds_modelsCode (h.models v hv)
    have hwritten := fun t => writtenFrom_modelsCode (t := t) hcode
    refine ⟨.plain (e.modelUses v) code, bind_eq_ok_iff.2 ⟨code, hcode, rfl⟩, ?_, ?_⟩
    · intro t ht u hu
      exact imported_of_mem (mem_modelUses (hwritten t ht) hu)
    · intro t ht
      exact (hwritten t ht).qualifier_ne (by decide) hnot

lemma errors_imports : ∃ f, e.errorFile = .ok ⟨⟨.generated, [], "errors"⟩, .source f⟩ ∧
    (∀ version, Covered e.config.modulePath version f.uses f.body.spellings) ∧
      ∀ t ∈ f.body.spellings, qualifier t ≠ "models::" ∧ qualifier t ≠ "errors::" := by
  obtain ⟨file, hfile⟩ := succeeds_errorFile h
  obtain ⟨variants, hvariants, hrest⟩ := bind_eq_ok_iff.1 hfile
  obtain ⟨models, hmodels, hsource⟩ := bind_eq_ok_iff.1 hrest
  have hwritten : ∀ t ∈ (models ++ e.errorTypeCode variants).spellings, ∃ types,
      WrittenFrom (.ofErrors e.spec.httpErrors) e.naming .inErrors types t ∧
        types ⊆ errorTypes e.spec.httpErrors ∧
          (e.run = .models → types ⊆ modelTypes e.spec.httpErrors.models) := by
    intro t ht
    rw [spellings_append, List.mem_append] at ht
    rcases ht with ht | ht
    · exact ⟨_, writtenFrom_modelsCode hmodels ht, List.subset_append_right _ _,
        fun _ => List.Subset.refl _⟩
    · obtain ⟨hrun, x, hx, rfl⟩ := exists_of_errorType ht
      exact ⟨_, writtenFrom_error hvariants hx, List.subset_append_left _ _,
        fun hmodels => absurd hmodels hrun⟩
  refine ⟨_, hfile.trans hsource.symm, fun version t ht u hu => ?_, fun t ht => ?_⟩
  · obtain ⟨types, hfrom, htypes, hrun⟩ := hwritten t ht
    exact imported_of_mem (mem_errorUses hfrom htypes hrun hu)
  · obtain ⟨types, hfrom, -⟩ := hwritten t ht
    have hmodels : ∀ origin, ResolvedType.modelPath .inErrors origin ≠ "models::" := by
      intro origin
      cases origin <;> decide
    have herrors : ∀ origin, ResolvedType.modelPath .inErrors origin ≠ "errors::" := by
      intro origin
      cases origin <;> decide
    exact ⟨hfrom.qualifier_ne (by decide) hmodels, hfrom.qualifier_ne (by decide) herrors⟩

include hv ha

lemma service_imports : ∃ f routing, e.serviceFiles v a =
      .ok [⟨.ofDirectory .generated (e.apiDirs v a), .source f⟩, routing] ∧
    Covered e.config.modulePath (e.versionModule v) f.uses f.body.spellings := by
  obtain ⟨files, hfiles⟩ := succeeds_serviceFiles h hv ha
  obtain ⟨sigs, hsigs, hsource⟩ := bind_eq_ok_iff.1 hfiles
  refine ⟨_, _, hfiles.trans hsource.symm, fun t ht u hu => ?_⟩
  obtain ⟨sig, hsig, hspelled⟩ := spelledFrom_serviceBody ht
  obtain ⟨type, htype, hu⟩ := needs_spelledFrom hspelled hu
  exact imported_of_mem (List.mem_cons_of_mem _ (mem_apiUses_of_signature hsigs hsig htype hu))

lemma skeleton_imports : ∃ s, e.skeletonFile v a =
      .ok ⟨⟨.services, [e.versionModule v], e.apiModule a⟩, .skeleton s⟩ ∧
    Covered e.config.modulePath (e.versionModule v) s.uses (s.methods.flatMap methodTypes) ∧
      ∀ t, ∀ u ∈ needs (e.versionModule v) t, Imported e.config.modulePath s.uses u →
        ∃ m ∈ s.methods, ∃ t ∈ methodTypes m, u ∈ needs (e.versionModule v) t := by
  obtain ⟨file, hfile⟩ := succeeds_skeletonFile h hv ha
  obtain ⟨sigs, hsigs, hsource⟩ := bind_eq_ok_iff.1 hfile
  refine ⟨_, hfile.trans hsource.symm, fun t ht u hu => ?_, fun t u hu himported => ?_⟩
  · obtain ⟨m, hm, ht⟩ := List.mem_flatMap.1 ht
    exact (imported_iff_skeleton hu).2 ⟨m, hm, t, ht, hu⟩
  · exact (imported_iff_skeleton hu).1 himported

end Files

/-- The files of models, errors, services and skeletons of an accepted description import what they
spell, whatever kind of run they belong to. -/
theorem validated_file_imports (spec : Spec) (g : Generator) (run : RunKind)
    (h : spec.validate g.naming = .ok ()) : FileImports ⟨spec, g.config, g.naming, run⟩ where
  models _ hv := models_imports (.of_validate h) hv
  errors := errors_imports (.of_validate h)
  services _ hv _ ha := service_imports (.of_validate h) hv ha
  skeletons _ hv _ ha := skeleton_imports (.of_validate h) hv ha

/-- The skeleton of the orders of the shop spells its models and an identifier, and imports both. -/
theorem validated_file_imports_shop :
    shop.validate .standard = .ok () ∧
      ∃ s, (Emission.mk shop .standard .standard .service).skeletonFile shopVersion
          ⟨"orders", [putOrder]⟩ = .ok ⟨⟨.services, ["v1"], "orders"⟩, .skeleton s⟩ ∧
        Covered "crate::spec" "v1" s.uses (s.methods.flatMap methodTypes) := by
  have hvalid : shop.validate .standard = .ok () := by decide +kernel
  have hfiles := validated_file_imports shop ⟨.standard, .standard, fun _ => true⟩ .service hvalid
  obtain ⟨s, hs, hcovered, -⟩ := hfiles.skeletons shopVersion List.mem_cons_self
    ⟨"orders", [putOrder]⟩ List.mem_cons_self
  exact ⟨hvalid, s, hs, hcovered⟩

end ApiCodegen.Proofs
