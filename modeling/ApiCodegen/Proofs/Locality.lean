import ApiCodegen.Proofs.FileSources
import ApiCodegen.Proofs.ModuleTree

/-!
# Regeneration is local

Every emitter sees the whole description, and reads of it what it emits code for, the models of the
version around that, and the error taxonomy. Hence two descriptions with one taxonomy share the
files of a version that they share, whatever their other versions are, and the files of an API that
they share between versions with the same name, URL and models, whatever its siblings are.
-/

namespace ApiCodegen.Proofs

/-- Two versions, in their descriptions, that an API cannot tell apart. -/
structure SameAround (e d : Emission) (v w : Version) : Prop where
  errors : e.spec.httpErrors = d.spec.httpErrors
  config : e.config = d.config
  naming : e.naming = d.naming
  run : e.run = d.run
  name : v.name = w.name
  url : v.url = w.url
  models : v.models = w.models

namespace SameAround

variable {e d : Emission} {v w : Version}

lemma module (h : SameAround e d v w) : e.versionModule v = d.versionModule w := by
  unfold Emission.versionModule
  rw [h.naming, h.name]

lemma apiModule (h : SameAround e d v w) : e.apiModule = d.apiModule := by
  funext a
  unfold Emission.apiModule
  rw [h.naming]

lemma traitName (h : SameAround e d v w) : e.traitName = d.traitName := by
  funext a
  unfold Emission.traitName
  rw [h.naming]

lemma scope (h : SameAround e d v w) :
    Scope.ofVersion v e.spec.httpErrors = Scope.ofVersion w d.spec.httpErrors := by
  unfold Scope.ofVersion
  rw [h.models, h.errors]

lemma urlPrefix (h : SameAround e d v w) : v.urlPrefix = w.urlPrefix := by
  unfold Version.urlPrefix
  rw [h.url, h.name]

lemma model? (h : SameAround e d v w) : v.model? = w.model? := by
  funext name
  unfold Version.model?
  rw [h.models]

lemma signatures (h : SameAround e d v w) (a : Api) : e.signatures v a = d.signatures w a := by
  unfold Emission.signatures
  rw [h.scope, h.module, h.naming]

lemma errorVariants (h : SameAround e d v w) : e.errorVariants = d.errorVariants := by
  unfold Emission.errorVariants
  rw [h.naming, h.errors]

lemma apiUses (h : SameAround e d v w) (a : Api) : e.apiUses v a = d.apiUses w a := by
  unfold Emission.apiUses Api.usesModels
  rw [h.module, h.model?, h.errors]

lemma modelFiles (h : SameAround e d v w) : e.modelFiles v = d.modelFiles w := by
  have huses : e.modelUses v = d.modelUses w := by
    unfold Emission.modelUses
    rw [h.model?, h.models, h.errors]
  unfold Emission.modelFiles
  rw [huses, h.scope, h.module, h.naming, h.models]

lemma clientFile (h : SameAround e d v w) (a : Api) : e.clientFile v a = d.clientFile w a := by
  have huses : e.clientUses v a = d.clientUses w a := by
    funext errors
    unfold Emission.clientUses
    rw [h.apiUses]
  have hmethods : e.clientMethods v a = d.clientMethods w a := by
    funext sigs errors
    unfold Emission.clientMethods
    rw [h.naming, h.urlPrefix]
  unfold Emission.clientFile
  rw [h.signatures, h.errorVariants, huses, hmethods, h.module, h.apiModule, h.naming]

lemma serviceFiles (h : SameAround e d v w) (a : Api) :
    e.serviceFiles v a = d.serviceFiles w a := by
  have hbody : e.serviceBody a = d.serviceBody a := by
    funext sigs
    unfold Emission.serviceBody
    rw [h.naming, h.traitName]
  have hrouter : e.routerCode v a = d.routerCode w a := by
    funext sigs
    unfold Emission.routerCode
    rw [h.traitName, h.urlPrefix]
  have hhandlers : e.handlers v a = d.handlers w a := by
    funext sigs
    unfold Emission.handlers
    rw [h.naming, h.traitName, h.urlPrefix]
  have hdirs : e.apiDirs v a = d.apiDirs w a := by
    unfold Emission.apiDirs
    rw [h.module, h.apiModule]
  unfold Emission.serviceFiles
  rw [h.signatures, h.apiUses, hbody, hrouter, hhandlers, hdirs]

lemma skeletonFile (h : SameAround e d v w) (a : Api) :
    e.skeletonFile v a = d.skeletonFile w a := by
  have huses : e.signatureUses v = d.signatureUses w := by
    funext sigs
    unfold Emission.signatureUses
    rw [h.module]
  unfold Emission.skeletonFile
  rw [h.signatures, huses, h.module, h.apiModule, h.traitName, h.naming]

lemma artifact (h : SameAround e d v w) : e.artifact = d.artifact := by
  funext f
  unfold Emission.artifact Emission.pathText Emission.generatedPath Emission.scaffoldPath
  rw [h.config]

/-- A version that is the same in both descriptions has the same siblings among its APIs too. -/
lemma versionFiles (h : SameAround e d v v) : e.versionFiles v = d.versionFiles v := by
  have hclient : e.clientFile v = d.clientFile v := funext h.clientFile
  have hservice : e.serviceFiles v = d.serviceFiles v := funext h.serviceFiles
  have hapis : e.apiFiles v = d.apiFiles v := by
    unfold Emission.apiFiles
    rw [hclient, hservice, h.run]
  have hmodules : e.versionModules v = d.versionModules v := by
    unfold Emission.versionModules
    rw [h.run, h.apiModule]
  unfold Emission.versionFiles
  rw [h.modelFiles, hapis, hmodules, h.module]

end SameAround

/-! ### Units -/

/-- What a run of a generator on a description sees. -/
abbrev runOf (g : Generator) (spec : Spec) (run : RunKind) : Emission :=
  ⟨spec, g.config, g.naming, run⟩

/-- The artifacts of the files of a version, its skeletons apart. -/
def versionUnit (e : Emission) (v : Version) : Except Fault (List Artifact) := do
  let files ← e.versionFiles v
  files.mapM e.artifact

/-- The files of an API: its client, or its service with its routing and its skeleton. -/
def apiOutput (e : Emission) (v : Version) (a : Api) : Except Fault (List TreeFile) :=
  match e.run with
  | .models => .ok []
  | .client => (e.clientFile v a).map fun file => [file]
  | .service => do
    let files ← e.serviceFiles v a
    let skeleton ← e.skeletonFile v a
    return files ++ [skeleton]

/-- The artifacts of the files of an API. -/
def apiUnit (e : Emission) (v : Version) (a : Api) : Except Fault (List Artifact) := do
  let files ← apiOutput e v a
  files.mapM e.artifact

section Units

variable {e d : Emission} {v w : Version} {a : Api}

lemma versionUnit_congr (h : SameAround e d v v) : versionUnit e v = versionUnit d v := by
  unfold versionUnit
  rw [h.versionFiles, h.artifact]

lemma apiUnit_congr (h : SameAround e d v w) (a : Api) : apiUnit e v a = apiUnit d w a := by
  unfold apiUnit apiOutput
  rw [h.run, h.clientFile, h.serviceFiles, h.skeletonFile, h.artifact]

lemma infix_of_mapM {α β : Type} {f : α → Except Fault β} {as part : List α} {bs : List β}
    (h : as.mapM f = .ok bs) (hpart : part <:+: as) :
    ∃ results, part.mapM f = .ok results ∧ results <:+: bs := by
  obtain ⟨before, after, rfl⟩ := hpart
  rw [List.mapM_append, List.mapM_append] at h
  obtain ⟨front, hfront, h⟩ := bind_eq_ok_iff.1 h
  obtain ⟨rest, -, h⟩ := bind_eq_ok_iff.1 h
  cases h
  obtain ⟨first, -, hfront⟩ := bind_eq_ok_iff.1 hfront
  obtain ⟨results, hresults, hfront⟩ := bind_eq_ok_iff.1 hfront
  cases hfront
  exact ⟨results, hresults, List.infix_append first results rest⟩

/-- The artifacts of a version stand in the output of a run in one piece. -/
lemma versionUnit_infix {files : List TreeFile} {artifacts : List Artifact}
    (hfiles : e.files = .ok files) (hartifacts : files.mapM e.artifact = .ok artifacts)
    (hv : v ∈ e.versions) : ∃ unit, versionUnit e v = .ok unit ∧ unit <:+: artifacts := by
  obtain ⟨errors, versions, skeletons, hgroups⟩ := exists_groups hfiles
  obtain ⟨group, hmem, hgroup⟩ := exists_mem_of_mapM hgroups.versionFiles hv
  have hinfix : group <:+: files := by
    rw [hgroups.all]
    exact (List.infix_of_mem_flatten hmem).trans (List.infix_append _ _ _)
  obtain ⟨unit, hunit, hpiece⟩ := infix_of_mapM hartifacts hinfix
  exact ⟨unit, bind_eq_ok_iff.2 ⟨group, hgroup, hunit⟩, hpiece⟩

lemma mem_apiOutput {files : List TreeFile} (hv : v ∈ e.spec.versions) (ha : a ∈ v.apis)
    (h : apiOutput e v a = .ok files) : ∀ f ∈ files, Emitted e f := by
  intro f hf
  unfold apiOutput at h
  cases hrun : e.run with
  | models =>
    rw [hrun] at h
    cases h
    cases hf
  | client =>
    rw [hrun] at h
    obtain ⟨file, hfile, rfl⟩ := map_eq_ok_iff.1 h
    obtain rfl := List.mem_singleton.1 hf
    exact .client hrun (mem_versions_iff.2 ⟨hv, emitted_of_run (by rw [hrun]; decide)⟩) ha hfile
  | service =>
    rw [hrun] at h
    obtain ⟨service, hservice, h⟩ := bind_eq_ok_iff.1 h
    obtain ⟨skeleton, hskeleton, h⟩ := bind_eq_ok_iff.1 h
    cases h
    rcases List.mem_append.1 hf with hf | hf
    · exact .service hrun (mem_versions_iff.2 ⟨hv, emitted_of_service hrun⟩) ha hservice hf
    · obtain rfl := List.mem_singleton.1 hf
      exact .skeleton hrun hv ha hskeleton

lemma succeeds_apiOutput (h : SpecRules e.spec e.naming) (hv : v ∈ e.spec.versions)
    (ha : a ∈ v.apis) : Succeeds (apiOutput e v a) := by
  unfold apiOutput
  cases e.run with
  | models => exact Succeeds.ok []
  | client => exact succeeds_map_iff.2 (succeeds_clientFile h hv ha)
  | service =>
    apply (succeeds_serviceFiles h hv ha).bind
    intro files _
    apply (succeeds_skeletonFile h hv ha).bind
    intro skeleton _
    exact Succeeds.pure _

/-- The artifacts of an API are in the output of a run. -/
lemma apiUnit_subset (h : SpecRules e.spec e.naming) {files : List TreeFile}
    {artifacts : List Artifact} (hfiles : e.files = .ok files)
    (hartifacts : files.mapM e.artifact = .ok artifacts) (hv : v ∈ e.spec.versions)
    (ha : a ∈ v.apis) : ∃ unit, apiUnit e v a = .ok unit ∧ unit ⊆ artifacts := by
  obtain ⟨output, houtput⟩ := succeeds_apiOutput h hv ha
  obtain ⟨unit, hunit⟩ := Succeeds.mapM fun f (_ : f ∈ output) => succeeds_artifact e f
  refine ⟨unit, bind_eq_ok_iff.2 ⟨output, houtput, hunit⟩, fun artifact hartifact => ?_⟩
  obtain ⟨f, hf, hwritten⟩ := (mem_mapM_iff hunit).1 hartifact
  have hmem : f ∈ files := (mem_files_iff hfiles).2 (mem_apiOutput hv ha houtput f hf)
  exact (mem_mapM_iff hartifacts).2 ⟨f, hmem, hwritten⟩

end Units

/-- Two runs give the same files for the versions, and for the APIs, that they share. -/
structure AgreeOnShared (g : Generator) (run : RunKind) (s t : Spec) : Prop where
  version : ∀ v ∈ s.versions, v ∈ t.versions →
    versionUnit (runOf g s run) v = versionUnit (runOf g t run) v
  api : ∀ v ∈ s.versions, ∀ w ∈ t.versions, v.name = w.name → v.url = w.url →
    v.models = w.models → ∀ a ∈ v.apis, a ∈ w.apis →
      apiUnit (runOf g s run) v a = apiUnit (runOf g t run) w a
  /-- In what both runs give, the files of a version stand in one piece. -/
  versionFiles : ∀ before after, g.generate s run = .ok before → g.generate t run = .ok after →
    ∀ v ∈ (runOf g s run).versions, v ∈ (runOf g t run).versions →
      ∃ unit, versionUnit (runOf g s run) v = .ok unit ∧ unit <:+: before.files ∧
        unit <:+: after.files
  apiFiles : ∀ before after, g.generate s run = .ok before → g.generate t run = .ok after →
    ∀ v ∈ s.versions, ∀ w ∈ t.versions, v.name = w.name → v.url = w.url → v.models = w.models →
      ∀ a ∈ v.apis, a ∈ w.apis →
        ∃ unit, apiUnit (runOf g s run) v a = .ok unit ∧ unit ⊆ before.files ∧ unit ⊆ after.files

/-- Under one error taxonomy, one configuration and one naming, the files of a version do not depend
on the other versions, and those of an API not on its siblings. -/
theorem regeneration_local {s t : Spec} (herrors : s.httpErrors = t.httpErrors) (g : Generator)
    (run : RunKind) : AgreeOnShared g run s t := by
  have hsame : ∀ {v w : Version}, v.name = w.name → v.url = w.url → v.models = w.models →
      SameAround (runOf g s run) (runOf g t run) v w :=
    fun hname hurl hmodels => ⟨herrors, rfl, rfl, rfl, hname, hurl, hmodels⟩
  have hversion : ∀ v, versionUnit (runOf g s run) v = versionUnit (runOf g t run) v :=
    fun v => versionUnit_congr (hsame rfl rfl rfl)
  constructor
  · intro v _ _
    exact hversion v
  · intro v _ w _ hname hurl hmodels a _ _
    exact apiUnit_congr (hsame hname hurl hmodels) a
  · intro before after hbefore hafter v hv hv'
    obtain ⟨files, hfiles, hartifacts, -⟩ := files_of_generate hbefore
    obtain ⟨files', hfiles', hartifacts', -⟩ := files_of_generate hafter
    obtain ⟨unit, hunit, hinfix⟩ := versionUnit_infix hfiles hartifacts hv
    obtain ⟨unit', hunit', hinfix'⟩ := versionUnit_infix hfiles' hartifacts' hv'
    rw [← hversion v, hunit, Except.ok.injEq] at hunit'
    exact ⟨unit, hunit, hinfix, hunit' ▸ hinfix'⟩
  · intro before after hbefore hafter v hv w hw hname hurl hmodels a ha ha'
    obtain ⟨files, hfiles, hartifacts, -⟩ := files_of_generate hbefore
    obtain ⟨files', hfiles', hartifacts', -⟩ := files_of_generate hafter
    have hrules : SpecRules s g.naming := .of_validate (check_bind_eq_ok_iff.1 hbefore).1
    have hrules' : SpecRules t g.naming := .of_validate (check_bind_eq_ok_iff.1 hafter).1
    obtain ⟨unit, hunit, hsubset⟩ := apiUnit_subset hrules hfiles hartifacts hv ha
    obtain ⟨unit', hunit', hsubset'⟩ := apiUnit_subset hrules' hfiles' hartifacts' hw ha'
    rw [← apiUnit_congr (hsame hname hurl hmodels) a, hunit, Except.ok.injEq] at hunit'
    exact ⟨unit, hunit, hsubset, hunit' ▸ hsubset'⟩

/-- The first version of the shop with a sibling for its orders. -/
def grownVersion : Version := { shopVersion with apis := ⟨"stock", []⟩ :: shopVersion.apis }

/-- The shop with a second version before the first. -/
def grownShop : Spec := { shop with versions := [⟨"v2", some "/second", [], []⟩, grownVersion] }

/-- The orders keep their files while the shop grows around them. -/
theorem regeneration_local_shop :
    shop.httpErrors = grownShop.httpErrors ∧ shop.validate .standard = .ok () ∧
      grownShop.validate .standard = .ok () ∧
      apiUnit (runOf ⟨.standard, .standard, fun _ => true⟩ shop .service) shopVersion
          ⟨"orders", [putOrder]⟩ =
        apiUnit (runOf ⟨.standard, .standard, fun _ => true⟩ grownShop .service) grownVersion
          ⟨"orders", [putOrder]⟩ := by
  have herrors : shop.httpErrors = grownShop.httpErrors := rfl
  have hlocal := regeneration_local herrors ⟨.standard, .standard, fun _ => true⟩ .service
  have hversion : grownVersion ∈ grownShop.versions := List.mem_cons_of_mem _ List.mem_cons_self
  have hapi : ⟨"orders", [putOrder]⟩ ∈ grownVersion.apis :=
    List.mem_cons_of_mem _ List.mem_cons_self
  exact ⟨herrors, by decide +kernel, by decide +kernel,
    hlocal.api shopVersion List.mem_cons_self grownVersion hversion rfl rfl rfl _
      List.mem_cons_self hapi⟩

end ApiCodegen.Proofs
