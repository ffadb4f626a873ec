import ApiCodegen.Proofs.FileImports
import ApiCodegen.Proofs.FileSources
import ApiCodegen.Proofs.ModuleTree
import Mathlib.Data.List.Induction

/-!
# Imports inside the generated tree

A file of a run imports modules of the same run, and items that those declare. `Available` says what
there is to import; each emitter imports nothing else, and what is available is found in the tree.
The conditions of the imports are those of single APIs, the conditions of the modules those of the
description and of the run.
-/

namespace ApiCodegen.Proofs

/-! ### Items of files -/

/-- What stands before the name of a public item. -/
def publicKeywords : List String := ["pub struct ", "pub enum ", "pub trait ", "pub fn "]

/-- The lines of code that start at its own margin. -/
def outerLines : Code → List Line
  | .nothing | .blank | .doc _ => []
  | .line l | .arm l => [l]
  | .block _ head _ close => [head, close]
  | .hanging head _ close => head :: close.toList
  | .stray s => s.lines
  | .seq first second => outerLines first ++ outerLines second

/-- The public item that a line declares. -/
def publicItem? : Line → Option String
  | .text keyword :: .declares name :: _ =>
    if publicKeywords.contains keyword then some name else none
  | _ => none

/-- The public items of code. -/
def publicItems (c : Code) : List String := (outerLines c).filterMap publicItem?

/-- The public item that a line of text declares. -/
def publicItemOfText? (line : String) : Option String :=
  (publicKeywords.find? fun keyword => keyword.toList.isPrefixOf line.toList).map fun keyword =>
    String.ofList ((line.toList.drop keyword.length).takeWhile TypeExpr.isNameChar)

/-- The public items of lines of text. -/
def publicItemsOfText (lines : List String) : List String := lines.filterMap publicItemOfText?

/-- The public items of a file. -/
def fileItems (f : TreeFile) : List String :=
  match f.content with
  | .support lines => publicItemsOfText lines
  | .source s => publicItems s.body
  | .index _ | .skeleton _ => []

lemma mem_publicItems_append {name : String} {a b : Code} :
    name ∈ publicItems (a ++ b) ↔ name ∈ publicItems a ∨ name ∈ publicItems b := by
  have hlines : outerLines (a ++ b) = outerLines a ++ outerLines b := rfl
  unfold publicItems
  rw [hlines, List.filterMap_append, List.mem_append]

lemma mem_publicItems_braces {keyword name : String} {rest : Line} {body : Code}
    (hkeyword : keyword ∈ publicKeywords) :
    name ∈ publicItems (.braces (.text keyword :: .declares name :: rest) body) := by
  have hitem : publicItem? (.text keyword :: .declares name :: rest) = some name := by
    simp only [publicItem?]
    rw [if_pos (List.contains_iff_mem.2 hkeyword)]
  exact List.mem_filterMap.2 ⟨_, List.mem_cons_self, hitem⟩

/-- The items of support modules that other files name. -/
structure SupportItems : Prop where
  empty : "Empty" ∈ publicItemsOfText Support.emptyModule
  badRequest : "BadRequestError" ∈ publicItemsOfText Support.errorModelsModule
  errorLocation : "ErrorLocation" ∈ publicItemsOfText Support.errorModelsModule
  parser : "ParamsParser" ∈ publicItemsOfText Support.paramsModule
  writer : "ParamsWriter" ∈ publicItemsOfText Support.paramsModule
  logFields : "LogFields" ∈ publicItemsOfText Support.respondModule

lemma mem_publicItemsOfText {line item : String} {lines : List String} (hline : line ∈ lines)
    (hitem : publicItemOfText? line = some item) : item ∈ publicItemsOfText lines :=
  List.mem_filterMap.2 ⟨line, hline, hitem⟩

lemma supportItems : SupportItems := by
  have hempty : "pub struct Empty;" ∈ Support.emptyModule := by decide +kernel
  have hbadRequest : "pub struct BadRequestError \x7b" ∈ Support.errorModelsModule := by
    decide +kernel
  have herrorLocation : "pub enum ErrorLocation \x7b" ∈ Support.errorModelsModule := by
    decide +kernel
  have hparser : "pub struct ParamsParser \x7b" ∈ Support.paramsModule := by decide +kernel
  have hwriter : "pub struct ParamsWriter \x7b" ∈ Support.paramsModule := by decide +kernel
  have hlogFields : "pub struct LogFields \x7b" ∈ Support.respondModule := by decide +kernel
  constructor
  · exact mem_publicItemsOfText hempty (by decide +kernel)
  · exact mem_publicItemsOfText hbadRequest (by decide +kernel)
  · exact mem_publicItemsOfText herrorLocation (by decide +kernel)
  · exact mem_publicItemsOfText hparser (by decide +kernel)
  · exact mem_publicItemsOfText hwriter (by decide +kernel)
  · exact mem_publicItemsOfText hlogFields (by decide +kernel)

/-! ### Imports of files -/

/-- The items that an import names, the module itself left out. -/
def importedItems : UseTarget → List String
  | .module | .everything => []
  | .name s => [s]
  | .names ss => ss.filter (· ≠ "self")

/-- The imports that a file declares. -/
def fileUses (f : TreeFile) : List UsePath :=
  match f.content with
  | .source s => s.uses
  | .skeleton s => s.uses
  | .support _ | .index _ => []

/-- The module at a path below the generated root is among the files: the indexes on the way list
one module after the other, and the last is a file or the index of a directory, which declares the
items. -/
structure Finds (files : List TreeFile) (modules items : List String) : Prop where
  listed : ∀ dirs m, dirs ++ [m] <+: modules → Lists files .generated dirs m
  declared : ∃ f ∈ files, (∀ item ∈ items, item ∈ fileItems f) ∧
    (f.path = .ofDirectory .generated modules ∨
      ∃ dirs m, modules = dirs ++ [m] ∧ f.path = ⟨.generated, dirs, m⟩)

/-- What a file of a run can import. -/
inductive Available (e : Emission) : UsePath → Prop
  | external (path : String) : Available e (.external path)
  | support {m : SupportModule} {target : UseTarget} (hm : m ∈ e.supportModules)
    (hitems : ∀ item ∈ importedItems target, item ∈ publicItemsOfText m.lines) :
    Available e (.internal [m.name] target)
  | errors : Available e (.internal ["errors"] .module)
  | clientError (hrun : e.run = .client) : Available e (.internal ["errors"] (.name "ClientError"))
  | serviceError (hrun : e.run = .service) :
    Available e (.internal ["errors"] (.name "ServiceError"))
  | models {v : Version} (hv : v ∈ e.spec.versions) (hmodels : v.models ≠ []) :
    Available e (modelsUse (e.versionModule v))
  | service {v : Version} {a : Api} (hrun : e.run = .service) (hv : v ∈ e.spec.versions)
    (ha : a ∈ v.apis) : Available e (.internal (e.apiDirs v a) .everything)

section Emitters

variable {e : Emission} {v : Version} {a : Api} {u : UsePath}

/-- Every run has the module of values without content and that of the standard error models. -/
lemma shared_mem_supportModules (e : Emission) :
    .empty ∈ e.supportModules ∧ .errorModels ∈ e.supportModules := by
  unfold Emission.supportModules
  cases e.run with
  | models => simp
  | client => simp
  | service => simp

lemma available_standard (e : Emission) : Available e standardUse :=
  .support (m := .errorModels) (shared_mem_supportModules e).2 nofun

lemma available_primitive {p : Primitive} (h : primitiveUse? p = some u) : Available e u := by
  cases p with
  | decimal | date | datetime | uuid =>
    cases h
    exact .external _
  | empty =>
    cases h
    refine .support (m := .empty) (shared_mem_supportModules e).1 ?_
    exact List.forall_mem_singleton.2 supportItems.empty
  | string | int32 | int64 | float | double | boolean | json => cases h

lemma available_typeUses {uses : Primitive → Bool} {usesMap : Bool}
    (h : u ∈ typeUses uses usesMap) :
    Available e u := by
  rcases mem_typeUses_iff.1 h with ⟨p, -, hp⟩ | ⟨-, rfl⟩
  · exact available_primitive hp
  · exact .external _

lemma available_apiUses (hv : v ∈ e.spec.versions) (h : u ∈ e.apiUses v a) : Available e u := by
  rcases mem_apiUses_iff.1 h with ⟨hmodels, rfl⟩ | ⟨-, rfl⟩ | ⟨-, rfl⟩ | ⟨p, -, hp⟩ | ⟨-, rfl⟩
  · obtain ⟨t, -, hfound⟩ := api_usesModels_iff.1 hmodels
    refine .models hv fun hnone => ?_
    rw [Version.model?, hnone] at hfound
    cases hfound
  · exact .errors
  · exact available_standard e
  · exact available_primitive hp
  · exact .external _

lemma available_modelUses (h : u ∈ e.modelUses v) : Available e u := by
  unfold Emission.modelUses at h
  simp only [List.mem_append, List.mem_singleton, mem_useIf_iff] at h
  rcases h with ((rfl | ⟨-, rfl⟩) | ⟨-, rfl⟩) | h
  · exact .external _
  · exact .errors
  · exact available_standard e
  · exact available_typeUses h

lemma available_errorUses (h : u ∈ e.errorUses) : Available e u := by
  unfold Emission.errorUses at h
  simp only [List.mem_append, mem_useIf_iff] at h
  rcases h with ((⟨-, rfl⟩ | ⟨-, rfl⟩) | h) | h
  · exact .external _
  · exact available_standard e
  · cases hrun : e.run with
    | models =>
      rw [hrun] at h
      cases h
    | client =>
      rw [hrun] at h
      obtain rfl := List.mem_singleton.1 h
      refine .support (m := .response) ?_ nofun
      simp [Emission.supportModules, hrun]
    | service =>
      rw [hrun] at h
      have hrespond : .respond ∈ e.supportModules := by simp [Emission.supportModules, hrun]
      rcases List.mem_cons.1 h with rfl | h
      · exact .support hrespond (List.forall_mem_singleton.2 supportItems.logFields)
      · obtain rfl := List.mem_singleton.1 h
        exact .external _
  · exact available_typeUses h

lemma available_clientUses {errors : List ErrorVariant} (hrun : e.run = .client)
    (hv : v ∈ e.spec.versions) (h : u ∈ e.clientUses v a errors) : Available e u := by
  have hresponse : .response ∈ e.supportModules := by simp [Emission.supportModules, hrun]
  have hparams : .params ∈ e.supportModules := by simp [Emission.supportModules, hrun]
  rcases mem_clientUses_iff.1 h with (rfl | rfl | rfl) | ⟨-, rfl⟩ | ⟨-, rfl⟩ | h
  · exact available_standard e
  · exact .clientError hrun
  · exact .support hresponse nofun
  · exact .errors
  · exact .support hparams (List.forall_mem_singleton.2 supportItems.writer)
  · exact available_apiUses hv h

/-- The module of forms is emitted for the whole description if one API reads forms. -/
lemma form_mem_supportModules (hrun : e.run = .service) (hv : v ∈ e.spec.versions)
    (ha : a ∈ v.apis)
    (h : ((HandlerNeeds.ofApi a).multipart || (HandlerNeeds.ofApi a).urlEncodedFields) = true) :
    .form ∈ e.supportModules := by
  have hreads : e.readsForms = true := by
    unfold Emission.readsForms
    rw [Bool.or_eq_true] at h ⊢
    rcases h with hmultipart | hfields
    · exact Or.inl (spec_hasBody_iff.2 ⟨v, hv, a, ha, hmultipart⟩)
    · obtain ⟨o, ho, hbody⟩ := List.any_eq_true.1 hfields
      have hkind : o.body.kind = .formUrlEncoded := by
        cases hshape : o.body with
        | formUrlEncoded params => rfl
        | empty | rawString _ | json _ _ | formData _ =>
          rw [hshape] at hbody
          cases hbody
      exact Or.inr (spec_hasBody_iff.2 ⟨v, hv, a, ha, api_hasBody_iff.2 ⟨o, ho, hkind⟩⟩)
  simp [Emission.supportModules, hrun, hreads]

lemma available_handlerUses (hrun : e.run = .service) (hv : v ∈ e.spec.versions) (ha : a ∈ v.apis)
    (h : u ∈ (HandlerNeeds.ofApi a).uses) : Available e u := by
  have hservice : ∀ m ∈ [.contentType, .convert, .json, .params, .respond],
      m ∈ e.supportModules := by
    simp [Emission.supportModules, hrun]
  simp only [List.forall_mem_cons] at hservice
  obtain ⟨hcontentType, hconvert, hjson, hparams, hrespond, -⟩ := hservice
  have herrorModels := (shared_mem_supportModules e).2
  unfold HandlerNeeds.uses at h
  simp only [List.mem_append, List.mem_cons, List.not_mem_nil, or_false, mem_useIf_iff,
    or_assoc] at h
  rcases h with rfl | rfl | ⟨-, rfl⟩ | ⟨-, rfl⟩ | ⟨-, rfl⟩ | ⟨-, rfl⟩ | ⟨-, rfl⟩ | ⟨hform, rfl⟩ |
    rfl | rfl | rfl | rfl | ⟨-, rfl⟩ | ⟨-, rfl⟩ | ⟨-, rfl⟩ | ⟨-, rfl⟩ | ⟨-, rfl⟩ | ⟨-, rfl⟩ | rfl
  · exact .errors
  · exact .support hrespond (List.forall_mem_singleton.2 supportItems.logFields)
  · exact .support hparams (List.forall_mem_singleton.2 supportItems.parser)
  · refine .support herrorModels (List.forall_mem_cons.2 ⟨supportItems.badRequest, ?_⟩)
    exact List.forall_mem_singleton.2 supportItems.errorLocation
  · exact .support hconvert nofun
  · exact .support hcontentType nofun
  · exact .support hjson nofun
  · exact .support (form_mem_supportModules hrun hv ha hform) nofun
  all_goals exact .external _

lemma types_subset (sig : Signature) : sig.types ⊆ signatureTypes sig := by
  have hbody : argumentTypes sig.body ⊆ bodyTypes sig.body := by
    cases sig.body with
    | json _ => exact List.Subset.refl _
    | none | text | form _ _ _ => exact List.nil_subset _
  have hresult : resultTypes sig.returns ⊆
      sig.returns.variants.flatMap fun v => payloadTypes v.payload := by
    cases sig.returns with
    | multiple _ _ => exact List.nil_subset _
    | single variant =>
      intro type htype
      exact List.mem_flatMap.2 ⟨variant, List.mem_cons_self, htype⟩
  intro type htype
  rw [types_eq, List.mem_append, List.mem_append] at htype
  unfold signatureTypes
  rw [List.mem_append, List.mem_append]
  exact htype.imp (Or.imp_left fun h => hbody h) fun h => hresult h

/-- What a skeleton imports for its types, its service imports as well. -/
lemma available_signatureUses {sigs : List Signature} (hv : v ∈ e.spec.versions)
    (hsigs : e.signatures v a = .ok sigs) (h : u ∈ e.signatureUses v sigs) : Available e u := by
  obtain ⟨m, hm, hneeds⟩ := mem_signatureUses_iff.1 h
  obtain ⟨sig, hsig, rfl⟩ := List.mem_map.1 hm
  obtain ⟨type, htype, hu⟩ := needs_skeletonMethod.1 hneeds
  exact available_apiUses hv (mem_apiUses_of_signature hsigs hsig (types_subset sig htype) hu)

end Emitters

/-! ### Files of a run -/

lemma available_of_emitted {e : Emission} {f : TreeFile} (hf : Emitted e f) {u : UsePath}
    (hu : u ∈ fileUses f) : Available e u := by
  cases hf with
  | rootIndex | support hm | versionIndex hv | skeletonIndex hrun | versionSkeletonIndex hrun hv =>
    cases hu
  | errors hf =>
    obtain ⟨body, rfl⟩ := errorFile_source hf
    exact available_errorUses hu
  | router hrun =>
    rcases List.mem_cons.1 hu with rfl | hu
    · exact .external _
    · obtain ⟨-, rfl⟩ := mem_useIf_iff.1 hu
      exact .external _
  | models hv hfiles hf =>
    obtain ⟨body, rfl⟩ := modelFiles_source hfiles hf
    exact available_modelUses hu
  | client hrun hv ha hf =>
    obtain ⟨errors, body, rfl⟩ := clientFile_source hf
    exact available_clientUses hrun (mem_versions_iff.1 hv).1 hu
  | service hrun hv ha hfiles hf =>
    obtain ⟨sigs, -, rfl⟩ := serviceFiles_source hfiles
    have hspec := (mem_versions_iff.1 hv).1
    rcases List.mem_cons.1 hf with rfl | hf
    · rcases List.mem_cons.1 hu with rfl | hu
      · exact .serviceError hrun
      · exact available_apiUses hspec hu
    · obtain rfl := List.mem_singleton.1 hf
      exact available_handlerUses hrun hspec ha hu
  | skeleton hrun hv ha hf =>
    obtain ⟨sigs, methods, hsigs, rfl⟩ := skeletonFile_source hf
    rcases List.mem_append.1 hu with hu | hu
    · rcases List.mem_cons.1 hu with rfl | hu
      · exact .serviceError hrun
      · obtain rfl := List.mem_singleton.1 hu
        exact .service hrun hv ha
    · exact available_signatureUses hv hsigs hu

/-! ### What is available is found -/

section Found

variable {e : Emission} {files : List TreeFile} {v : Version} {a : Api}

/-- The way to a module goes through modules. -/
lemma Member.of_prefix {area : TreeArea} {dirs before : List String} {m d : String}
    (h : Member e area dirs m) (hbefore : before ++ [d] <+: dirs ++ [m]) :
    Member e area before d := by
  induction dirs using List.reverseRecOn generalizing m with
  | nil =>
    rcases List.prefix_concat_iff.1 hbefore with heq | hnil
    · obtain ⟨rfl, hlast⟩ := List.append_inj' heq rfl
      obtain rfl := List.head_eq_of_cons_eq hlast
      exact h
    · exact absurd (List.prefix_nil.1 hnil) (List.concat_ne_nil d before)
  | append_singleton dirs last ih =>
    rcases List.prefix_concat_iff.1 hbefore with heq | hinner
    · obtain ⟨rfl, hlast⟩ := List.append_inj' heq rfl
      obtain rfl := List.head_eq_of_cons_eq hlast
      exact h
    · exact ih h.parent hinner

lemma finds_of_member (hfiles : e.files = .ok files) {dirs items : List String} {m : String}
    (hmember : Member e .generated dirs m) {f : TreeFile} (hf : Emitted e f)
    (hpath : f.path = ⟨.generated, dirs, m⟩ ∨ f.path = .ofDirectory .generated (dirs ++ [m]))
    (hitems : ∀ item ∈ items, item ∈ fileItems f) : Finds files (dirs ++ [m]) items := by
  constructor
  · intro before d hbefore
    exact (lists_iff_member (files_places hfiles)).2 (hmember.of_prefix hbefore)
  · refine ⟨f, (mem_files_iff hfiles).2 hf, hitems, ?_⟩
    rcases hpath with hpath | hpath
    · exact Or.inr ⟨dirs, m, rfl, hpath⟩
    · exact Or.inl hpath

lemma Finds.mono {modules items more : List String} (hfinds : Finds files modules more)
    (hitems : items ⊆ more) : Finds files modules items := by
  obtain ⟨f, hf, hdeclared, hpath⟩ := hfinds.declared
  exact ⟨hfinds.listed, f, hf, fun item hitem => hdeclared item (hitems hitem), hpath⟩

variable (h : SpecRules e.spec e.naming)

include h

/-- The error file declares the error type of its run. -/
lemma exists_errors : ∃ f, Emitted e f ∧ f.path = ⟨.generated, [], "errors"⟩ ∧
    (e.run = .client → "ClientError" ∈ fileItems f) ∧
    (e.run = .service → "ServiceError" ∈ fileItems f) := by
  obtain ⟨f, hf⟩ := succeeds_errorFile h
  have hemitted : Emitted e f := .errors hf
  obtain ⟨variants, -, hf⟩ := bind_eq_ok_iff.1 hf
  obtain ⟨models, -, hf⟩ := bind_eq_ok_iff.1 hf
  cases hf
  refine ⟨_, hemitted, rfl, fun hrun => ?_, fun hrun => ?_⟩
  · have hitem : "ClientError" ∈ publicItems (clientErrorCode e.naming variants) :=
      mem_publicItems_append.2 (Or.inr (mem_publicItems_braces (by decide)))
    refine mem_publicItems_append.2 (Or.inr ?_)
    rw [Emission.errorTypeCode, hrun]
    exact hitem
  · have hitem : "ServiceError" ∈ publicItems (serviceErrorCode e.naming variants) := by
      have hkeyword : "pub enum " ∈ publicKeywords := by decide
      unfold serviceErrorCode
      simp only [Code.ofCalls_eq_finish, List.foldl_cons, List.foldl_nil, Draft.call_code,
        Draft.call_opening, Draft.call_brace, Draft.append_none, Draft.append_some,
        Draft.finish_mk, Option.getD_some, mem_publicItems_append,
        mem_publicItems_braces hkeyword, true_or, or_true]
    refine mem_publicItems_append.2 (Or.inr ?_)
    rw [Emission.errorTypeCode, hrun]
    exact hitem

lemma exists_models (hv : v ∈ e.spec.versions) (hmodels : v.models ≠ []) :
    ∃ f, e.modelFiles v = .ok [f] ∧ Emitted e f ∧
      f.path = ⟨.generated, [e.versionModule v], "models"⟩ := by
  obtain ⟨group, hgroup⟩ := succeeds_modelFiles h hv
  have hplaces := modelFiles_places hgroup
  have hsome : v.models.isEmpty = false := by simpa using hmodels
  rw [modelPlaces, hsome, if_neg Bool.false_ne_true, List.map_eq_singleton_iff] at hplaces
  obtain ⟨f, rfl, hplace⟩ := hplaces
  have hversion := mem_versions_iff.2 ⟨hv, fun _ => hmodels⟩
  exact ⟨f, hgroup, .models hversion hgroup List.mem_cons_self, congrArg Prod.fst hplace⟩

/-- The module of an API declares its trait, and the module of its routing its router. -/
lemma exists_service (hrun : e.run = .service) (hv : v ∈ e.spec.versions) (ha : a ∈ v.apis) :
    ∃ service routing, Emitted e service ∧ Emitted e routing ∧
      service.path = .ofDirectory .generated (e.apiDirs v a) ∧
      routing.path = ⟨.generated, e.apiDirs v a, "routing"⟩ ∧
      e.traitName a ∈ fileItems service ∧ "routes" ∈ fileItems routing := by
  have hversion := mem_versions_iff.2 ⟨hv, emitted_of_service hrun⟩
  obtain ⟨group, hgroup⟩ := succeeds_serviceFiles h hv ha
  have hemitted : ∀ f ∈ group, Emitted e f := fun f hf => .service hrun hversion ha hgroup hf
  obtain ⟨sigs, -, rfl⟩ := serviceFiles_source hgroup
  refine ⟨_, _, hemitted _ List.mem_cons_self,
    hemitted _ (List.mem_cons_of_mem _ List.mem_cons_self), rfl, rfl, ?_, ?_⟩
  · exact mem_publicItems_append.2 (Or.inr (mem_publicItems_braces (by decide)))
  · refine mem_publicItems_append.2 (Or.inl ?_)
    exact mem_publicItems_append.2 (Or.inr (mem_publicItems_braces (by decide)))

lemma finds_service (hfiles : e.files = .ok files) (hrun : e.run = .service)
    (hv : v ∈ e.spec.versions) (ha : a ∈ v.apis) : Finds files (e.apiDirs v a) [e.traitName a] := by
  obtain ⟨service, routing, hservice, -, hpath, -, htrait, -⟩ := exists_service h hrun hv ha
  have hmember : Member e .generated [e.versionModule v] (e.apiModule a) :=
    .api hv ha (by rw [hrun]; decide)
  exact finds_of_member hfiles hmember hservice (Or.inr hpath) (List.forall_mem_singleton.2 htrait)

lemma finds_routing (hfiles : e.files = .ok files) (hrun : e.run = .service)
    (hv : v ∈ e.spec.versions) (ha : a ∈ v.apis) :
    Finds files (e.apiDirs v a ++ ["routing"]) ["routes"] := by
  obtain ⟨service, routing, -, hrouting, -, hpath, -, hroutes⟩ := exists_service h hrun hv ha
  have hmember : Member e .generated (e.apiDirs v a) "routing" := .apiRouting hv ha hrun
  exact finds_of_member hfiles hmember hrouting (Or.inl hpath) (List.forall_mem_singleton.2 hroutes)

/-- What is available is found. -/
lemma Available.finds (hfiles : e.files = .ok files) {modules : List String} {target : UseTarget}
    (havailable : Available e (.internal modules target)) :
    Finds files modules (importedItems target) := by
  obtain ⟨errors, herrors, hpath, hclient, hservice⟩ := exists_errors h
  cases havailable with
  | @support m _ hm hitems =>
    have hmember : Member e .generated [] m.name := .support hm
    exact finds_of_member hfiles hmember (.support hm) (Or.inl rfl) hitems
  | errors => exact finds_of_member hfiles .errors herrors (Or.inl hpath) nofun
  | clientError hrun =>
    refine finds_of_member hfiles .errors herrors (Or.inl hpath) ?_
    exact List.forall_mem_singleton.2 (hclient hrun)
  | serviceError hrun =>
    refine finds_of_member hfiles .errors herrors (Or.inl hpath) ?_
    exact List.forall_mem_singleton.2 (hservice hrun)
  | models hv hmodels =>
    obtain ⟨f, -, hf, hpath⟩ := exists_models h hv hmodels
    exact finds_of_member hfiles (.models hv hmodels) hf (Or.inl hpath) nofun
  | service hrun hv ha => exact (finds_service h hfiles hrun hv ha).mono (List.nil_subset _)

end Found

/-! ### The paths of the root router -/

lemma modulePath_concat (root m : String) (modules : List String) :
    modulePath (root :: (modules ++ [m])) = modulePath (root :: modules) ++ "::" ++ m := by
  unfold modulePath
  rw [← List.cons_append, String.intercalate_append_of_ne_nil (List.cons_ne_nil _ _)
    (List.cons_ne_nil _ _), String.intercalate_singleton]

lemma render_formalLine (root : String) (m : Emission.MergedApi) :
    (m.formalLine root).render = m.binding ++ ": Arc<dyn " ++
      (UsePath.internal m.modules (.name m.traitName)).render root ++ ">" := by
  simp [Emission.MergedApi.formalLine, Emission.MergedApi.path, Line.render, Piece.render,
    Piece.newLocal, UsePath.render, UseTarget.render, String.append_assoc]

lemma render_mergeLine (root : String) (m : Emission.MergedApi) :
    (m.mergeLine root).render = ".merge(" ++
      (UsePath.internal (m.modules ++ ["routing"]) (.name "routes")).render root ++ "(" ++
        m.binding ++ "))" := by
  rw [UsePath.render, modulePath_concat, UseTarget.render]
  simp [Emission.MergedApi.mergeLine, Emission.MergedApi.path, Line.render, Piece.render,
    Piece.ofLocal, String.append_assoc]

/-- What the root router names of an API: the trait of its service and its router. -/
structure Routes (e : Emission) (files : List TreeFile) (m : Emission.MergedApi) : Prop where
  trait : Finds files m.modules [m.traitName]
  routes : Finds files (m.modules ++ ["routing"]) ["routes"]
  formal : (m.formalLine e.config.modulePath).render = m.binding ++ ": Arc<dyn " ++
    (UsePath.internal m.modules (.name m.traitName)).render e.config.modulePath ++ ">"
  merge : (m.mergeLine e.config.modulePath).render = ".merge(" ++
    (UsePath.internal (m.modules ++ ["routing"]) (.name "routes")).render e.config.modulePath ++
      "(" ++ m.binding ++ "))"

/-! ### All imports -/

/-- The paths below the generated root that the files of a run import or name lead to modules of the
run, and what is named there is declared. -/
structure InternalImports (e : Emission) (files : List TreeFile) : Prop where
  found : ∀ f ∈ files, ∀ modules target, .internal modules target ∈ fileUses f →
    Finds files modules (importedItems target)
  /-- A skeleton imports everything from the module that declares its trait. -/
  implemented : ∀ f ∈ files, ∀ s, f.content = .skeleton s →
    ∃ modules, .internal modules .everything ∈ s.uses ∧ Finds files modules [s.traitName]
  routed : e.run = .service → ∀ m ∈ e.mergedApis, Routes e files m
  /-- The module of forms is there if any file imports it. -/
  form : ∀ f ∈ files, ∀ target, .internal ["form"] target ∈ fileUses f →
    ⟨⟨.generated, [], "form"⟩, .support Support.formModule⟩ ∈ files
  /-- Models are imported from versions with a file of models only. -/
  models : ∀ f ∈ files, ∀ version, modelsUse version ∈ fileUses f →
    ∃ v ∈ e.spec.versions, e.versionModule v = version ∧ v.models ≠ [] ∧
      ∃ file ∈ files, e.modelFiles v = .ok [file]

lemma skeleton_of_emitted {e : Emission} {f : TreeFile} {s : Skeleton} (hf : Emitted e f)
    (hs : f.content = .skeleton s) :
    ∃ v a, e.run = .service ∧ v ∈ e.spec.versions ∧ a ∈ v.apis ∧ e.skeletonFile v a = .ok f := by
  cases hf with
  | rootIndex | support hm | router hrun | versionIndex hv | skeletonIndex hrun
  | versionSkeletonIndex hrun hv => cases hs
  | errors hf =>
    obtain ⟨body, rfl⟩ := errorFile_source hf
    cases hs
  | models hv hfiles hf =>
    obtain ⟨body, rfl⟩ := modelFiles_source hfiles hf
    cases hs
  | client hrun hv ha hf =>
    obtain ⟨errors, body, rfl⟩ := clientFile_source hf
    cases hs
  | service hrun hv ha hfiles hf =>
    obtain ⟨sigs, -, rfl⟩ := serviceFiles_source hfiles
    rcases List.mem_cons.1 hf with rfl | hf
    · cases hs
    · obtain rfl := List.mem_singleton.1 hf
      cases hs
  | skeleton hrun hv ha hf => exact ⟨_, _, hrun, hv, ha, hf⟩

lemma form_of_available {e : Emission} {target : UseTarget}
    (h : Available e (.internal ["form"] target)) : .form ∈ e.supportModules := by
  generalize hmodules : ["form"] = modules at h
  cases h with
  | @support m _ hm _ =>
    have hname : m = .form := by
      cases m <;> simp [SupportModule.name] at hmodules ⊢
    exact hname ▸ hm
  | errors | clientError hrun | serviceError hrun => simp at hmodules
  | models hv hmodels => simp at hmodules
  | service hrun hv ha => simp [Emission.apiDirs] at hmodules

lemma models_of_available {e : Emission} {version : String}
    (h : Available e (modelsUse version)) :
    ∃ v ∈ e.spec.versions, e.versionModule v = version ∧ v.models ≠ [] := by
  generalize hu : modelsUse version = u at h
  unfold modelsUse at hu
  cases h with
  | external path => cases hu
  | support hm hitems => cases hu
  | errors | clientError hrun | serviceError hrun => cases hu
  | @models v hv hmodels =>
    cases hu
    exact ⟨v, hv, rfl, hmodels⟩
  | service hrun hv ha => simp at hu

lemma internalImports_of_files {e : Emission} (h : SpecRules e.spec e.naming)
    {files : List TreeFile} (hfiles : e.files = .ok files) : InternalImports e files := by
  have hemitted : ∀ {f}, f ∈ files → Emitted e f := (mem_files_iff hfiles).1
  constructor
  · intro f hf modules target hu
    exact (available_of_emitted (hemitted hf) hu).finds h hfiles
  · intro f hf s hs
    obtain ⟨v, a, hrun, hv, ha, hskeleton⟩ := skeleton_of_emitted (hemitted hf) hs
    obtain ⟨sigs, methods, -, rfl⟩ := skeletonFile_source hskeleton
    cases hs
    exact ⟨e.apiDirs v a, List.mem_cons_of_mem _ List.mem_cons_self,
      finds_service h hfiles hrun hv ha⟩
  · intro hrun m hm
    obtain ⟨v, hv, hm⟩ := List.mem_flatMap.1 hm
    obtain ⟨a, ha, rfl⟩ := List.mem_map.1 hm
    exact ⟨finds_service h hfiles hrun hv ha, finds_routing h hfiles hrun hv ha,
      render_formalLine _ _, render_mergeLine _ _⟩
  · intro f hf target hu
    have hform := form_of_available (available_of_emitted (hemitted hf) hu)
    exact (mem_files_iff hfiles).2 (.support hform)
  · intro f hf version hu
    obtain ⟨v, hv, hname, hmodels⟩ := models_of_available (available_of_emitted (hemitted hf) hu)
    obtain ⟨file, hfile, hmem, -⟩ := exists_models h hv hmodels
    exact ⟨v, hv, hname, hmodels, file, (mem_files_iff hfiles).2 hmem, hfile⟩

/-- In every run on a valid description, every import inside the generated tree resolves. -/
theorem validated_internal_imports (spec : Spec) (g : Generator) (run : RunKind)
    (h : spec.validate g.naming = .ok ()) :
    ∃ files artifacts, (Emission.mk spec g.config g.naming run).files = .ok files ∧
      files.mapM (Emission.mk spec g.config g.naming run).artifact = .ok artifacts ∧
      InternalImports ⟨spec, g.config, g.naming, run⟩ files ∧
      ∀ set, g.generate spec run = .ok set → set.files = artifacts := by
  obtain ⟨files, artifacts, hfiles, hartifacts, hgiven⟩ := exists_run g run h
  have himports : InternalImports ⟨spec, g.config, g.naming, run⟩ files :=
    internalImports_of_files (.of_validate h) hfiles
  exact ⟨files, artifacts, hfiles, hartifacts, himports, hgiven⟩

/-- The root router of the shop finds the trait and the router of its orders. -/
theorem validated_internal_imports_shop :
    shop.validate .standard = .ok () ∧
      ∃ files, (Emission.mk shop .standard .standard .service).files = .ok files ∧
        Finds files ["v1", "orders"] ["OrdersService"] ∧
        Finds files ["v1", "orders", "routing"] ["routes"] := by
  have hvalid : shop.validate .standard = .ok () := by decide +kernel
  obtain ⟨files, artifacts, hfiles, -, himports, -⟩ :=
    validated_internal_imports shop ⟨.standard, .standard, fun _ => true⟩ .service hvalid
  have hmerged : ⟨"v1_orders", ["v1", "orders"], "OrdersService"⟩ ∈
      (Emission.mk shop .standard .standard .service).mergedApis := by decide +kernel
  have hroutes := himports.routed rfl _ hmerged
  exact ⟨hvalid, files, hfiles, hroutes.trait, hroutes.routes⟩

end ApiCodegen.Proofs
