import ApiCodegen.Proofs.Declarations
import ApiCodegen.Proofs.FileImports

/-!
# Names that model files declare

The files of models and errors declare a type for each model, and the error file the error type of
its run besides. Names become identifiers by cutting and casing, which takes some names together:
the theorem says exactly when two types get one name, and when a type gets the name of another that
the file imports or uses.
-/

namespace ApiCodegen.Proofs
open Naming

/-! ### Types of a file -/

/-- The words of fixed text. -/
def textWords (s : String) : List String :=
  (s.toList.splitOnP fun c => !TypeExpr.isNameChar c).map String.ofList

/-- The names in a type that are no names of models. -/
def typeWords : Spelling → List String
  | .primitive p => [p.spelling]
  | .named _ _ | .unit | .text => []
  | .option inner => "Option" :: typeWords inner
  | .vec inner => "Vec" :: typeWords inner
  | .map inner => "BTreeMap" :: "String" :: typeWords inner
  | .boxed inner => "Box" :: typeWords inner
  | .borrowed inner => typeWords inner

/-- The words in the fixed text of a line. No type stands at the start of a line. -/
def fixedWords : Line → List String
  | [] => []
  | .text s :: rest => (textWords s).tail ++ rest.flatMap pieceWords
  | _ :: rest => rest.flatMap pieceWords
where
  pieceWords : Piece → List String
    | .text s => textWords s
    | _ => []

/-- The names that an import brings into scope, but for modules. -/
def importedWords : UsePath → List String
  | .external path => textWords (lastSegment path)
  | .internal _ (.name s) => [s]
  | .internal _ (.names ss) => ss
  | .internal _ .module | .internal _ .everything => []

/-- The names that a file imports and those in the types that it spells. -/
def takenTypes (f : SourceFile) : List String :=
  f.uses.flatMap importedWords ++ f.body.spellings.flatMap typeWords

/-- The names of types that a file imports or uses. -/
def usedTypes (f : SourceFile) : List String :=
  takenTypes f ++ f.body.lines.flatMap fixedWords

/-- The types and traits that model files and error files take from elsewhere, in snake case. -/
def vocabulary : List String :=
  ["option", "vec", "box", "string", "b_tree_map", "decimal", "naive_date", "naive_date_time",
    "uuid", "empty", "serialize", "deserialize", "log_fields", "response", "into", "from", "send",
    "sync"]

/-- Words that may be taken for a type in Pascal case. -/
def Capitalized (word : String) : Prop := word.toList.head?.any Char.isUpper = true

instance : DecidablePred Capitalized := fun _ => inferInstanceAs (Decidable (_ = true))

section Vocabulary

variable {t : Spelling} {word : String}

lemma pascalName_vocabulary : vocabulary.map pascalName =
    ["Option", "Vec", "Box", "String", "BTreeMap", "Decimal", "NaiveDate", "NaiveDateTime", "Uuid",
      "Empty", "Serialize", "Deserialize", "LogFields", "Response", "Into", "From", "Send",
      "Sync"] := by
  decide +kernel

lemma mem_vocabulary_of_typeWords (h : word ∈ typeWords t) (hword : Capitalized word) :
    word ∈ vocabulary.map pascalName := by
  rw [pascalName_vocabulary]
  induction t with
  | primitive p =>
    rw [typeWords, List.mem_singleton] at h
    subst h
    revert hword
    unfold Capitalized
    cases p <;> decide
  | named _ _ | unit | text => cases h
  | option inner ih | vec inner ih | boxed inner ih =>
    rcases List.mem_cons.1 h with rfl | h
    · decide
    · exact ih h
  | map inner ih =>
    rcases List.mem_cons.1 h with rfl | h
    · decide
    rcases List.mem_cons.1 h with rfl | h
    · decide
    · exact ih h
  | borrowed inner ih => exact ih h

end Vocabulary

/-! ### Error types -/

section ErrorTypes

variable {e : HttpErrors} {naming : Naming} {variants : List ErrorVariant} {x : ErrorVariant}

lemma members_errorVariant : members (x.docCode ++ x.valueCode naming) = [x.name] := rfl

lemma members_serviceVariant : members (serviceVariantCode naming x) = [x.name] := by
  unfold serviceVariantCode
  split
  · rfl
  · rfl

lemma members_variants {f : ErrorVariant → Code} (hf : ∀ x, members (f x) = [x.name]) :
    members (.all (variants.map f)) = variants.map (·.name) := by
  rw [members_all, List.flatMap_map]
  simp only [hf, List.map_eq_flatMap]

lemma typeDecls_respondArm : typeDecls (respondArm x) = [] := by
  unfold respondArm
  cases x.handling <;> rfl

/-- The members of the error type of clients that no response gives. -/
def clientMembers : List String := ["UnexpectedStatus", "Transport", "Response"]

variable (naming variants) in
lemma typeDecls_clientError : typeDecls (clientErrorCode naming variants) =
    [("ClientError", variants.map (·.name) ++ clientMembers)] := by
  change typeDecls (.texts _ ++ .braces _ (.all _ ++ .texts _)) = _
  rw [typeDecls_append, typeDecls_texts, typeDecls_declares, members_append,
    members_variants fun _ => members_errorVariant]
  rfl

variable (naming variants) in
lemma typeDecls_serviceError : typeDecls (serviceErrorCode naming variants) =
    [("ServiceError", variants.map (·.name))] := by
  have harms : (variants.map respondArm).flatMap typeDecls = [] := by
    rw [List.flatMap_map]
    exact List.flatMap_eq_nil_iff.2 fun _ _ => typeDecls_respondArm
  change typeDecls (.texts _ ++ .braces _ (.all _) ++ .blank ++
    .braces _ (.texts _ ++ .braces _ (.texts _)) ++ .blank ++ .braces _ (.braces _ (.texts _)) ++
    .blank ++ .texts _ ++ .braces _ (.braces _ (.all _))) = _
  simp only [typeDecls_append, typeDecls_texts, typeDecls_declares, typeDecls_blank,
    typeDecls_text, typeDecls_all, harms, members_variants fun _ => members_serviceVariant]
  rfl

lemma clientMembers_nodup (hrules : ErrorRules e)
    (h : List.Forall₂ (Entry .standard e) e.allResponses variants) :
    (variants.map (·.name) ++ clientMembers).Nodup := by
  have htable : ∀ entry ∈ statusCodes, pascalName entry.1 ∉ clientMembers := by
    decide +kernel
  have hfixed : clientMembers.Nodup := by decide
  refine List.nodup_append.2 ⟨errorNames_nodup hrules h, hfixed, ?_⟩
  intro name hname fixed hmem heq
  obtain ⟨x, hx, rfl⟩ := List.mem_map.1 hname
  obtain ⟨r, -, hr⟩ := entry_of_mem h hx
  have hstatus : x.name = pascalName r.status := hr.name
  rw [← heq, hstatus] at hmem
  exact htable _ (mem_of_statusCode? hr.code) hmem

end ErrorTypes

/-! ### Files -/

/-- What the code of a model declares: one type, with the members of the model. The members differ
if and only if their names do after casing, and then an enum reads what it writes. -/
structure Declares (m : Model) (code : Code) : Prop where
  types : typeDecls code = [(pascalName m.name, memberNames m)]
  members : (memberNames m).Nodup ↔ (memberKeys m).Nodup
  inverse : ∀ values, m.kind = .enum values → (sourceNames m).Nodup →
    ((∀ v ∈ values, (readBack code v.value).bind (textOf code) = some v.value) ↔
      (memberKeys m).Nodup)

/-- What the types of a file are called that has models and, besides, types of fixed names. -/
structure NamesKept (models : List Model) (fixed : List String) (f : SourceFile) : Prop where
  names : (typeDecls f.body).map Prod.fst = (models.map (·.name) ++ fixed).map pascalName
  distinct : ((typeDecls f.body).map Prod.fst).Nodup ↔
    ((models.map (·.name) ++ fixed).map typeKey).Nodup
  /-- All that a file imports and spells is in the vocabulary. -/
  known : ∀ word ∈ takenTypes f, Capitalized word → word ∈ vocabulary.map pascalName
  unshadowed : (∀ d ∈ typeDecls f.body, d.1 ∈ usedTypes f → d.1 ∉ vocabulary.map pascalName) ↔
    ∀ m ∈ models, ∀ name ∈ vocabulary, pascalName name ∈ usedTypes f →
      typeKey m.name ≠ typeKey name

/-- The imports of the files of models and errors. -/
def takenUses : List UsePath :=
  [.external "serde::\x7bDeserialize, Serialize\x7d", .internal ["errors"] .module,
    .internal ["errmodels"] .module, .internal ["response"] .module,
    .internal ["respond"] (.names ["self", "LogFields"]), .external "axum::response::Response",
    .external "rust_decimal::Decimal", .external "chrono::NaiveDate",
    .external "chrono::NaiveDateTime", .external "uuid::Uuid",
    .internal ["empty"] (.name "Empty"), .external "std::collections::BTreeMap"]

section Files

variable {e : Emission} {v : Version} {u : UsePath} {word : String}

lemma mem_takenUses_of_modelUses (h : u ∈ e.modelUses v) : u ∈ takenUses := by
  unfold Emission.modelUses typeUses at h
  simp only [List.mem_append, mem_useIf_iff, List.mem_singleton] at h
  unfold takenUses
  simp only [List.mem_cons]
  grind

lemma mem_takenUses_of_errorUses (h : u ∈ e.errorUses) : u ∈ takenUses := by
  unfold Emission.errorUses typeUses at h
  unfold takenUses
  cases hrun : e.run <;>
    simp only [hrun, List.mem_append, mem_useIf_iff, List.mem_cons, List.not_mem_nil] at h ⊢ <;>
    grind

lemma mem_vocabulary_of_takenUses (hu : u ∈ takenUses) (h : word ∈ importedWords u)
    (hword : Capitalized word) : word ∈ vocabulary.map pascalName := by
  have hall : ∀ u ∈ takenUses, ∀ word ∈ importedWords u, Capitalized word →
      word ∈ vocabulary.map pascalName := by
    rw [pascalName_vocabulary]
    decide +kernel
  exact hall u hu word h hword

lemma typeDecls_codes {models : List Model} {codes : List Code}
    (h : List.Forall₂ Declares models codes) :
    typeDecls (.all (codes.map fun code => code ++ .blank)) =
      models.map fun m => (pascalName m.name, memberNames m) := by
  rw [typeDecls_all, List.flatMap_map]
  induction h with
  | nil => rfl
  | cons hfirst _ ih =>
    rw [List.flatMap_cons, ih, typeDecls_append, hfirst.types]
    rfl

lemma namesKept_of_names {models : List Model} {fixed : List String} {f : SourceFile}
    (hnames : (typeDecls f.body).map Prod.fst = (models.map (·.name) ++ fixed).map pascalName)
    (hfixed : ∀ name ∈ fixed, pascalName name ∉ vocabulary.map pascalName)
    (huses : ∀ u ∈ f.uses, u ∈ takenUses) : NamesKept models fixed f where
  names := hnames
  distinct := by
    rw [hnames]
    exact nodup_map_iff (fun _ _ => pascalName_eq_iff) _
  known word hword hcapital := by
    rcases List.mem_append.1 hword with huse | hspelled
    · obtain ⟨u, hu, hmem⟩ := List.mem_flatMap.1 huse
      exact mem_vocabulary_of_takenUses (huses u hu) hmem hcapital
    · obtain ⟨t, -, hmem⟩ := List.mem_flatMap.1 hspelled
      exact mem_vocabulary_of_typeWords hmem hcapital
  unshadowed := by
    have hdecls : (∀ d ∈ typeDecls f.body, d.1 ∈ usedTypes f → d.1 ∉ vocabulary.map pascalName) ↔
        ∀ name ∈ models.map (·.name) ++ fixed, pascalName name ∈ usedTypes f →
          pascalName name ∉ vocabulary.map pascalName := by
      rw [← List.forall_mem_map (f := Prod.fst) (P := fun name => name ∈ usedTypes f →
        name ∉ vocabulary.map pascalName), hnames, List.forall_mem_map]
    rw [hdecls, List.forall_mem_append, List.forall_mem_map,
      and_iff_left fun name hname _ => hfixed name hname]
    refine forall₂_congr fun m _ => ?_
    constructor
    · intro h name hname hused hkey
      have hsame : pascalName m.name = pascalName name := pascalName_eq_iff.2 hkey
      exact h (hsame ▸ hused) (hsame ▸ List.mem_map_of_mem hname)
    · intro h hused hmem
      obtain ⟨name, hname, hsame⟩ := List.mem_map.1 hmem
      exact h name hname (hsame ▸ hused) (pascalName_eq_iff.1 hsame.symm)

lemma declares_modelCode {s : ModelScope} {here : Location} {m : Model} {code : Code}
    (hnaming : s.naming = .standard) (h : s.modelCode here m = .ok code) : Declares m code where
  types := typeDecls_modelCode hnaming h
  members := nodup_members_iff m
  inverse values hkind hvalues := by
    unfold ModelScope.modelCode at h
    unfold sourceNames at hvalues
    rw [hkind] at h hvalues
    cases h
    rw [← nodup_members_iff]
    unfold memberNames sourceNames
    rw [hkind]
    simp only [List.map_map]
    exact readBack_textOf m hnaming hvalues

lemma declares_modelsCode {scope : Scope} {paths : TypePaths} {here : Location}
    {models : List Model} {code : Code}
    (h : modelsCode scope .standard paths here models = .ok code) :
    ∃ codes, code = .all (codes.map fun code => code ++ .blank) ∧
      List.Forall₂ Declares models codes := by
  obtain ⟨codes, hcodes, hcode⟩ := bind_eq_ok_iff.1 h
  cases hcode
  have hdeclares := (mapM_eq_ok_iff.1 hcodes).imp fun m code hm => declares_modelCode rfl hm
  exact ⟨codes, rfl, hdeclares⟩

end Files

/-- The names of the error type of a run, in snake case. -/
def errorTypeNames : RunKind → List String
  | .models => []
  | .client => ["client_error"]
  | .service => ["service_error"]

/-- What the files of models and errors of a run declare. The error file has the error type of the
run, whose members differ whatever the description calls its responses. -/
structure DeclaredNames (e : Emission) : Prop where
  models : ∀ v ∈ e.spec.versions, v.models = [] ∧ e.modelFiles v = .ok [] ∨
    ∃ f codes, e.modelFiles v =
        .ok [⟨⟨.generated, [e.versionModule v], "models"⟩, .source f⟩] ∧
      f.body = .all (codes.map fun code => code ++ .blank) ∧
      List.Forall₂ Declares v.models codes ∧ NamesKept v.models [] f
  errors : ∃ f codes variants, e.errorFile = .ok ⟨⟨.generated, [], "errors"⟩, .source f⟩ ∧
    f.body = .all (codes.map fun code => code ++ .blank) ++ e.errorTypeCode variants ∧
    List.Forall₂ Declares e.spec.httpErrors.models codes ∧
    NamesKept e.spec.httpErrors.models (errorTypeNames e.run) f ∧
    ∀ d ∈ typeDecls (e.errorTypeCode variants), d.2.Nodup

lemma errorTypeNames_notMem (run : RunKind) :
    ∀ name ∈ errorTypeNames run, pascalName name ∉ vocabulary.map pascalName := by
  rw [pascalName_vocabulary]
  cases run <;> decide +kernel

section Runs

variable {e : Emission} {variants : List ErrorVariant}

lemma names_errorTypeCode :
    (typeDecls (e.errorTypeCode variants)).map Prod.fst =
      (errorTypeNames e.run).map pascalName := by
  have hnames : pascalName "client_error" = "ClientError" ∧
      pascalName "service_error" = "ServiceError" := by decide +kernel
  unfold Emission.errorTypeCode errorTypeNames
  cases e.run with
  | models => rfl
  | client =>
    dsimp only
    rw [typeDecls_clientError, List.map_singleton, List.map_singleton, hnames.1]
  | service =>
    dsimp only
    rw [typeDecls_serviceError, List.map_singleton, List.map_singleton, hnames.2]

lemma nodup_errorTypeCode (hrules : ErrorRules e.spec.httpErrors)
    (h : List.Forall₂ (Entry .standard e.spec.httpErrors) e.spec.httpErrors.allResponses variants) :
    ∀ d ∈ typeDecls (e.errorTypeCode variants), d.2.Nodup := by
  unfold Emission.errorTypeCode
  cases e.run with
  | models => exact nofun
  | client =>
    dsimp only
    rw [typeDecls_clientError, List.forall_mem_singleton]
    exact clientMembers_nodup hrules h
  | service =>
    dsimp only
    rw [typeDecls_serviceError, List.forall_mem_singleton]
    exact errorNames_nodup hrules h

variable (h : SpecRules e.spec .standard) (hnaming : e.naming = .standard)

include h hnaming

lemma models_declared {v : Version} (hv : v ∈ e.spec.versions) :
    v.models = [] ∧ e.modelFiles v = .ok [] ∨
      ∃ f codes, e.modelFiles v =
          .ok [⟨⟨.generated, [e.versionModule v], "models"⟩, .source f⟩] ∧
        f.body = .all (codes.map fun code => code ++ .blank) ∧
        List.Forall₂ Declares v.models codes ∧ NamesKept v.models [] f := by
  unfold Emission.modelFiles
  by_cases hempty : v.models.isEmpty = true
  · left
    rw [if_pos hempty]
    exact ⟨List.isEmpty_iff.1 hempty, rfl⟩
  · right
    rw [if_neg hempty, hnaming]
    obtain ⟨code, hcode⟩ : Succeeds (modelsCode (.ofVersion v e.spec.httpErrors) .standard .inModels
        ((Location.root.child (e.versionModule v)).child "models") v.models) :=
      succeeds_modelsCode (h.models v hv)
    obtain ⟨codes, hbody, hdeclares⟩ := declares_modelsCode hcode
    refine ⟨.plain (e.modelUses v) code, codes, bind_eq_ok_iff.2 ⟨code, hcode, rfl⟩, hbody,
      hdeclares, namesKept_of_names ?_ nofun fun u hu => mem_takenUses_of_modelUses hu⟩
    have htypes : typeDecls code = v.models.map fun m => (pascalName m.name, memberNames m) := by
      rw [hbody, typeDecls_codes hdeclares]
    change (typeDecls code).map Prod.fst = _
    rw [htypes, List.append_nil, List.map_map, List.map_map]
    rfl

lemma errors_declared : ∃ f codes variants,
    e.errorFile = .ok ⟨⟨.generated, [], "errors"⟩, .source f⟩ ∧
      f.body = .all (codes.map fun code => code ++ .blank) ++ e.errorTypeCode variants ∧
      List.Forall₂ Declares e.spec.httpErrors.models codes ∧
      NamesKept e.spec.httpErrors.models (errorTypeNames e.run) f ∧
      ∀ d ∈ typeDecls (e.errorTypeCode variants), d.2.Nodup := by
  obtain ⟨variants, hvariants⟩ : Succeeds e.errorVariants := succeeds_ofErrors h.errors
  obtain ⟨code, hcode⟩ : Succeeds (modelsCode (.ofErrors e.spec.httpErrors) .standard .inErrors
      ((Location.root.child "http_errors").child "models") e.spec.httpErrors.models) :=
    succeeds_modelsCode h.errors.models
  obtain ⟨codes, hbody, hdeclares⟩ := declares_modelsCode hcode
  have hentries : List.Forall₂ (Entry .standard e.spec.httpErrors) e.spec.httpErrors.allResponses
      variants := by
    unfold Emission.errorVariants at hvariants
    rw [hnaming] at hvariants
    exact entries_of_ofErrors hvariants
  refine ⟨.plain e.errorUses (code ++ e.errorTypeCode variants), codes, variants, ?_,
    congrArg (· ++ e.errorTypeCode variants) hbody, hdeclares, ?_,
    nodup_errorTypeCode h.errors hentries⟩
  · unfold Emission.errorFile
    rw [hnaming]
    exact bind_eq_ok_iff.2 ⟨variants, hvariants, bind_eq_ok_iff.2 ⟨code, hcode, rfl⟩⟩
  · refine namesKept_of_names ?_ (errorTypeNames_notMem e.run) fun u hu =>
      mem_takenUses_of_errorUses hu
    change (typeDecls (code ++ e.errorTypeCode variants)).map Prod.fst = _
    rw [typeDecls_append, hbody, typeDecls_codes hdeclares, List.map_append, names_errorTypeCode,
      List.map_append, List.map_map, List.map_map]
    rfl

end Runs

/-- What an accepted description declares in the files of its models and of its errors, and when
two declarations get one name or one takes the name of a type that the file uses. -/
theorem validated_declared_names (spec : Spec) (config : Config) (run : RunKind)
    (h : spec.validate .standard = .ok ()) : DeclaredNames ⟨spec, config, .standard, run⟩ where
  models _ hv := models_declared (.of_validate h) rfl hv
  errors := errors_declared (.of_validate h) rfl

/-- The shop's client declares each type once, and none of the types that it uses. -/
theorem validated_declared_names_shop :
    shop.validate .standard = .ok () ∧
      ∃ f codes, (Emission.mk shop .standard .standard .client).modelFiles shopVersion =
          .ok [⟨⟨.generated, ["v1"], "models"⟩, .source f⟩] ∧
        List.Forall₂ Declares shopVersion.models codes ∧
        ((typeDecls f.body).map Prod.fst).Nodup ∧
        ∀ d ∈ typeDecls f.body, d.1 ∈ usedTypes f → d.1 ∉ vocabulary.map pascalName := by
  have hvalid : shop.validate .standard = .ok () := by decide +kernel
  have hdistinct : ((shopVersion.models.map Model.name ++ []).map typeKey).Nodup := by
    decide +kernel
  have hunshadowed : ∀ m ∈ shopVersion.models, ∀ name ∈ vocabulary,
      typeKey m.name ≠ typeKey name := by
    decide +kernel
  have hdeclared := validated_declared_names shop .standard .client hvalid
  rcases hdeclared.models shopVersion List.mem_cons_self with
    ⟨hnone, -⟩ | ⟨f, codes, hfile, -, hcodes, hnames⟩
  · cases hnone
  · exact ⟨hvalid, f, codes, hfile, hcodes, hnames.distinct.2 hdistinct,
      hnames.unshadowed.2 fun m hm name hname _ => hunshadowed m hm name hname⟩

/-- Models whose names or members only casing takes together, and one that is called like a type
that the file uses. -/
def casedVersion : Version where
  name := "v1"
  url := none
  apis := []
  models := [
    ⟨"option", .object [.ofType "note" (.nullable (.named "string"))], none⟩,
    ⟨"a_1", .object [.ofType "x-y" (.named "string"), .ofType "x_y" (.named "string")], none⟩,
    ⟨"a1", .object [], none⟩,
    ⟨"size", .enum [⟨"a", none⟩, ⟨"A", none⟩], none⟩]

def cased : Spec := ⟨"shop", [casedVersion], .empty⟩

/-- Its models have two types and twice two members of one name and an `Option` of their own, and
the text of one value is read as another. -/
theorem cased_coincide :
    cased.validate .standard = .ok () ∧
      (∀ m ∈ casedVersion.models, IsSnake m.name ∧ (sourceNames m).Nodup) ∧
      (casedVersion.models.map (·.name)).Nodup ∧
      ∃ f, (Emission.mk cased .standard .standard .models).modelFiles casedVersion =
          .ok [⟨⟨.generated, ["v1"], "models"⟩, .source f⟩] ∧
        ¬((typeDecls f.body).map Prod.fst).Nodup ∧
        (∃ d ∈ typeDecls f.body, ¬d.2.Nodup) ∧
        (∃ d ∈ typeDecls f.body, d.1 ∈ usedTypes f ∧ d.1 ∈ vocabulary.map pascalName) ∧
        (readBack f.body "A").bind (textOf f.body) = some "a" := by
  have hvalid : cased.validate .standard = .ok () := by decide +kernel
  have hsource : (∀ m ∈ casedVersion.models, IsSnake m.name ∧ (sourceNames m).Nodup) ∧
      (casedVersion.models.map (·.name)).Nodup := by
    decide +kernel
  have hread : ((Emission.mk cased .standard .standard .models).modelFiles
      casedVersion).toOption.map (·.map fun f => match f.content with
        | .source f => (typeDecls f.body, (usedTypes f).contains "Option",
            (readBack f.body "A").bind (textOf f.body))
        | _ => ([], false, none)) =
      some [([("Option", ["note"]), ("A1", ["x_y", "x_y"]), ("A1", []), ("Size", ["A", "A"])], true,
        some "a")] := by
    decide +kernel
  have hrules : SpecRules cased .standard := .of_validate hvalid
  rcases models_declared (e := ⟨cased, .standard, .standard, .models⟩) hrules rfl
    List.mem_cons_self with ⟨hnone, -⟩ | ⟨f, codes, hfile, -⟩
  · cases hnone
  refine ⟨hvalid, hsource.1, hsource.2, f, hfile, ?_⟩
  rw [hfile] at hread
  simp only [Except.toOption, Option.map_some, List.map_cons, List.map_nil, Option.some.injEq,
    List.cons.injEq, Prod.mk.injEq, and_true] at hread
  obtain ⟨htypes, hused, hvalues⟩ := hread
  rw [htypes]
  refine ⟨by decide, ⟨("A1", ["x_y", "x_y"]), by decide, by decide⟩,
    ⟨("Option", ["note"]), by decide, List.contains_iff_mem.1 hused, by decide +kernel⟩, hvalues⟩

end ApiCodegen.Proofs
