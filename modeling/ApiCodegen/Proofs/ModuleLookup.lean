import ApiCodegen.Proofs.DistinctPlaces

/-!
# Where the declared modules are looked up

A declaration of a module whose name is a keyword has the mark of raw identifiers, and the module is
looked up in a file or a directory that is called without it. Files and directories are called like
the modules with their marks, so that a module is found exactly if its name has none. The exception
is a module called `mod`, for which the index is found that declares it.
-/

namespace ApiCodegen.Proofs
open Naming

/-! ### Marks -/

/-- A keyword that is an identifier with a mark only, and with one it is. -/
def TakesMark (word : String) : Prop := word ∈ keywords ∧ word ∉ neverRaw

instance (word : String) : Decidable (TakesMark word) :=
  inferInstanceAs (Decidable (word ∈ keywords ∧ word ∉ neverRaw))

section Marks

variable {word name : String}

lemma marked_of_takesMark (h : TakesMark word) : marked word = rawMark ++ word := by
  have hnever : (!neverRaw.contains word) = true := by simpa using h.2
  rw [marked, List.contains_iff_mem.2 h.1, hnever]
  rfl

lemma marked_eq_self_iff : marked word = word ↔ ¬TakesMark word := by
  constructor
  · intro h hmark
    rw [marked_of_takesMark hmark] at h
    have hlength := congrArg String.length h
    rw [String.length_append] at hlength
    have htwo : rawMark.length = 2 := rfl
    omega
  · intro h
    refine if_neg fun hboth => h ?_
    simpa [TakesMark] using hboth

/-- A name in snake case gets a mark exactly if it is a keyword that takes one. -/
lemma unraw_snakeName_eq_iff (h : IsSnake name) :
    unraw (snakeName name) = snakeName name ↔ ¬TakesMark name := by
  have hword : ∀ w ∈ keywords, w ∉ neverRaw → identifier w.toList = rawMark ++ w := by
    decide +kernel
  have hback : ∀ w ∈ keywords, w ∉ neverRaw → unmarked (rawMark ++ w) = w.toList := by
    decide +kernel
  generalize hw : unraw (snakeName name) = w
  have hmarked : marked w = snakeName name := hw ▸ marked_unraw_snakeName name
  by_cases htakes : TakesMark w
  · have hname : name.toList = w.toList := by
      rw [← unmarked_identifier (isCased_of_isSnake h), ← snakeName_of_isSnake h, ← hmarked,
        marked_of_takesMark htakes, hback w htakes.1 htakes.2]
    rw [← hmarked, eq_comm, marked_eq_self_iff, String.toList_inj.1 hname]
  · have hsame : w = snakeName name := (marked_eq_self_iff.2 htakes).symm.trans hmarked
    refine iff_of_true hsame fun hname => htakes ?_
    rwa [← hw, snakeName_of_isSnake h, hword name hname.1 hname.2, unraw_rawMark]

lemma snakeName_eq_raw_mod_iff (h : IsSnake name) : snakeName name = "r#mod" ↔ name = "mod" := by
  constructor
  · intro heq
    have hback := unmarked_identifier (isCased_of_isSnake h)
    rw [← snakeName_of_isSnake h, heq] at hback
    exact String.toList_inj.1 (hback.symm.trans (by decide))
  · rintro rfl
    decide +kernel

end Marks

/-! ### Lookup -/

/-- A name that a module may have to be found without its mark. -/
def IsFindable (m : String) : Prop := unraw m = m ∨ m = "r#mod"

/-- Every module that an index lists is found without its mark. -/
def AllFound (files : List TreeFile) : Prop :=
  ∀ area dirs m, Lists files area dirs m → HasModule files area dirs (unraw m)

/-- An artifact has one of the two paths of a module. -/
def HasPath (e : Emission) (artifacts : List Artifact) (area : TreeArea) (dirs : List String)
    (m : String) : Prop :=
  ∃ a ∈ artifacts, a.path = directoryText e area dirs ++ m ++ ".rs" ∨
    a.path = directoryText e area dirs ++ m ++ "/mod.rs"

section Lookup

variable {e : Emission} {files : List TreeFile} {artifacts : List Artifact} {area : TreeArea}
  {dirs : List String} {m n : String}

/-- The modules of a run are identifiers, and have marks where these are needed only. -/
lemma Member.identifier (hnaming : e.naming = .standard) (h : Member e area dirs m) :
    marked (unraw m) = m ∧ IsPlain (unraw m) := by
  have hmodule : ∀ name, marked (unraw (e.naming.moduleName name)) = e.naming.moduleName name ∧
      IsPlain (unraw (e.naming.moduleName name)) := by
    rw [hnaming]
    exact fun name => ⟨marked_unraw_moduleName name,
      isIdentifier_iff.1 (isIdentifier_moduleName name)⟩
  have hfixed : ∀ m, marked (unraw m) = m ∧ isIdentifier m = true →
      marked (unraw m) = m ∧ IsPlain (unraw m) :=
    fun m h => ⟨h.1, isIdentifier_iff.1 h.2⟩
  cases h with
  | @support s _ => exact hfixed _ (by cases s <;> decide)
  | errors => exact hfixed _ (by decide)
  | routing => exact hfixed _ (by decide)
  | @version v _ _ => exact hmodule v.name
  | models => exact hfixed _ (by decide)
  | @api _ a _ _ _ => exact hmodule a.name
  | apiRouting => exact hfixed _ (by decide)
  | @skeletonVersion v _ _ => exact hmodule v.name
  | @skeleton _ a _ _ _ => exact hmodule a.name

lemma isFindable_iff (hnaming : e.naming = .standard) (h : Member e area dirs m) :
    IsFindable m ↔ unraw m = m ∨ unraw m = "mod" := by
  refine or_congr_right ⟨?_, ?_⟩
  · rintro rfl
    decide
  · intro hmod
    rw [← (h.identifier hnaming).1, hmod]
    decide

/-- What lies at the place of a module is listed, but for the index itself. -/
lemma ModuleTree.lists_of_hasModule (htree : ModuleTree e files artifacts)
    (h : HasModule files area dirs n) : n = "mod" ∨ Lists files area dirs n := by
  obtain ⟨f, hf, hpath | hpath⟩ := h
  · refine or_iff_not_imp_left.2 fun hname => ?_
    have hlists := htree.file f hf (by rwa [hpath])
    rwa [hpath] at hlists
  · exact Or.inr (htree.directory f hf area dirs n hpath)

/-- A module that is listed is found exactly if its name has no mark, or if the index is found. -/
lemma ModuleTree.found_iff (htree : ModuleTree e files artifacts) (hnaming : e.naming = .standard)
    (h : Lists files area dirs m) : HasModule files area dirs (unraw m) ↔ IsFindable m := by
  have hmember := (htree.lists_iff area dirs m).1 h
  obtain ⟨hmarked, hplain⟩ := hmember.identifier hnaming
  rw [isFindable_iff hnaming hmember]
  constructor
  · intro hfound
    rcases htree.lists_of_hasModule hfound with hmod | hlists
    · exact Or.inr hmod
    · have hsame := (((htree.lists_iff area dirs (unraw m)).1 hlists).identifier hnaming).1
      rw [unraw_of_not_mem (hplain.notMem (by decide)), hmarked] at hsame
      exact Or.inl hsame.symm
  · rintro (hsame | hmod)
    · rw [hsame]
      exact htree.present area dirs m h
    · obtain ⟨index, hindex, hpath, -⟩ := h
      exact ⟨index, hindex, Or.inl (by rw [hpath, hmod]; rfl)⟩

lemma ModuleTree.hasPath (htree : ModuleTree e files artifacts)
    (h : HasModule files area dirs n) : HasPath e artifacts area dirs n := by
  obtain ⟨f, hf, hplace⟩ := h
  have hmem : e.pathText f.path ∈ artifacts.map (·.path) := by
    rw [map_path_of_written htree.written]
    exact List.mem_map_of_mem hf
  obtain ⟨a, ha, hpath⟩ := List.mem_map.1 hmem
  obtain ⟨hfile, hindex⟩ := htree.paths area dirs n
  refine ⟨a, ha, hplace.imp (fun hplace => ?_) fun hplace => ?_⟩
  · rw [hpath, hplace, hfile]
  · rw [hpath, hplace, hindex]

/-- With the usual configuration no other file has the path of a module. -/
lemma ModuleTree.hasModule_of_hasPath (htree : ModuleTree e files artifacts)
    (hplaces : files.map placeOf = outline e) (hconfig : e.config = .standard)
    (hnaming : e.naming = .standard) (hn : '/' ∉ n.toList) (h : Lists files area dirs m)
    (hpath : HasPath e artifacts area dirs n) : HasModule files area dirs n := by
  have hunslashed : ∀ f ∈ files, Unslashed f.path := fun f hf =>
    unslashed_of_mem_outline hnaming (p := placeOf f) (hplaces ▸ List.mem_map_of_mem hf)
  obtain ⟨index, hindex, hdirectory, -⟩ := h
  have hdirs : ∀ d ∈ dirs, '/' ∉ d.toList := by
    have hnames := hunslashed index hindex
    rw [hdirectory] at hnames
    exact (List.forall_mem_cons.1 hnames).2
  obtain ⟨a, ha, hpath⟩ := hpath
  have hmem : a.path ∈ files.map fun f => e.pathText f.path := by
    rw [← map_path_of_written htree.written]
    exact List.mem_map_of_mem ha
  obtain ⟨f, hf, htext⟩ := List.mem_map.1 hmem
  obtain ⟨hfile, hbelow⟩ := htree.paths area dirs n
  refine ⟨f, hf, hpath.imp (fun hpath => ?_) fun hpath => ?_⟩
  · refine pathText_inj hconfig (hunslashed f hf) ?_ (htext.trans (hpath.trans hfile.symm))
    exact List.forall_mem_cons.2 ⟨hn, hdirs⟩
  · refine pathText_inj hconfig (hunslashed f hf) ?_ (htext.trans (hpath.trans hbelow.symm))
    have hmod : '/' ∉ ("mod" : String).toList := by decide
    exact List.forall_mem_cons.2 ⟨hmod, List.forall_mem_append.2
      ⟨hdirs, List.forall_mem_singleton.2 hn⟩⟩

/-- The names of versions and APIs decide whether all modules are found. -/
lemma ModuleTree.allFound_iff (htree : ModuleTree e files artifacts)
    (hnaming : e.naming = .standard) :
    AllFound files ↔ (∀ v ∈ e.versions, IsFindable (e.versionModule v)) ∧
      (e.run ≠ .models → ∀ v ∈ e.spec.versions, ∀ a ∈ v.apis, IsFindable (e.apiModule a)) := by
  have hall : AllFound files ↔ ∀ area dirs m, Member e area dirs m → IsFindable m := by
    refine forall₃_congr fun area dirs m => ?_
    rw [← htree.lists_iff area dirs m]
    exact forall_congr' fun h => htree.found_iff hnaming h
  have hfixed : ∀ m, unraw m = m → IsFindable m := fun _ => Or.inl
  rw [hall]
  constructor
  · intro h
    refine ⟨fun v hv => ?_, fun hrun v hv a ha => h _ _ _ (.api hv ha hrun)⟩
    obtain ⟨hv, hemitted⟩ := mem_versions_iff.1 hv
    exact h _ _ _ (.version hv hemitted)
  · rintro ⟨hversions, hapis⟩ area dirs m hmember
    cases hmember with
    | @support s _ => exact hfixed _ (by cases s <;> decide)
    | errors => exact hfixed _ (by decide)
    | routing => exact hfixed _ (by decide)
    | version hv hemitted => exact hversions _ (mem_versions_iff.2 ⟨hv, hemitted⟩)
    | models => exact hfixed _ (by decide)
    | api hv ha hrun => exact hapis hrun _ hv _ ha
    | apiRouting => exact hfixed _ (by decide)
    | skeletonVersion hv hrun =>
      exact hversions _ (mem_versions_iff.2 ⟨hv, emitted_of_service hrun⟩)
    | skeleton hv ha hrun => exact hapis (by rw [hrun]; decide) _ hv _ ha

end Lookup

/-! ### All runs -/

/-- Where the modules of a run are looked up. -/
structure ModuleLookup (e : Emission) (files : List TreeFile) (artifacts : List Artifact) :
    Prop where
  /-- A module is found exactly if its name has no mark, unless what is found is the index. -/
  found : ∀ area dirs m, Lists files area dirs m →
    (HasModule files area dirs (unraw m) ↔ unraw m = m ∨ m = "r#mod")
  /-- Keywords have marks, and nothing else does. -/
  unmarked : ∀ area dirs m, Lists files area dirs m → (unraw m = m ↔ ¬TakesMark (unraw m))
  all : AllFound files ↔ (∀ v ∈ e.versions, IsFindable (e.versionModule v)) ∧
    (e.run ≠ .models → ∀ v ∈ e.spec.versions, ∀ a ∈ v.apis, IsFindable (e.apiModule a))
  /-- Of names in snake case, only keywords other than `mod` are not found. -/
  named : (∀ v ∈ e.spec.versions, IsSnake v.name ∧ ∀ a ∈ v.apis, IsSnake a.name) →
    (AllFound files ↔ (∀ v ∈ e.versions, ¬TakesMark v.name ∨ v.name = "mod") ∧
      (e.run ≠ .models → ∀ v ∈ e.spec.versions, ∀ a ∈ v.apis, ¬TakesMark a.name ∨ a.name = "mod"))
  /-- What is found has a path of the module. -/
  path : ∀ area dirs m, HasModule files area dirs m → HasPath e artifacts area dirs m
  /-- With the usual configuration nothing else has. -/
  standard : e.config = .standard → ∀ area dirs m, Lists files area dirs m →
    (HasPath e artifacts area dirs (unraw m) ↔ HasModule files area dirs (unraw m))

lemma moduleLookup_of_tree {e : Emission} {files : List TreeFile} {artifacts : List Artifact}
    (htree : ModuleTree e files artifacts) (hplaces : files.map placeOf = outline e)
    (hnaming : e.naming = .standard) : ModuleLookup e files artifacts := by
  refine ⟨fun area dirs m => htree.found_iff hnaming, ?_, htree.allFound_iff hnaming, ?_,
    fun area dirs m => htree.hasPath, ?_⟩
  · intro area dirs m h
    obtain ⟨hmarked, -⟩ := ((htree.lists_iff area dirs m).1 h).identifier hnaming
    rw [← marked_eq_self_iff, hmarked, eq_comm]
  · intro hsnake
    have hname : ∀ {name}, IsSnake name →
        (IsFindable (e.naming.moduleName name) ↔ ¬TakesMark name ∨ name = "mod") := by
      intro name h
      rw [hnaming, moduleName_of_isSnake h]
      exact or_congr (unraw_snakeName_eq_iff h) (snakeName_eq_raw_mod_iff h)
    rw [htree.allFound_iff hnaming]
    refine and_congr (forall₂_congr fun v hv => ?_) (forall_congr' fun _ =>
      forall₂_congr fun v hv => forall₂_congr fun a ha => hname ((hsnake v hv).2 a ha))
    exact hname (hsnake v (mem_versions_iff.1 hv).1).1
  · intro hconfig area dirs m h
    have hplain := (((htree.lists_iff area dirs m).1 h).identifier hnaming).2
    have hslash : '/' ∉ (unraw m).toList := hplain.notMem (by decide)
    exact ⟨htree.hasModule_of_hasPath hplaces hconfig hnaming hslash h, htree.hasPath⟩

/-- In every run of the standard policy on an accepted description, the modules of an index are
where they are looked up unless their names have marks. -/
theorem validated_module_lookup (spec : Spec) (config : Config) (parses : String → Bool)
    (run : RunKind) (h : spec.validate .standard = .ok ()) :
    ∃ files artifacts, (Emission.mk spec config .standard run).files = .ok files ∧
      ModuleTree ⟨spec, config, .standard, run⟩ files artifacts ∧
      ModuleLookup ⟨spec, config, .standard, run⟩ files artifacts ∧
      ∀ set, (Generator.mk config .standard parses).generate spec run = .ok set →
        set.files = artifacts := by
  obtain ⟨files, artifacts, hfiles, hartifacts, hgiven⟩ :=
    exists_run ⟨config, .standard, parses⟩ run h
  have htree := moduleTree_of_files hfiles hartifacts
  exact ⟨files, artifacts, hfiles, htree, moduleLookup_of_tree htree (files_places hfiles) rfl,
    hgiven⟩

/-- No name of the shop is a keyword, and so all modules of its service are found. -/
theorem validated_module_lookup_shop :
    shop.validate .standard = .ok () ∧
      ∃ files artifacts, (Emission.mk shop .standard .standard .service).files = .ok files ∧
        AllFound files ∧ Lists files .services ["v1"] "orders" ∧
        HasPath ⟨shop, .standard, .standard, .service⟩ artifacts .services ["v1"] "orders" := by
  have hvalid : shop.validate .standard = .ok () := by decide +kernel
  obtain ⟨files, artifacts, hfiles, htree, hlookup, -⟩ :=
    validated_module_lookup shop .standard (fun _ => true) .service hvalid
  have hsnake : ∀ v ∈ shop.versions, IsSnake v.name ∧ ∀ a ∈ v.apis, IsSnake a.name := by
    decide +kernel
  have hversions : ∀ v ∈ shop.versions, ¬TakesMark v.name ∨ v.name = "mod" := by decide
  have hapis : ∀ v ∈ shop.versions, ∀ a ∈ v.apis, ¬TakesMark a.name ∨ a.name = "mod" := by decide
  have hfound : AllFound files :=
    (hlookup.named hsnake).2 ⟨fun v hv => hversions v (mem_versions_iff.1 hv).1, fun _ => hapis⟩
  have hlists : Lists files .services ["v1"] "orders" :=
    (htree.lists_iff .services ["v1"] "orders").2
      (.skeleton (v := shopVersion) (a := ⟨"orders", [putOrder]⟩) List.mem_cons_self
        List.mem_cons_self rfl)
  exact ⟨hvalid, files, artifacts, hfiles, hfound, hlists,
    hlookup.path _ _ _ (hfound .services ["v1"] "orders" hlists)⟩

/-- A description whose version is called like a keyword. -/
def keywordNamed : Spec :=
  ⟨"shop", [⟨"type", none, [], [⟨"order", .object [], none⟩]⟩], .empty⟩

/-- Its models are generated, and the module of the version is not where it is looked up. -/
theorem keywordNamed_not_found :
    keywordNamed.validate .standard = .ok () ∧
      ∃ files set, (Emission.mk keywordNamed .standard .standard .models).files = .ok files ∧
        (Generator.mk .standard .standard fun _ => true).generate keywordNamed .models = .ok set ∧
        Lists files .generated [] "r#type" ∧
        HasPath ⟨keywordNamed, .standard, .standard, .models⟩ set.files .generated [] "r#type" ∧
        ¬HasPath ⟨keywordNamed, .standard, .standard, .models⟩ set.files .generated []
          (unraw "r#type") := by
  have hvalid : keywordNamed.validate .standard = .ok () := by decide +kernel
  obtain ⟨files, artifacts, hfiles, hartifacts, -⟩ :=
    exists_run ⟨.standard, .standard, fun _ => true⟩ .models hvalid
  have htree := moduleTree_of_files hfiles hartifacts
  have hlookup := moduleLookup_of_tree htree (files_places hfiles) rfl
  have hmodule : (Emission.mk keywordNamed .standard .standard .models).versionModule
      ⟨"type", none, [], [⟨"order", .object [], none⟩]⟩ = "r#type" := by
    decide +kernel
  have hlists : Lists files .generated [] "r#type" := by
    rw [htree.lists_iff, ← hmodule]
    exact .version List.mem_cons_self fun _ => List.cons_ne_nil _ _
  refine ⟨hvalid, files, ⟨artifacts⟩, hfiles,
    generate_eq_ok hvalid hfiles hartifacts fun _ _ => rfl, hlists,
    htree.hasPath (htree.present _ _ _ hlists), ?_⟩
  rw [hlookup.standard rfl _ _ _ hlists, hlookup.found _ _ _ hlists]
  decide

end ApiCodegen.Proofs
