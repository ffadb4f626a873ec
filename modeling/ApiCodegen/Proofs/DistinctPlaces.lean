import ApiCodegen.Proofs.OutputPaths

/-!
# Which places of a run coincide

The modules of versions and APIs get the names of a description, and lie beside modules whose names
are fixed. Where the names of a description are words in snake case and differ, two modules of a run
can only coincide because one of them is fixed: the support modules, `errors` and `routing` beside
the versions, and `models` beside the APIs. A place is a path without its text; the text of a path
gives the place back.
-/

namespace ApiCodegen.Proofs
open Naming

/-! ### Texts of paths -/

section Paths

variable {ss ts : List String} {p q : TreePath} {e : Emission}

lemma intercalate_slash_inj (hss : ∀ s ∈ ss, '/' ∉ s.toList) (hts : ∀ t ∈ ts, '/' ∉ t.toList)
    (hss' : ss ≠ []) (hts' : ts ≠ []) (h : "/".intercalate ss = "/".intercalate ts) : ss = ts := by
  have hmap : ss.map String.toList = ts.map String.toList := by
    rw [← splitOn_intercalate_slash hss hss', h, splitOn_intercalate_slash hts hts']
  exact List.map_injective_iff.2 (fun _ _ => String.toList_inj.1) hmap

/-- The directories above an area. -/
def areaDirs : TreeArea → List String
  | .generated => ["src", "spec"]
  | .services => ["src", "services"]

lemma areaDirs_inj {a b : TreeArea} (h : areaDirs a = areaDirs b) : a = b := by
  revert h
  cases a <;> cases b <;> decide

lemma joinPath_src {dir path relative : String} (hpath : path = "src" ++ "/" ++ dir)
    (hkept : Text.dropTrailingSlashes path = path) (hne : path.isEmpty = false) :
    joinPath path relative = "src" ++ "/" ++ (dir ++ "/" ++ relative) := by
  unfold joinPath
  rw [hkept]
  dsimp only
  rw [if_neg (by rw [hne]; decide), hpath]
  simp only [String.append_assoc]

lemma pathText_standard (hconfig : e.config = .standard) :
    e.pathText p = "/".intercalate (areaDirs p.area ++ (p.dirs ++ [p.name ++ ".rs"])) := by
  have hbelow : ∀ dir, "/".intercalate ("src" :: dir :: (p.dirs ++ [p.name ++ ".rs"])) =
      "src" ++ "/" ++ (dir ++ "/" ++ p.relative) := by
    intro dir
    rw [String.intercalate_cons_cons]
    unfold TreePath.relative
    cases hrest : p.dirs ++ [p.name ++ ".rs"] with
    | nil => exact absurd hrest (by simp)
    | cons s rest => rw [String.intercalate_cons_cons]
  obtain ⟨area, dirs, name⟩ := p
  cases area with
  | generated =>
    refine Eq.trans ?_ (hbelow "spec").symm
    unfold Emission.pathText Emission.generatedPath
    rw [hconfig]
    exact joinPath_src (by decide) (by decide) (by decide)
  | services =>
    refine Eq.trans ?_ (hbelow "services").symm
    unfold Emission.pathText Emission.scaffoldPath
    rw [hconfig]
    exact joinPath_src (by decide) (by decide) (by decide)

/-- No slash stands in the names along a path. -/
def Unslashed (p : TreePath) : Prop := ∀ s ∈ p.name :: p.dirs, '/' ∉ s.toList

lemma Unslashed.segments (h : Unslashed p) :
    ∀ s ∈ areaDirs p.area ++ (p.dirs ++ [p.name ++ ".rs"]), '/' ∉ s.toList := by
  obtain ⟨hname, hdirs⟩ := List.forall_mem_cons.1 h
  have harea : ∀ area, ∀ s ∈ areaDirs area, '/' ∉ s.toList := by
    intro area
    cases area <;> decide
  have hfile : '/' ∉ (p.name ++ ".rs").toList := by
    rw [String.toList_append, List.mem_append, not_or]
    exact ⟨hname, by decide⟩
  refine List.forall_mem_append.2 ⟨harea p.area, List.forall_mem_append.2 ⟨hdirs, ?_⟩⟩
  exact List.forall_mem_singleton.2 hfile

lemma pathText_inj (hconfig : e.config = .standard) (hp : Unslashed p) (hq : Unslashed q)
    (h : e.pathText p = e.pathText q) : p = q := by
  have hne : ∀ (q : TreePath), areaDirs q.area ++ (q.dirs ++ [q.name ++ ".rs"]) ≠ [] := by
    intro q
    simp
  rw [pathText_standard hconfig, pathText_standard hconfig] at h
  have hsegments := intercalate_slash_inj hp.segments hq.segments (hne p) (hne q) h
  obtain ⟨area, dirs, name⟩ := p
  obtain ⟨area', dirs', name'⟩ := q
  have hlength : (areaDirs area).length = (areaDirs area').length := by
    cases area <;> cases area' <;> rfl
  obtain ⟨harea, hrest⟩ := List.append_inj hsegments hlength
  obtain ⟨rfl, hfile⟩ := List.append_inj' hrest rfl
  obtain rfl : name = name' := (String.append_left_inj _).1 (List.head_eq_of_cons_eq hfile)
  obtain rfl : area = area' := areaDirs_inj harea
  rfl

end Paths

/-! ### Modules -/

/-- The names that become modules are words in snake case, and distinct where they meet. -/
structure SnakeNamed (spec : Spec) : Prop where
  version : ∀ v ∈ spec.versions, IsSnake v.name
  versions : (spec.versions.map (·.name)).Nodup
  api : ∀ v ∈ spec.versions, ∀ a ∈ v.apis, IsSnake a.name
  apis : ∀ v ∈ spec.versions, (v.apis.map (·.name)).Nodup

/-- The modules beside the versions of a run. -/
def fixedModules (e : Emission) : List String :=
  e.supportModules.map (·.name) ++ ["errors"] ++ if e.run = .service then ["routing"] else []

section Modules

variable {e : Emission} {v w : Version} {a : Api} {name m : String}

lemma moduleName_of_isSnake (h : IsSnake name) :
    Naming.standard.moduleName name = snakeName name := by
  have hne : ¬name.isEmpty = true := by
    intro hempty
    rw [String.isEmpty_iff.1 hempty] at h
    exact absurd h (by decide)
  exact if_neg hne

lemma nodup_modules {α : Type} {as : List α} {name module : α → String}
    (hnames : (as.map name).Nodup) (hsnake : ∀ a ∈ as, IsSnake (name a))
    (hmodule : ∀ a ∈ as, module a = snakeName (name a)) : (as.map module).Nodup := by
  rw [List.map_congr_left hmodule]
  exact nodup_map_snakeName hnames hsnake

lemma isSnake_fixed (h : m ∈ fixedModules e ∨ m = "models") : IsSnake m ∧ snakeName m = m := by
  have hsupport : ∀ s : SupportModule, IsSnake s.name ∧ snakeName s.name = s.name := by
    intro s
    cases s <;> decide +kernel
  rcases h with h | rfl
  · rcases List.mem_append.1 h with h | h
    · rcases List.mem_append.1 h with h | h
      · obtain ⟨s, -, rfl⟩ := List.mem_map.1 h
        exact hsupport s
      · rw [List.mem_singleton.1 h]
        decide +kernel
    · split at h
      · rw [List.mem_singleton.1 h]
        decide +kernel
      · cases h
  · decide +kernel

lemma snakeName_eq_fixed_iff (hname : IsSnake name) (hm : m ∈ fixedModules e ∨ m = "models") :
    snakeName name = m ↔ name = m := by
  obtain ⟨hsnake, hsame⟩ := isSnake_fixed hm
  conv_lhs => rw [← hsame]
  exact snakeName_inj hname hsnake

lemma snakeName_ne_mod (h : IsSnake name) : snakeName name ≠ "mod" := by
  intro heq
  have hback := unmarked_identifier (isCased_of_isSnake h)
  rw [← snakeName_of_isSnake h, heq] at hback
  have hname : name = "mod" := String.toList_inj.1 (hback.symm.trans (by decide))
  rw [hname] at heq
  exact absurd heq (by decide)

variable (hnaming : e.naming = .standard) (hnames : SnakeNamed e.spec)

include hnaming hnames

lemma versionModule_eq (hv : v ∈ e.spec.versions) : e.versionModule v = snakeName v.name := by
  unfold Emission.versionModule
  rw [hnaming, moduleName_of_isSnake (hnames.version v hv)]

lemma apiModule_eq (hv : v ∈ e.spec.versions) (ha : a ∈ v.apis) :
    e.apiModule a = snakeName a.name := by
  unfold Emission.apiModule
  rw [hnaming, moduleName_of_isSnake (hnames.api v hv a ha)]

lemma nodup_versionModules : (e.spec.versions.map e.versionModule).Nodup :=
  nodup_modules hnames.versions hnames.version fun _ hv => versionModule_eq hnaming hnames hv

lemma nodup_apiModules (hv : v ∈ e.spec.versions) : (v.apis.map e.apiModule).Nodup :=
  nodup_modules (hnames.apis v hv) (hnames.api v hv) fun _ ha => apiModule_eq hnaming hnames hv ha

lemma versionModule_eq_fixed_iff (hv : v ∈ e.spec.versions) (hm : m ∈ fixedModules e) :
    e.versionModule v = m ↔ v.name = m := by
  rw [versionModule_eq hnaming hnames hv]
  exact snakeName_eq_fixed_iff (hnames.version v hv) (Or.inl hm)

lemma apiModule_eq_models_iff (hv : v ∈ e.spec.versions) (ha : a ∈ v.apis) :
    e.apiModule a = "models" ↔ a.name = "models" := by
  rw [apiModule_eq hnaming hnames hv ha]
  exact snakeName_eq_fixed_iff (e := e) (hnames.api v hv a ha) (Or.inr rfl)

lemma apiModule_ne_mod (hv : v ∈ e.spec.versions) (ha : a ∈ v.apis) : e.apiModule a ≠ "mod" := by
  rw [apiModule_eq hnaming hnames hv ha]
  exact snakeName_ne_mod (hnames.api v hv a ha)

end Modules

/-! ### Lists of modules -/

section Lists

variable {e : Emission} {v : Version} {modules : List String}

lemma sorted_perm (modules : List String) : (ModuleIndex.sorted modules).Perm modules := by
  have hinsert : ∀ m ms, (ModuleIndex.insertSorted m ms).Perm (m :: ms) := by
    intro m ms
    induction ms with
    | nil => exact List.Perm.refl _
    | cons n ms ih =>
      rw [ModuleIndex.insertSorted]
      split
      · exact List.Perm.refl _
      · exact (ih.cons n).trans (List.Perm.swap m n ms)
  have hfold : ∀ ms, (modules.foldl (fun ms m => ModuleIndex.insertSorted m ms) ms).Perm
      (modules ++ ms) := by
    induction modules with
    | nil => exact fun ms => List.Perm.refl _
    | cons m modules ih =>
      intro ms
      exact (ih _).trans (((hinsert m ms).append_left modules).trans List.perm_middle)
  have hall := hfold []
  rwa [List.append_nil] at hall

lemma nodup_sorted_iff : (ModuleIndex.sorted modules).Nodup ↔ modules.Nodup :=
  (sorted_perm modules).nodup_iff

lemma nodup_fixedModules (e : Emission) : ("mod" :: fixedModules e).Nodup := by
  unfold fixedModules Emission.supportModules
  generalize e.readsForms = forms
  cases e.run with
  | models => cases forms <;> decide
  | client => cases forms <;> decide
  | service => cases forms <;> decide

variable (hnaming : e.naming = .standard) (hnames : SnakeNamed e.spec)

include hnaming hnames

lemma nodup_rootModules_iff :
    e.rootModules.Nodup ↔ ∀ v ∈ e.versions, v.name ∉ fixedModules e := by
  have hroot : e.rootModules =
      ModuleIndex.sorted (fixedModules e ++ e.versions.map e.versionModule) := rfl
  have hversions : (e.versions.map e.versionModule).Nodup :=
    (nodup_versionModules hnaming hnames).sublist (List.filter_sublist.map _)
  rw [hroot, nodup_sorted_iff, List.nodup_append']
  constructor
  · rintro ⟨-, -, hdisjoint⟩ v hv hname
    have hmodule := (versionModule_eq_fixed_iff hnaming hnames (mem_versions_iff.1 hv).1 hname).2 rfl
    exact hdisjoint hname (List.mem_map.2 ⟨v, hv, hmodule⟩)
  · intro h
    refine ⟨(List.nodup_cons.1 (nodup_fixedModules e)).2, hversions, fun m hm hmap => ?_⟩
    obtain ⟨v, hv, rfl⟩ := List.mem_map.1 hmap
    have hname := (versionModule_eq_fixed_iff hnaming hnames (mem_versions_iff.1 hv).1 hm).1 rfl
    exact h v hv (hname ▸ hm)

lemma nodup_versionModules_iff (hv : v ∈ e.spec.versions) : (e.versionModules v).Nodup ↔
    (e.run ≠ .models → v.models ≠ [] → ∀ a ∈ v.apis, a.name ≠ "models") := by
  have hapis := nodup_apiModules hnaming hnames hv
  unfold Emission.versionModules
  rw [nodup_sorted_iff]
  by_cases hmodels : v.models = []
  · refine iff_of_true ?_ fun _ h => absurd hmodels h
    rw [if_pos (List.isEmpty_iff.2 hmodels), List.nil_append]
    split
    · exact List.nodup_nil
    · exact hapis
  · rw [if_neg fun h => hmodels (List.isEmpty_iff.1 h), List.singleton_append, List.nodup_cons]
    by_cases hrun : e.run = .models
    · rw [if_pos hrun]
      exact iff_of_true ⟨List.not_mem_nil, List.nodup_nil⟩ fun h => absurd hrun h
    · rw [if_neg hrun]
      constructor
      · rintro ⟨hmem, -⟩ _ _ a ha hname
        exact hmem (List.mem_map.2 ⟨a, ha, (apiModule_eq_models_iff hnaming hnames hv ha).2 hname⟩)
      · intro h
        refine ⟨fun hmem => ?_, hapis⟩
        obtain ⟨a, ha, hmodule⟩ := List.mem_map.1 hmem
        exact h hrun hmodels a ha ((apiModule_eq_models_iff hnaming hnames hv ha).1 hmodule)

/-- No index lists a module twice unless a version or an API is called like a fixed module. -/
lemma nodup_lists_iff : (∀ p ∈ outline e, p.2.Nodup) ↔
    (∀ v ∈ e.versions, v.name ∉ fixedModules e) ∧
      (e.run ≠ .models → ∀ v ∈ e.spec.versions, v.models ≠ [] → ∀ a ∈ v.apis, a.name ≠ "models") := by
  constructor
  · intro h
    refine ⟨(nodup_rootModules_iff hnaming hnames).1 (h _ (mem_outline_iff.2 (Or.inl rfl))), ?_⟩
    intro hrun v hv hmodels
    have hindex := h _ (mem_outline_of_version hv (emitted_of_run hrun) List.mem_cons_self)
    exact (nodup_versionModules_iff hnaming hnames hv).1 hindex hrun hmodels
  · rintro ⟨hroot, hversions⟩ p hp
    rcases mem_outline_iff.1 hp with rfl | ⟨s, -, rfl⟩ | rfl | ⟨-, rfl⟩ | ⟨v, hv, hp⟩ | ⟨-, hp⟩
    · exact (nodup_rootModules_iff hnaming hnames).2 hroot
    · exact List.nodup_nil
    · exact List.nodup_nil
    · exact List.nodup_nil
    · have hv := (mem_versions_iff.1 hv).1
      rcases mem_versionPlaces_iff.1 hp with rfl | ⟨-, rfl⟩ | hp
      · exact (nodup_versionModules_iff hnaming hnames hv).2 fun hrun => hversions hrun v hv
      · exact List.nodup_nil
      · rcases mem_apiPlaces_iff.1 hp with ⟨-, a, -, rfl⟩ | ⟨-, a, -, rfl | rfl⟩
        · exact List.nodup_nil
        · exact List.nodup_singleton _
        · exact List.nodup_nil
    · rcases hp with rfl | ⟨v, hv, hp⟩
      · exact nodup_sorted_iff.2 (nodup_versionModules hnaming hnames)
      · rcases List.mem_cons.1 hp with rfl | hp
        · exact nodup_sorted_iff.2 (nodup_apiModules hnaming hnames hv)
        · obtain ⟨a, -, rfl⟩ := List.mem_map.1 hp
          exact List.nodup_nil

end Lists

/-! ### Places -/

section Places

variable {e : Emission} {v : Version} {p : Place}

lemma mem_modelPlaces_iff : p ∈ modelPlaces e v ↔
    v.models ≠ [] ∧ p = (⟨.generated, [e.versionModule v], "models"⟩, []) := by
  unfold modelPlaces
  by_cases hempty : v.models = []
  · simp [hempty]
  · simp [hempty]

lemma head_dirs_of_version (hp : p ∈ versionPlaces e v) :
    p.1.area = .generated ∧ p.1.dirs.head? = some (e.versionModule v) := by
  rcases mem_versionPlaces_iff.1 hp with rfl | ⟨-, rfl⟩ | hp
  · exact ⟨rfl, rfl⟩
  · exact ⟨rfl, rfl⟩
  · rcases mem_apiPlaces_iff.1 hp with ⟨-, a, -, rfl⟩ | ⟨-, a, -, rfl | rfl⟩
    · exact ⟨rfl, rfl⟩
    · exact ⟨rfl, rfl⟩
    · exact ⟨rfl, rfl⟩

lemma head_dirs_of_skeleton (hp : p ∈ skeletonPlaces e v) :
    p.1.area = .services ∧ p.1.dirs.head? = some (e.versionModule v) := by
  rcases List.mem_cons.1 hp with rfl | hp
  · exact ⟨rfl, rfl⟩
  · obtain ⟨a, -, rfl⟩ := List.mem_map.1 hp
    exact ⟨rfl, rfl⟩

/-- The places beside the versions. -/
def rootPlaces (e : Emission) : List TreePath :=
  ("mod" :: fixedModules e).map (⟨.generated, [], ·⟩)

/-- The places of skeletons. -/
def skeletonPaths (e : Emission) : List TreePath :=
  if e.run = .service then .ofDirectory .services [] ::
    e.spec.versions.flatMap (fun v => (skeletonPlaces e v).map Prod.fst) else []

lemma outline_paths (e : Emission) : (outline e).map Prod.fst = rootPlaces e ++
    e.versions.flatMap (fun v => (versionPlaces e v).map Prod.fst) ++ skeletonPaths e := by
  unfold outline rootPlaces fixedModules skeletonPaths
  by_cases hrun : e.run = .service
  · simp only [hrun, if_true, List.map_append, List.map_cons, List.map_map, List.map_flatMap,
      List.map_nil, List.append_assoc, List.cons_append, List.nil_append]
    rfl
  · simp only [hrun, if_false, List.map_append, List.map_cons, List.map_map, List.map_flatMap,
      List.map_nil, List.append_assoc, List.cons_append, List.nil_append, List.append_nil]
    rfl

lemma of_mem_rootPlaces {q : TreePath} (hq : q ∈ rootPlaces e) :
    q.area = .generated ∧ q.dirs.head? = none := by
  obtain ⟨m, -, rfl⟩ := List.mem_map.1 hq
  exact ⟨rfl, rfl⟩

lemma of_mem_versionPaths {q : TreePath}
    (hq : q ∈ e.versions.flatMap fun v => (versionPlaces e v).map Prod.fst) :
    q.area = .generated ∧ q.dirs.head? ≠ none := by
  obtain ⟨v, -, hpath⟩ := List.mem_flatMap.1 hq
  obtain ⟨p, hp, rfl⟩ := List.mem_map.1 hpath
  obtain ⟨harea, hhead⟩ := head_dirs_of_version hp
  refine ⟨harea, ?_⟩
  rw [hhead]
  exact Option.some_ne_none _

lemma area_of_mem_skeletonPaths {q : TreePath} (hq : q ∈ skeletonPaths e) : q.area = .services := by
  unfold skeletonPaths at hq
  split at hq
  · rcases List.mem_cons.1 hq with rfl | hq
    · rfl
    · obtain ⟨v, -, hpath⟩ := List.mem_flatMap.1 hq
      obtain ⟨p, hp, rfl⟩ := List.mem_map.1 hpath
      exact (head_dirs_of_skeleton hp).1
  · cases hq

variable (hnaming : e.naming = .standard) (hnames : SnakeNamed e.spec)

include hnaming hnames

lemma nodup_apiPlaces (hv : v ∈ e.spec.versions) : ((apiPlaces e v).map Prod.fst).Nodup := by
  have hapis := nodup_apiModules hnaming hnames hv
  unfold apiPlaces
  cases e.run with
  | models => exact List.nodup_nil
  | client =>
    have hpaths : (v.apis.map fun a => ((⟨.generated, [e.versionModule v], e.apiModule a⟩, []) : Place)).map
        Prod.fst = (v.apis.map e.apiModule).map (⟨.generated, [e.versionModule v], ·⟩) := by
      rw [List.map_map, List.map_map]
      rfl
    rw [hpaths]
    exact hapis.map fun _ _ h => congrArg TreePath.name h
  | service =>
    rw [List.map_flatMap, List.nodup_flatMap]
    refine ⟨fun a _ => ?_, (List.pairwise_map.1 hapis).imp fun {a b} hne path ha hb => ?_⟩
    · refine List.nodup_cons.2 ⟨fun hmem => ?_, List.nodup_singleton _⟩
      have hname : "mod" = "routing" := congrArg TreePath.name (List.mem_singleton.1 hmem)
      exact absurd hname (by decide)
    · have hdirs : ∀ a : Api, path ∈ [((.ofDirectory .generated (e.apiDirs v a), ["routing"]) : Place),
          (⟨.generated, e.apiDirs v a, "routing"⟩, [])].map Prod.fst → path.dirs = e.apiDirs v a := by
        intro a hpath
        rcases List.mem_cons.1 hpath with rfl | hpath
        · rfl
        · rw [List.mem_singleton.1 hpath]
      have hsame := (hdirs a ha).symm.trans (hdirs b hb)
      exact hne (List.head_eq_of_cons_eq (List.tail_eq_of_cons_eq hsame))

lemma ne_versionIndex (hv : v ∈ e.spec.versions) (hp : p ∈ modelPlaces e v ++ apiPlaces e v) :
    p.1 ≠ .ofDirectory .generated [e.versionModule v] := by
  intro heq
  rcases List.mem_append.1 hp with hp | hp
  · obtain ⟨-, rfl⟩ := mem_modelPlaces_iff.1 hp
    have hname : "models" = "mod" := congrArg TreePath.name heq
    exact absurd hname (by decide)
  · rcases mem_apiPlaces_iff.1 hp with ⟨-, a, ha, rfl⟩ | ⟨-, a, -, rfl | rfl⟩
    · exact apiModule_ne_mod hnaming hnames hv ha (congrArg TreePath.name heq)
    · have hdirs : [e.apiModule a] = [] := List.tail_eq_of_cons_eq (congrArg TreePath.dirs heq)
      cases hdirs
    · have hdirs : [e.apiModule a] = [] := List.tail_eq_of_cons_eq (congrArg TreePath.dirs heq)
      cases hdirs

/-- A client called `models` has the place of the models. A service of that name has a directory,
which is another place. -/
lemma disjoint_models_apis_iff (hv : v ∈ e.spec.versions) :
    List.Disjoint ((modelPlaces e v).map Prod.fst) ((apiPlaces e v).map Prod.fst) ↔
      (e.run = .client → v.models ≠ [] → ∀ a ∈ v.apis, a.name ≠ "models") := by
  constructor
  · intro h hrun hmodels a ha hname
    have hmodule := (apiModule_eq_models_iff hnaming hnames hv ha).2 hname
    have hmodel : (⟨.generated, [e.versionModule v], "models"⟩, []) ∈ modelPlaces e v :=
      mem_modelPlaces_iff.2 ⟨hmodels, rfl⟩
    have hapi : (⟨.generated, [e.versionModule v], "models"⟩, []) ∈ apiPlaces e v :=
      mem_apiPlaces_iff.2 (Or.inl ⟨hrun, a, ha, by rw [hmodule]⟩)
    exact h (List.mem_map_of_mem hmodel) (List.mem_map_of_mem hapi)
  · intro h path hmodel hapi
    obtain ⟨p, hp, rfl⟩ := List.mem_map.1 hmodel
    obtain ⟨q, hq, heq⟩ := List.mem_map.1 hapi
    obtain ⟨hmodels, rfl⟩ := mem_modelPlaces_iff.1 hp
    rcases mem_apiPlaces_iff.1 hq with ⟨hrun, a, ha, rfl⟩ | ⟨-, a, -, rfl | rfl⟩
    · have hname := (apiModule_eq_models_iff hnaming hnames hv ha).1 (congrArg TreePath.name heq)
      exact h hrun hmodels a ha hname
    · have hname : "mod" = "models" := congrArg TreePath.name heq
      exact absurd hname (by decide)
    · have hname : "routing" = "models" := congrArg TreePath.name heq
      exact absurd hname (by decide)

lemma nodup_versionPlaces_iff (hv : v ∈ e.spec.versions) : ((versionPlaces e v).map Prod.fst).Nodup ↔
    (e.run = .client → v.models ≠ [] → ∀ a ∈ v.apis, a.name ≠ "models") := by
  have hmodels : ((modelPlaces e v).map Prod.fst).Nodup := by
    unfold modelPlaces
    split
    · exact List.nodup_nil
    · exact List.nodup_singleton _
  unfold versionPlaces
  rw [List.map_cons, List.nodup_cons, List.map_append, List.nodup_append',
    disjoint_models_apis_iff hnaming hnames hv]
  constructor
  · exact fun h => h.2.2.2
  · intro h
    refine ⟨fun hmem => ?_, hmodels, nodup_apiPlaces hnaming hnames hv, h⟩
    rw [← List.map_append] at hmem
    obtain ⟨p, hp, heq⟩ := List.mem_map.1 hmem
    exact ne_versionIndex hnaming hnames hv hp heq

lemma nodup_skeletonPlaces (hv : v ∈ e.spec.versions) :
    ((skeletonPlaces e v).map Prod.fst).Nodup := by
  have hpaths : (skeletonPlaces e v).map Prod.fst =
      ("mod" :: v.apis.map e.apiModule).map (⟨.services, [e.versionModule v], ·⟩) := by
    unfold skeletonPlaces
    rw [List.map_cons, List.map_cons, List.map_map, List.map_map]
    rfl
  have hmodules : ("mod" :: v.apis.map e.apiModule).Nodup := by
    refine List.nodup_cons.2 ⟨fun hmem => ?_, nodup_apiModules hnaming hnames hv⟩
    obtain ⟨a, ha, hmod⟩ := List.mem_map.1 hmem
    exact apiModule_ne_mod hnaming hnames hv ha hmod
  rw [hpaths]
  exact hmodules.map fun _ _ h => congrArg TreePath.name h

lemma pairwise_disjoint {places : Version → List Place} {versions : List Version}
    (hversions : versions.Sublist e.spec.versions)
    (hplaces : ∀ v, ∀ p ∈ places v, p.1.dirs.head? = some (e.versionModule v)) :
    versions.Pairwise (Function.onFun List.Disjoint fun v => (places v).map Prod.fst) := by
  have hmodules : versions.Pairwise fun v w => e.versionModule v ≠ e.versionModule w :=
    List.pairwise_map.1 ((nodup_versionModules hnaming hnames).sublist (hversions.map _))
  refine hmodules.imp fun {v w} hne path hpath hpath' => ?_
  obtain ⟨p, hp, rfl⟩ := List.mem_map.1 hpath
  obtain ⟨q, hq, heq⟩ := List.mem_map.1 hpath'
  have hhead := hplaces w q hq
  rw [heq, hplaces v p hp] at hhead
  exact hne (Option.some.inj hhead)

lemma nodup_skeletonPaths : (skeletonPaths e).Nodup := by
  unfold skeletonPaths
  split
  · refine List.nodup_cons.2 ⟨fun hmem => ?_, ?_⟩
    · obtain ⟨v, -, hpath⟩ := List.mem_flatMap.1 hmem
      obtain ⟨p, hp, heq⟩ := List.mem_map.1 hpath
      have hhead := (head_dirs_of_skeleton hp).2
      rw [heq] at hhead
      cases hhead
    · rw [List.nodup_flatMap]
      refine ⟨fun v hv => nodup_skeletonPlaces hnaming hnames hv,
        pairwise_disjoint hnaming hnames (List.Sublist.refl _) ?_⟩
      exact fun v p hp => (head_dirs_of_skeleton hp).2
  · exact List.nodup_nil

/-- Two places of a run are one exactly if a client is called `models` beside models. -/
lemma nodup_places_iff : ((outline e).map Prod.fst).Nodup ↔
    (e.run = .client → ∀ v ∈ e.spec.versions, v.models ≠ [] → ∀ a ∈ v.apis, a.name ≠ "models") := by
  have hroot : (rootPlaces e).Nodup :=
    (nodup_fixedModules e).map fun _ _ h => congrArg TreePath.name h
  have hversions : (e.versions.flatMap fun v => (versionPlaces e v).map Prod.fst).Nodup ↔
      ∀ v ∈ e.versions, ((versionPlaces e v).map Prod.fst).Nodup := by
    rw [List.nodup_flatMap]
    refine and_iff_left (pairwise_disjoint hnaming hnames List.filter_sublist ?_)
    exact fun v p hp => (head_dirs_of_version hp).2
  rw [outline_paths, List.nodup_append', List.nodup_append', hversions]
  constructor
  · rintro ⟨⟨-, hversions, -⟩, -, -⟩ hrun v hv
    have hemitted : v ∈ e.versions :=
      mem_versions_iff.2 ⟨hv, emitted_of_run (by rw [hrun]; decide)⟩
    exact (nodup_versionPlaces_iff hnaming hnames hv).1 (hversions v hemitted) hrun
  · intro h
    refine ⟨⟨hroot, fun v hv => ?_, fun q hq hmem => ?_⟩, nodup_skeletonPaths hnaming hnames,
      fun q hq hmem => ?_⟩
    · have hv := (mem_versions_iff.1 hv).1
      exact (nodup_versionPlaces_iff hnaming hnames hv).2 fun hrun => h hrun v hv
    · have hhead := (of_mem_versionPaths hmem).2
      rw [(of_mem_rootPlaces hq).2] at hhead
      exact hhead rfl
    · have hgenerated : q.area = .generated := (List.mem_append.1 hq).elim
        (fun hq => (of_mem_rootPlaces hq).1) fun hq => (of_mem_versionPaths hq).1
      rw [area_of_mem_skeletonPaths hmem] at hgenerated
      cases hgenerated

end Places

/-! ### Artifacts -/

section Artifacts

variable {e : Emission} {p : Place} {files : List TreeFile} {artifacts : List Artifact}

lemma unslashed_of_mem_outline (hnaming : e.naming = .standard) (hp : p ∈ outline e) :
    Unslashed p.1 :=
  fun name hname => (isModuleName_of_mem_outline hnaming hp name hname).notMem (by decide)

lemma nodup_paths_iff (hconfig : e.config = .standard) (hnaming : e.naming = .standard)
    (hplaces : files.map placeOf = outline e) (h : List.Forall₂ (Written e) files artifacts) :
    (artifacts.map (·.path)).Nodup ↔ ((outline e).map Prod.fst).Nodup := by
  rw [map_path_of_outline hplaces h]
  refine ⟨fun h => h.of_map, fun h => h.map_on fun path hpath other hother heq => ?_⟩
  obtain ⟨p, hp, rfl⟩ := List.mem_map.1 hpath
  obtain ⟨q, hq, rfl⟩ := List.mem_map.1 hother
  exact pathText_inj hconfig (unslashed_of_mem_outline hnaming hp)
    (unslashed_of_mem_outline hnaming hq) heq

end Artifacts

/-- Where the names of a description are distinct words in snake case, a run with the usual
configuration gives two artifacts of one path exactly if it writes a client called `models` beside
models, and an index lists a module twice exactly if a version or an API is called like a module
with a fixed name beside it. -/
theorem validated_places_distinct (spec : Spec) (parses : String → Bool) (run : RunKind)
    (hvalid : spec.validate .standard = .ok ()) (hnames : SnakeNamed spec) :
    let e : Emission := ⟨spec, .standard, .standard, run⟩
    ∃ files artifacts, e.files = .ok files ∧ List.Forall₂ (Written e) files artifacts ∧
      (∀ set, (Generator.mk .standard .standard parses).generate spec run = .ok set →
        set.files = artifacts) ∧
      ((artifacts.map (·.path)).Nodup ↔
        (run = .client → ∀ v ∈ spec.versions, v.models ≠ [] → ∀ a ∈ v.apis, a.name ≠ "models")) ∧
      ((∀ f ∈ files, f.listedModules.Nodup) ↔ (∀ v ∈ e.versions, v.name ∉ fixedModules e) ∧
        (run ≠ .models → ∀ v ∈ spec.versions, v.models ≠ [] → ∀ a ∈ v.apis, a.name ≠ "models")) := by
  intro e
  obtain ⟨files, artifacts, hfiles, hartifacts, hgiven⟩ :=
    exists_run ⟨.standard, .standard, parses⟩ run hvalid
  have hplaces := files_places hfiles
  have hwritten : List.Forall₂ (Written e) files artifacts :=
    (mapM_eq_ok_iff.1 hartifacts).imp fun f a => written_of_artifact
  have hlists : (∀ f ∈ files, f.listedModules.Nodup) ↔ ∀ p ∈ outline e, p.2.Nodup := by
    rw [← hplaces, List.forall_mem_map]
    rfl
  refine ⟨files, artifacts, hfiles, hwritten, hgiven, ?_, ?_⟩
  · rw [nodup_paths_iff rfl rfl hplaces hwritten]
    exact nodup_places_iff rfl hnames
  · rw [hlists]
    exact nodup_lists_iff rfl hnames

/-- In the client of the shop nothing coincides. -/
theorem validated_places_distinct_shop :
    shop.validate .standard = .ok () ∧ SnakeNamed shop ∧
      ∃ files artifacts, (Emission.mk shop .standard .standard .client).files = .ok files ∧
        List.Forall₂ (Written ⟨shop, .standard, .standard, .client⟩) files artifacts ∧
        (artifacts.map (·.path)).Nodup ∧ ∀ f ∈ files, f.listedModules.Nodup := by
  have hvalid : shop.validate .standard = .ok () := by decide +kernel
  have hnames : SnakeNamed shop := by
    refine ⟨?_, by decide, ?_, by decide⟩
    · exact List.forall_mem_singleton.2 (by decide)
    · exact List.forall_mem_singleton.2 (List.forall_mem_singleton.2 (by decide +kernel))
  have hmodels : ∀ v ∈ shop.versions, ∀ a ∈ v.apis, a.name ≠ "models" := by decide
  have hfixed : ∀ v ∈ shop.versions,
      v.name ∉ fixedModules ⟨shop, .standard, .standard, .client⟩ := by decide
  obtain ⟨files, artifacts, hfiles, hwritten, -, hpaths, hlists⟩ :=
    validated_places_distinct shop (fun _ => true) .client hvalid hnames
  refine ⟨hvalid, hnames, files, artifacts, hfiles, hwritten, ?_, ?_⟩
  · exact hpaths.2 fun _ v hv _ => hmodels v hv
  · refine hlists.2 ⟨fun v hv => hfixed v (mem_versions_iff.1 hv).1, fun _ v hv _ => hmodels v hv⟩

/-- A version called `errors`, with models, and an API called `models`. -/
def namesakeVersion : Version := ⟨"errors", none, [⟨"models", []⟩], [⟨"order", .object [], none⟩]⟩

/-- A description whose version and API are called like modules beside them. -/
def namesakes : Spec := ⟨"shop", [namesakeVersion], .empty⟩

/-- Its client is generated with two artifacts of one path, and an index that lists a module twice. -/
theorem namesakes_coincide :
    namesakes.validate .standard = .ok () ∧ SnakeNamed namesakes ∧
      ∃ files set, (Emission.mk namesakes .standard .standard .client).files = .ok files ∧
        (Generator.mk .standard .standard fun _ => true).generate namesakes .client = .ok set ∧
        ¬(set.files.map (·.path)).Nodup ∧ ∃ f ∈ files, ¬f.listedModules.Nodup := by
  have hvalid : namesakes.validate .standard = .ok () := by decide +kernel
  have hnames : SnakeNamed namesakes := by
    refine ⟨?_, by decide, ?_, by decide⟩
    · exact List.forall_mem_singleton.2 (by decide +kernel)
    · exact List.forall_mem_singleton.2 (List.forall_mem_singleton.2 (by decide +kernel))
  have hversion : namesakeVersion ∈ namesakes.versions := List.mem_cons_self
  generalize he : Emission.mk namesakes .standard .standard .client = e
  have hspec : e.spec = namesakes := by rw [← he]
  have hnaming : e.naming = .standard := by rw [← he]
  have hconfig : e.config = .standard := by rw [← he]
  have hrun : e.run = .client := by rw [← he]
  have hrules : SpecRules e.spec e.naming := by
    rw [hspec, hnaming]
    exact .of_validate hvalid
  obtain ⟨files, artifacts, hfiles, hartifacts⟩ := hrules.emitsAll.artifacts
  have hplaces := files_places hfiles
  have hwritten : List.Forall₂ (Written e) files artifacts :=
    (mapM_eq_ok_iff.1 hartifacts).imp fun f a => written_of_artifact
  refine ⟨hvalid, hnames, files, ⟨artifacts⟩, hfiles, ?_, ?_, ?_⟩
  · subst he
    exact generate_eq_ok hvalid hfiles hartifacts fun _ _ => rfl
  · rw [nodup_paths_iff hconfig hnaming hplaces hwritten,
      nodup_places_iff hnaming (by rwa [hspec]), hspec]
    intro h
    exact h hrun namesakeVersion hversion (List.cons_ne_nil _ _) _ List.mem_cons_self rfl
  · by_contra hnone
    push Not at hnone
    have hlists : ∀ p ∈ outline e, p.2.Nodup := by
      rw [← hplaces, List.forall_mem_map]
      exact hnone
    have hroot := ((nodup_lists_iff hnaming (by rwa [hspec])).1 hlists).1
    have hemitted : namesakeVersion ∈ e.versions :=
      mem_versions_iff.2 ⟨by rwa [hspec], emitted_of_run (by rw [hrun]; decide)⟩
    refine hroot namesakeVersion hemitted ?_
    rw [← he]
    decide

end ApiCodegen.Proofs
