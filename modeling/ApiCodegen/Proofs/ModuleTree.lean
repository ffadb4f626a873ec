import ApiCodegen.Proofs.Emission
import ApiCodegen.Proofs.FileTexts

/-!
# The module tree of a run

Indexes list the modules of their directories, and files lie at the places of modules. `Member` says
which modules a run has, from the description alone. The indexes list exactly these, each of them is
a file or a directory with an index, and no file but the two roots lies anywhere else. Places and
lists are read off the outline of a run, which has one entry for each of its files.
-/

namespace ApiCodegen.Proofs

/-- The modules of a run, by the area and the directory that they belong to. -/
inductive Member (e : Emission) : TreeArea → List String → String → Prop
  | support {s : SupportModule} (hs : s ∈ e.supportModules) : Member e .generated [] s.name
  | errors : Member e .generated [] "errors"
  | routing (hrun : e.run = .service) : Member e .generated [] "routing"
  /-- A run of models has no versions without models. -/
  | version {v : Version} (hv : v ∈ e.spec.versions) (hrun : e.run = .models → v.models ≠ []) :
    Member e .generated [] (e.versionModule v)
  | models {v : Version} (hv : v ∈ e.spec.versions) (hmodels : v.models ≠ []) :
    Member e .generated [e.versionModule v] "models"
  | api {v : Version} {a : Api} (hv : v ∈ e.spec.versions) (ha : a ∈ v.apis)
    (hrun : e.run ≠ .models) : Member e .generated [e.versionModule v] (e.apiModule a)
  | apiRouting {v : Version} {a : Api} (hv : v ∈ e.spec.versions) (ha : a ∈ v.apis)
    (hrun : e.run = .service) : Member e .generated (e.apiDirs v a) "routing"
  | skeletonVersion {v : Version} (hv : v ∈ e.spec.versions) (hrun : e.run = .service) :
    Member e .services [] (e.versionModule v)
  | skeleton {v : Version} {a : Api} (hv : v ∈ e.spec.versions) (ha : a ∈ v.apis)
    (hrun : e.run = .service) : Member e .services [e.versionModule v] (e.apiModule a)

/-! ### The outline of a run -/

/-- The place of a file and the modules that it lists. -/
abbrev Place := TreePath × List String

def placeOf (f : TreeFile) : Place := (f.path, f.listedModules)

section Outlines

variable (e : Emission) (v : Version)

/-- The places of the models of a version. -/
def modelPlaces : List Place :=
  if v.models.isEmpty then [] else [(⟨.generated, [e.versionModule v], "models"⟩, [])]

/-- The places of the APIs of a version. -/
def apiPlaces : List Place :=
  match e.run with
  | .models => []
  | .client => v.apis.map fun a => (⟨.generated, [e.versionModule v], e.apiModule a⟩, [])
  | .service => v.apis.flatMap fun a =>
    [(.ofDirectory .generated (e.apiDirs v a), ["routing"]),
      (⟨.generated, e.apiDirs v a, "routing"⟩, [])]

/-- The places of a version. -/
def versionPlaces : List Place :=
  (.ofDirectory .generated [e.versionModule v], e.versionModules v) ::
    (modelPlaces e v ++ apiPlaces e v)

/-- The places of the skeletons of a version. -/
def skeletonPlaces : List Place :=
  (.ofDirectory .services [e.versionModule v], ModuleIndex.sorted (v.apis.map e.apiModule)) ::
    v.apis.map fun a => (⟨.services, [e.versionModule v], e.apiModule a⟩, [])

/-- The places of a run. -/
def outline : List Place :=
  (.ofDirectory .generated [], e.rootModules) ::
    e.supportModules.map (fun s => (⟨.generated, [], s.name⟩, [])) ++
    [(⟨.generated, [], "errors"⟩, [])] ++
    (if e.run = .service then [(⟨.generated, [], "routing"⟩, [])] else []) ++
    e.versions.flatMap (versionPlaces e) ++
    (if e.run = .service then
      (.ofDirectory .services [], ModuleIndex.sorted (e.spec.versions.map e.versionModule)) ::
        e.spec.versions.flatMap (skeletonPlaces e)
    else [])

end Outlines

section Places

variable {e : Emission} {v : Version} {a : Api} {file : TreeFile} {files : List TreeFile}

lemma flatMap_of_mapM {α β γ : Type} {f : α → Except Fault (List β)} {g : β → γ}
    {h : α → List γ} {as : List α} {bs : List (List β)} (hbs : as.mapM f = .ok bs)
    (hgh : ∀ a ∈ as, ∀ b, f a = .ok b → b.map g = h a) : bs.flatten.map g = as.flatMap h := by
  rw [List.map_flatten, map_of_mapM hbs hgh, List.flatMap_def]

lemma clientFile_place (h : e.clientFile v a = .ok file) :
    placeOf file = (⟨.generated, [e.versionModule v], e.apiModule a⟩, []) := by
  obtain ⟨sigs, -, h⟩ := bind_eq_ok_iff.1 h
  obtain ⟨errors, -, h⟩ := bind_eq_ok_iff.1 h
  cases h
  rfl

lemma serviceFiles_places (h : e.serviceFiles v a = .ok files) :
    files.map placeOf = [(.ofDirectory .generated (e.apiDirs v a), ["routing"]),
      (⟨.generated, e.apiDirs v a, "routing"⟩, [])] := by
  obtain ⟨sigs, -, h⟩ := bind_eq_ok_iff.1 h
  cases h
  rfl

lemma modelFiles_places (h : e.modelFiles v = .ok files) :
    files.map placeOf = modelPlaces e v := by
  unfold Emission.modelFiles at h
  unfold modelPlaces
  split at h
  · rename_i hempty
    cases h
    rw [if_pos hempty]
    rfl
  · rename_i hempty
    obtain ⟨body, -, h⟩ := bind_eq_ok_iff.1 h
    cases h
    rw [if_neg hempty]
    rfl

lemma apiFiles_places (h : e.apiFiles v = .ok files) :
    files.map placeOf = apiPlaces e v := by
  unfold Emission.apiFiles at h
  unfold apiPlaces
  cases hrun : e.run with
  | models =>
    rw [hrun] at h
    cases h
    rfl
  | client =>
    rw [hrun] at h
    exact map_of_mapM h fun a _ file hfile => clientFile_place hfile
  | service =>
    rw [hrun] at h
    obtain ⟨apis, hapis, rfl⟩ := map_eq_ok_iff.1 h
    exact flatMap_of_mapM hapis fun a _ files hfiles => serviceFiles_places hfiles

lemma versionFiles_places (h : e.versionFiles v = .ok files) :
    files.map placeOf = versionPlaces e v := by
  obtain ⟨models, hmodels, h⟩ := bind_eq_ok_iff.1 h
  obtain ⟨apis, hapis, h⟩ := bind_eq_ok_iff.1 h
  cases h
  rw [List.map_cons, List.map_append, modelFiles_places hmodels, apiFiles_places hapis]
  rfl

lemma skeletonFile_place (h : e.skeletonFile v a = .ok file) :
    placeOf file = (⟨.services, [e.versionModule v], e.apiModule a⟩, []) := by
  obtain ⟨sigs, -, h⟩ := bind_eq_ok_iff.1 h
  cases h
  rfl

lemma versionSkeletons_places (h : e.versionSkeletons v = .ok files) :
    files.map placeOf = skeletonPlaces e v := by
  obtain ⟨skeletons, hskeletons, h⟩ := bind_eq_ok_iff.1 h
  cases h
  rw [List.map_cons, map_of_mapM hskeletons fun a _ file hfile => skeletonFile_place hfile]
  rfl

lemma skeletonFiles_places (h : e.skeletonFiles = .ok files) :
    files.map placeOf =
      (.ofDirectory .services [], ModuleIndex.sorted (e.spec.versions.map e.versionModule)) ::
        e.spec.versions.flatMap (skeletonPlaces e) := by
  obtain ⟨versions, hversions, h⟩ := bind_eq_ok_iff.1 h
  cases h
  rw [List.map_cons, flatMap_of_mapM hversions fun v _ files hfiles => versionSkeletons_places hfiles]
  rfl

lemma errorFile_place (h : e.errorFile = .ok file) :
    placeOf file = (⟨.generated, [], "errors"⟩, []) := by
  obtain ⟨variants, -, h⟩ := bind_eq_ok_iff.1 h
  obtain ⟨models, -, h⟩ := bind_eq_ok_iff.1 h
  cases h
  rfl

lemma supportFiles_places :
    e.supportFiles.map placeOf = e.supportModules.map fun s => (⟨.generated, [], s.name⟩, []) := by
  unfold Emission.supportFiles
  rw [List.map_map]
  rfl

/-- The places of the files of a run, in the order in which they are emitted. -/
theorem files_places (h : e.files = .ok files) : files.map placeOf = outline e := by
  unfold Emission.files at h
  unfold outline
  obtain ⟨errors, herrors, h⟩ := bind_eq_ok_iff.1 h
  obtain ⟨versions, hversions, h⟩ := bind_eq_ok_iff.1 h
  have hplaces : versions.flatten.map placeOf = e.versions.flatMap (versionPlaces e) :=
    flatMap_of_mapM hversions fun v _ files hfiles => versionFiles_places hfiles
  have hroot : placeOf e.rootIndex = (.ofDirectory .generated [], e.rootModules) := rfl
  by_cases hrun : e.run = .service
  · simp only [hrun, ite_true] at h ⊢
    obtain ⟨skeletons, hskeletons, h⟩ := bind_eq_ok_iff.1 h
    cases h
    simp only [List.map_append, List.map_cons, hroot, supportFiles_places, errorFile_place herrors,
      hplaces, skeletonFiles_places hskeletons, List.map_nil]
    rfl
  · simp only [hrun, ite_false] at h ⊢
    cases h
    simp only [List.map_append, List.map_cons, hroot, supportFiles_places, errorFile_place herrors,
      hplaces, List.map_nil]

end Places

/-! ### Members of the outline -/

section Members

variable {e : Emission} {v : Version} {p : Place} {area : TreeArea} {dirs : List String} {m : String}

lemma mem_sorted {modules : List String} : m ∈ ModuleIndex.sorted modules ↔ m ∈ modules := by
  have hinsert : ∀ n ms, m ∈ ModuleIndex.insertSorted n ms ↔ m = n ∨ m ∈ ms := by
    intro n ms
    induction ms with
    | nil => simp [ModuleIndex.insertSorted]
    | cons k ms ih =>
      rw [ModuleIndex.insertSorted]
      split
      · simp
      · rw [List.mem_cons, ih, List.mem_cons]
        tauto
  have hfold : ∀ ms, m ∈ modules.foldl (fun ms m => ModuleIndex.insertSorted m ms) ms ↔
      m ∈ ms ∨ m ∈ modules := by
    induction modules with
    | nil => simp
    | cons n modules ih =>
      intro ms
      rw [List.foldl_cons, ih, hinsert, List.mem_cons]
      tauto
  rw [ModuleIndex.sorted, hfold]
  simp

lemma mem_versions_iff :
    v ∈ e.versions ↔ v ∈ e.spec.versions ∧ (e.run = .models → v.models ≠ []) := by
  unfold Emission.versions
  rw [List.mem_filter]
  refine and_congr_right fun _ => ?_
  cases e.run with
  | models => simp
  | client => simp
  | service => simp

lemma mem_rootModules_iff : m ∈ e.rootModules ↔ (∃ s ∈ e.supportModules, s.name = m) ∨
    m = "errors" ∨ (e.run = .service ∧ m = "routing") ∨ ∃ v ∈ e.versions, e.versionModule v = m := by
  unfold Emission.rootModules
  rw [mem_sorted]
  by_cases hrun : e.run = .service
  · simp [hrun]
  · simp [hrun]

lemma mem_versionModules_iff : m ∈ e.versionModules v ↔
    (v.models ≠ [] ∧ m = "models") ∨ e.run ≠ .models ∧ ∃ a ∈ v.apis, e.apiModule a = m := by
  unfold Emission.versionModules
  rw [mem_sorted]
  by_cases hempty : v.models = []
  · by_cases hrun : e.run = .models
    · simp [hempty, hrun]
    · simp [hempty, hrun]
  · by_cases hrun : e.run = .models
    · simp [hempty, hrun]
    · simp [hempty, hrun]

lemma mem_apiPlaces_iff : p ∈ apiPlaces e v ↔
    (e.run = .client ∧ ∃ a ∈ v.apis, p = (⟨.generated, [e.versionModule v], e.apiModule a⟩, [])) ∨
      (e.run = .service ∧ ∃ a ∈ v.apis, p = (.ofDirectory .generated (e.apiDirs v a), ["routing"]) ∨
        p = (⟨.generated, e.apiDirs v a, "routing"⟩, [])) := by
  unfold apiPlaces
  cases e.run with
  | models => simp
  | client => simp [eq_comm]
  | service => simp

lemma mem_versionPlaces_iff : p ∈ versionPlaces e v ↔
    p = (.ofDirectory .generated [e.versionModule v], e.versionModules v) ∨
      (v.models ≠ [] ∧ p = (⟨.generated, [e.versionModule v], "models"⟩, [])) ∨
      p ∈ apiPlaces e v := by
  unfold versionPlaces modelPlaces
  by_cases hempty : v.models = []
  · simp [hempty]
  · simp [hempty]

lemma mem_outline_iff : p ∈ outline e ↔
    p = (.ofDirectory .generated [], e.rootModules) ∨
      (∃ s ∈ e.supportModules, p = (⟨.generated, [], s.name⟩, [])) ∨
      p = (⟨.generated, [], "errors"⟩, []) ∨
      (e.run = .service ∧ p = (⟨.generated, [], "routing"⟩, [])) ∨
      (∃ v ∈ e.versions, p ∈ versionPlaces e v) ∨
      (e.run = .service ∧
        (p = (.ofDirectory .services [], ModuleIndex.sorted (e.spec.versions.map e.versionModule)) ∨
          ∃ v ∈ e.spec.versions, p ∈ skeletonPlaces e v)) := by
  unfold outline
  by_cases hrun : e.run = .service
  · simp [hrun, eq_comm]
  · simp [hrun, eq_comm]

/-- What an index lists is a module of its directory, and nothing but an index lists modules. -/
lemma member_of_listed (hp : p ∈ outline e) (hm : m ∈ p.2) :
    p.1.name = "mod" ∧ Member e p.1.area p.1.dirs m := by
  rcases mem_outline_iff.1 hp with rfl | ⟨s, -, rfl⟩ | rfl | ⟨-, rfl⟩ | ⟨v, hv, hp⟩ | ⟨hrun, hp⟩
  · refine ⟨rfl, ?_⟩
    rcases mem_rootModules_iff.1 hm with ⟨s, hs, rfl⟩ | rfl | ⟨hrun, rfl⟩ | ⟨v, hv, rfl⟩
    · exact .support hs
    · exact .errors
    · exact .routing hrun
    · exact .version (mem_versions_iff.1 hv).1 (mem_versions_iff.1 hv).2
  · cases hm
  · cases hm
  · cases hm
  · have hv := (mem_versions_iff.1 hv).1
    rcases mem_versionPlaces_iff.1 hp with rfl | ⟨-, rfl⟩ | hp
    · refine ⟨rfl, ?_⟩
      rcases mem_versionModules_iff.1 hm with ⟨hmodels, rfl⟩ | ⟨hrun, a, ha, rfl⟩
      · exact .models hv hmodels
      · exact .api hv ha hrun
    · cases hm
    · rcases mem_apiPlaces_iff.1 hp with ⟨-, a, -, rfl⟩ | ⟨hrun, a, ha, rfl | rfl⟩
      · cases hm
      · cases List.mem_singleton.1 hm
        exact ⟨rfl, .apiRouting hv ha hrun⟩
      · cases hm
  · rcases hp with rfl | ⟨v, hv, hp⟩
    · obtain ⟨v, hv, rfl⟩ := List.mem_map.1 (mem_sorted.1 hm)
      exact ⟨rfl, .skeletonVersion hv hrun⟩
    · rcases List.mem_cons.1 hp with rfl | hp
      · obtain ⟨a, ha, rfl⟩ := List.mem_map.1 (mem_sorted.1 hm)
        exact ⟨rfl, .skeleton hv ha hrun⟩
      · obtain ⟨a, -, rfl⟩ := List.mem_map.1 hp
        cases hm

lemma mem_outline_of_version (hv : v ∈ e.spec.versions) (hrun : e.run = .models → v.models ≠ [])
    (hp : p ∈ versionPlaces e v) : p ∈ outline e :=
  mem_outline_iff.2 (Or.inr (Or.inr (Or.inr (Or.inr (Or.inl
    ⟨v, mem_versions_iff.2 ⟨hv, hrun⟩, hp⟩)))))

lemma mem_outline_of_skeleton (hv : v ∈ e.spec.versions) (hrun : e.run = .service)
    (hp : p ∈ skeletonPlaces e v) : p ∈ outline e :=
  mem_outline_iff.2 (Or.inr (Or.inr (Or.inr (Or.inr (Or.inr ⟨hrun, Or.inr ⟨v, hv, hp⟩⟩)))))

lemma serviceIndex_mem {a : Api} (ha : a ∈ v.apis) (hrun : e.run = .service) :
    (.ofDirectory .generated (e.apiDirs v a), ["routing"]) ∈ versionPlaces e v :=
  mem_versionPlaces_iff.2 (Or.inr (Or.inr (mem_apiPlaces_iff.2 (Or.inr ⟨hrun, a, ha, Or.inl rfl⟩))))

lemma serviceRouting_mem {a : Api} (ha : a ∈ v.apis) (hrun : e.run = .service) :
    (⟨.generated, e.apiDirs v a, "routing"⟩, []) ∈ versionPlaces e v :=
  mem_versionPlaces_iff.2 (Or.inr (Or.inr (mem_apiPlaces_iff.2 (Or.inr ⟨hrun, a, ha, Or.inr rfl⟩))))

lemma client_mem {a : Api} (ha : a ∈ v.apis) (hrun : e.run = .client) :
    (⟨.generated, [e.versionModule v], e.apiModule a⟩, []) ∈ versionPlaces e v :=
  mem_versionPlaces_iff.2 (Or.inr (Or.inr (mem_apiPlaces_iff.2 (Or.inl ⟨hrun, a, ha, rfl⟩))))

/-- Only a run of models leaves a version out. -/
lemma emitted_of_run (hrun : e.run ≠ .models) : e.run = .models → v.models ≠ [] :=
  fun h => absurd h hrun

lemma emitted_of_service (hrun : e.run = .service) : e.run = .models → v.models ≠ [] :=
  emitted_of_run (by rw [hrun]; decide)

/-- Each module of a directory stands in the index of that directory. -/
lemma Member.listed (h : Member e area dirs m) :
    ∃ p ∈ outline e, p.1 = .ofDirectory area dirs ∧ m ∈ p.2 := by
  have hroot : (.ofDirectory .generated [], e.rootModules) ∈ outline e :=
    mem_outline_iff.2 (Or.inl rfl)
  have hversion : ∀ v, (.ofDirectory .generated [e.versionModule v], e.versionModules v) ∈
      versionPlaces e v := fun _ => List.mem_cons_self
  cases h with
  | support hs => exact ⟨_, hroot, rfl, mem_rootModules_iff.2 (Or.inl ⟨_, hs, rfl⟩)⟩
  | errors => exact ⟨_, hroot, rfl, mem_rootModules_iff.2 (Or.inr (Or.inl rfl))⟩
  | routing hrun =>
    exact ⟨_, hroot, rfl, mem_rootModules_iff.2 (Or.inr (Or.inr (Or.inl ⟨hrun, rfl⟩)))⟩
  | @version v hv hrun =>
    refine ⟨_, hroot, rfl, mem_rootModules_iff.2 (Or.inr (Or.inr (Or.inr ?_)))⟩
    exact ⟨v, mem_versions_iff.2 ⟨hv, hrun⟩, rfl⟩
  | @models v hv hmodels =>
    refine ⟨_, mem_outline_of_version hv (fun _ => hmodels) (hversion v), rfl, ?_⟩
    exact mem_versionModules_iff.2 (Or.inl ⟨hmodels, rfl⟩)
  | @api v a hv ha hrun =>
    refine ⟨_, mem_outline_of_version hv (emitted_of_run hrun) (hversion v), rfl, ?_⟩
    exact mem_versionModules_iff.2 (Or.inr ⟨hrun, a, ha, rfl⟩)
  | @apiRouting v a hv ha hrun =>
    exact ⟨_, mem_outline_of_version hv (emitted_of_service hrun) (serviceIndex_mem ha hrun), rfl,
      List.mem_singleton.2 rfl⟩
  | @skeletonVersion v hv hrun =>
    refine ⟨_, mem_outline_iff.2 (Or.inr (Or.inr (Or.inr (Or.inr (Or.inr ⟨hrun, Or.inl rfl⟩))))),
      rfl, mem_sorted.2 (List.mem_map_of_mem hv)⟩
  | @skeleton v a hv ha hrun =>
    refine ⟨_, mem_outline_of_skeleton hv hrun List.mem_cons_self, rfl, ?_⟩
    exact mem_sorted.2 (List.mem_map_of_mem ha)

/-- Each module of a directory is a file in it, or a directory with an index. -/
lemma Member.present (h : Member e area dirs m) :
    ∃ p ∈ outline e, p.1 = ⟨area, dirs, m⟩ ∨ p.1 = .ofDirectory area (dirs ++ [m]) := by
  cases h with
  | support hs =>
    exact ⟨_, mem_outline_iff.2 (Or.inr (Or.inl ⟨_, hs, rfl⟩)), Or.inl rfl⟩
  | errors => exact ⟨_, mem_outline_iff.2 (Or.inr (Or.inr (Or.inl rfl))), Or.inl rfl⟩
  | routing hrun =>
    exact ⟨_, mem_outline_iff.2 (Or.inr (Or.inr (Or.inr (Or.inl ⟨hrun, rfl⟩)))), Or.inl rfl⟩
  | @version v hv hrun =>
    exact ⟨_, mem_outline_of_version hv hrun List.mem_cons_self, Or.inr rfl⟩
  | @models v hv hmodels =>
    have hplace : (⟨.generated, [e.versionModule v], "models"⟩, []) ∈ versionPlaces e v :=
      mem_versionPlaces_iff.2 (Or.inr (Or.inl ⟨hmodels, rfl⟩))
    exact ⟨_, mem_outline_of_version hv (fun _ => hmodels) hplace, Or.inl rfl⟩
  | @api v a hv ha hrun =>
    cases hkind : e.run with
    | models => exact absurd hkind hrun
    | client =>
      exact ⟨_, mem_outline_of_version hv (emitted_of_run hrun) (client_mem ha hkind), Or.inl rfl⟩
    | service =>
      exact ⟨_, mem_outline_of_version hv (emitted_of_run hrun) (serviceIndex_mem ha hkind),
        Or.inr rfl⟩
  | @apiRouting v a hv ha hrun =>
    exact ⟨_, mem_outline_of_version hv (emitted_of_service hrun) (serviceRouting_mem ha hrun),
      Or.inl rfl⟩
  | @skeletonVersion v hv hrun =>
    exact ⟨_, mem_outline_of_skeleton hv hrun List.mem_cons_self, Or.inr rfl⟩
  | @skeleton v a hv ha hrun =>
    have hplace : (⟨.services, [e.versionModule v], e.apiModule a⟩, []) ∈ skeletonPlaces e v :=
      List.mem_cons_of_mem _ (List.mem_map.2 ⟨a, ha, rfl⟩)
    exact ⟨_, mem_outline_of_skeleton hv hrun hplace, Or.inl rfl⟩

/-- The directory of a module is itself a module, unless it is a root. -/
lemma Member.parent {d : String} (h : Member e area (dirs ++ [d]) m) : Member e area dirs d := by
  have hlast : ∀ {before : List String} {last : String}, dirs ++ [d] = before ++ [last] →
      dirs = before ∧ d = last := by
    intro before last heq
    obtain ⟨hdirs, hd⟩ := List.append_inj' heq rfl
    exact ⟨hdirs, List.head_eq_of_cons_eq hd⟩
  have hroot : dirs ++ [d] ≠ [] := List.append_ne_nil_of_right_ne_nil _ (List.cons_ne_nil _ _)
  generalize hinner : dirs ++ [d] = inner at h hlast hroot
  cases h with
  | support hs => exact absurd rfl hroot
  | errors => exact absurd rfl hroot
  | routing hrun => exact absurd rfl hroot
  | version hv hrun => exact absurd rfl hroot
  | @models v hv hmodels =>
    obtain ⟨rfl, rfl⟩ := hlast (List.nil_append _).symm
    exact .version hv fun _ => hmodels
  | @api v a hv ha hrun =>
    obtain ⟨rfl, rfl⟩ := hlast (List.nil_append _).symm
    exact .version hv (emitted_of_run hrun)
  | @apiRouting v a hv ha hrun =>
    have hpair : e.apiDirs v a = [e.versionModule v] ++ [e.apiModule a] := rfl
    obtain ⟨rfl, rfl⟩ := hlast hpair
    refine .api hv ha fun h => ?_
    cases hrun.symm.trans h
  | skeletonVersion hv hrun => exact absurd rfl hroot
  | @skeleton v a hv ha hrun =>
    obtain ⟨rfl, rfl⟩ := hlast (List.nil_append _).symm
    exact .skeletonVersion hv hrun

/-- A file is the index of a root, or lies at the place of a module. -/
lemma member_of_place (hp : p ∈ outline e) :
    p.1 = .ofDirectory p.1.area [] ∨ Member e p.1.area p.1.dirs p.1.name ∨
      ∃ dirs d, p.1 = .ofDirectory p.1.area (dirs ++ [d]) ∧ Member e p.1.area dirs d := by
  rcases mem_outline_iff.1 hp with rfl | ⟨s, hs, rfl⟩ | rfl | ⟨hrun, rfl⟩ | ⟨v, hv, hp⟩ | ⟨hrun, hp⟩
  · exact Or.inl rfl
  · exact Or.inr (Or.inl (.support hs))
  · exact Or.inr (Or.inl .errors)
  · exact Or.inr (Or.inl (.routing hrun))
  · obtain ⟨hv, hemitted⟩ := mem_versions_iff.1 hv
    rcases mem_versionPlaces_iff.1 hp with rfl | ⟨hmodels, rfl⟩ | hp
    · exact Or.inr (Or.inr ⟨[], _, rfl, .version hv hemitted⟩)
    · exact Or.inr (Or.inl (.models hv hmodels))
    · rcases mem_apiPlaces_iff.1 hp with ⟨hrun, a, ha, rfl⟩ | ⟨hrun, a, ha, rfl | rfl⟩
      · exact Or.inr (Or.inl (.api hv ha (by rw [hrun]; decide)))
      · exact Or.inr (Or.inr ⟨[_], _, rfl, .api hv ha (by rw [hrun]; decide)⟩)
      · exact Or.inr (Or.inl (.apiRouting hv ha hrun))
  · rcases hp with rfl | ⟨v, hv, hp⟩
    · exact Or.inl rfl
    · rcases List.mem_cons.1 hp with rfl | hp
      · exact Or.inr (Or.inr ⟨[], _, rfl, .skeletonVersion hv hrun⟩)
      · obtain ⟨a, ha, rfl⟩ := List.mem_map.1 hp
        exact Or.inr (Or.inl (.skeleton hv ha hrun))

end Members

/-! ### The tree -/

section Trees

variable {e : Emission} {area : TreeArea} {dirs : List String} {m : String}

/-- The index of the directory is among the files and lists the module. -/
def Lists (files : List TreeFile) (area : TreeArea) (dirs : List String) (m : String) : Prop :=
  ∃ f ∈ files, f.path = .ofDirectory area dirs ∧ m ∈ f.listedModules

/-- The file of the module is among the files, or the index of its directory is. -/
def HasModule (files : List TreeFile) (area : TreeArea) (dirs : List String) (m : String) : Prop :=
  ∃ f ∈ files, f.path = ⟨area, dirs, m⟩ ∨ f.path = .ofDirectory area (dirs ++ [m])

/-- An artifact has the path of its file, and declares the modules that the file lists. -/
structure Written (e : Emission) (f : TreeFile) (a : Artifact) : Prop where
  path : a.path = e.pathText f.path
  content : ∃ rest, a.content = opening f ++ rest ∧ ∀ i, f.content = .index i → rest = ""

/-- The files of a run and the lists in its indexes are one tree. -/
structure ModuleTree (e : Emission) (files : List TreeFile) (artifacts : List Artifact) : Prop where
  /-- The lists are those of the modules of the run. -/
  lists_iff : ∀ area dirs m, Lists files area dirs m ↔ Member e area dirs m
  /-- Nothing but an index lists modules. -/
  index : ∀ f ∈ files, f.listedModules ≠ [] → f.path.name = "mod"
  /-- What is listed is there. -/
  present : ∀ area dirs m, Lists files area dirs m → HasModule files area dirs m
  /-- A file that is no index is listed. -/
  file : ∀ f ∈ files, f.path.name ≠ "mod" → Lists files f.path.area f.path.dirs f.path.name
  /-- A directory with an index is listed, unless it is a root. -/
  directory : ∀ f ∈ files, ∀ area dirs m, f.path = .ofDirectory area (dirs ++ [m]) →
    Lists files area dirs m
  written : List.Forall₂ (Written e) files artifacts
  /-- The two places of a module as paths. -/
  paths : ∀ area dirs m,
    e.pathText ⟨area, dirs, m⟩ = directoryText e area dirs ++ m ++ ".rs" ∧
      e.pathText (.ofDirectory area (dirs ++ [m])) = directoryText e area dirs ++ m ++ "/mod.rs"

lemma lists_iff_member {files : List TreeFile} (h : files.map placeOf = outline e) :
    Lists files area dirs m ↔ Member e area dirs m := by
  constructor
  · rintro ⟨f, hf, hpath, hm⟩
    have hplace : placeOf f ∈ outline e := h ▸ List.mem_map_of_mem hf
    obtain ⟨-, hmember⟩ := member_of_listed hplace hm
    have hfst : (placeOf f).1 = .ofDirectory area dirs := hpath
    rw [hfst] at hmember
    exact hmember
  · intro hmember
    obtain ⟨p, hp, hpath, hm⟩ := hmember.listed
    rw [← h] at hp
    obtain ⟨f, hf, rfl⟩ := List.mem_map.1 hp
    exact ⟨f, hf, hpath, hm⟩

lemma written_of_artifact {f : TreeFile} {a : Artifact} (h : e.artifact f = .ok a) :
    Written e f a := by
  obtain ⟨text, htext, rfl⟩ := map_eq_ok_iff.1 h
  exact ⟨rfl, text_opening htext⟩

lemma moduleTree_of_files {files : List TreeFile} {artifacts : List Artifact}
    (hfiles : e.files = .ok files) (hartifacts : files.mapM e.artifact = .ok artifacts) :
    ModuleTree e files artifacts := by
  have hplaces := files_places hfiles
  have hplace : ∀ f ∈ files, placeOf f ∈ outline e :=
    fun f hf => hplaces ▸ List.mem_map_of_mem hf
  refine ⟨fun area dirs m => lists_iff_member hplaces, ?_, ?_, ?_, ?_, ?_, ?_⟩
  · intro f hf hlisted
    obtain ⟨m, hm⟩ := List.exists_mem_of_ne_nil _ hlisted
    exact (member_of_listed (hplace f hf) hm).1
  · intro area dirs m hlists
    obtain ⟨p, hp, hpath⟩ := ((lists_iff_member hplaces).1 hlists).present
    rw [← hplaces] at hp
    obtain ⟨f, hf, rfl⟩ := List.mem_map.1 hp
    exact ⟨f, hf, hpath⟩
  · intro f hf hname
    rcases member_of_place (hplace f hf) with hroot | hmember | ⟨dirs, d, hpath, -⟩
    · exact absurd (congrArg TreePath.name hroot) hname
    · exact (lists_iff_member hplaces).2 hmember
    · exact absurd (congrArg TreePath.name hpath) hname
  · intro f hf area dirs m hpath
    have hfst : (placeOf f).1 = .ofDirectory area (dirs ++ [m]) := hpath
    have hmember : Member e area dirs m := by
      rcases member_of_place (hplace f hf) with hroot | hmember | ⟨before, d, hdirectory, hmember⟩
      · have hdirs := congrArg TreePath.dirs (hfst.symm.trans hroot)
        exact absurd hdirs (List.append_ne_nil_of_right_ne_nil _ (List.cons_ne_nil _ _))
      · rw [hfst] at hmember
        exact hmember.parent
      · have hdirs := congrArg TreePath.dirs (hfst.symm.trans hdirectory)
        obtain ⟨rfl, hlast⟩ := List.append_inj' hdirs rfl
        obtain rfl := List.head_eq_of_cons_eq hlast
        rw [hfst] at hmember
        exact hmember
    exact (lists_iff_member hplaces).2 hmember
  · exact (mapM_eq_ok_iff.1 hartifacts).imp fun f a => written_of_artifact
  · exact fun area dirs m => ⟨pathText_eq e area dirs m, pathText_ofDirectory e area dirs m⟩

end Trees

/-- Indexes and files describe the same tree in every run on a valid description, and this tree is
what the run gives. -/
theorem validated_module_tree (spec : Spec) (g : Generator) (run : RunKind)
    (h : spec.validate g.naming = .ok ()) :
    ∃ files artifacts, (Emission.mk spec g.config g.naming run).files = .ok files ∧
      ModuleTree ⟨spec, g.config, g.naming, run⟩ files artifacts ∧
      ∀ set, g.generate spec run = .ok set → set.files = artifacts := by
  obtain ⟨files, artifacts, hfiles, hartifacts, hgiven⟩ := exists_run g run h
  exact ⟨files, artifacts, hfiles, moduleTree_of_files hfiles hartifacts, hgiven⟩

/-- The index of the version of the shop lists its orders, which have a directory. -/
theorem validated_module_tree_shop :
    shop.validate .standard = .ok () ∧
      ∃ files, (Emission.mk shop .standard .standard .service).files = .ok files ∧
        Lists files .generated ["v1"] "orders" ∧ HasModule files .generated ["v1"] "orders" := by
  have hvalid : shop.validate .standard = .ok () := by decide +kernel
  obtain ⟨files, artifacts, hfiles, htree, -⟩ :=
    validated_module_tree shop ⟨.standard, .standard, fun _ => true⟩ .service hvalid
  have hmember : Member ⟨shop, .standard, .standard, .service⟩ .generated ["v1"] "orders" :=
    .api (v := shopVersion) (a := ⟨"orders", [putOrder]⟩) List.mem_cons_self List.mem_cons_self
      (by decide)
  have hlists := (htree.lists_iff .generated ["v1"] "orders").2 hmember
  exact ⟨hvalid, files, hfiles, hlists, htree.present _ _ _ hlists⟩

end ApiCodegen.Proofs
