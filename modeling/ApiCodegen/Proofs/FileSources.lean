import ApiCodegen.Proofs.Sequencing
import ApiCodegen.Tree.Generator

/-!
# The emitters of the files of a run

A run lists its files emitter by emitter. `Emitted` forgets the order and says which emitter a file
comes from, so that a property of all files is one case for each emitter.
-/

namespace ApiCodegen.Proofs

section Results

variable {ε α β : Type}

lemma mem_mapM_iff {f : α → Except ε β} {as : List α} {bs : List β} (h : as.mapM f = .ok bs)
    {b : β} : b ∈ bs ↔ ∃ a ∈ as, f a = .ok b := by
  constructor
  · exact exists_of_mem_mapM h
  · rintro ⟨a, ha, hb⟩
    obtain ⟨b', hb', hfa⟩ := exists_mem_of_mapM h ha
    rw [hfa, Except.ok.injEq] at hb
    exact hb ▸ hb'

lemma mem_flatten_mapM_iff {f : α → Except ε (List β)} {as : List α} {bs : List (List β)}
    (h : as.mapM f = .ok bs) {b : β} :
    b ∈ bs.flatten ↔ ∃ a ∈ as, ∃ group, f a = .ok group ∧ b ∈ group := by
  rw [List.mem_flatten]
  constructor
  · rintro ⟨group, hgroup, hb⟩
    obtain ⟨a, ha, hfa⟩ := (mem_mapM_iff h).1 hgroup
    exact ⟨a, ha, group, hfa, hb⟩
  · rintro ⟨a, ha, group, hfa, hb⟩
    exact ⟨group, (mem_mapM_iff h).2 ⟨a, ha, hfa⟩, hb⟩

end Results

/-- The files of a run by their emitters. -/
inductive Emitted (e : Emission) : TreeFile → Prop
  | rootIndex : Emitted e e.rootIndex
  | support {m : SupportModule} (hm : m ∈ e.supportModules) :
    Emitted e ⟨⟨.generated, [], m.name⟩, .support m.lines⟩
  | errors {f : TreeFile} (hf : e.errorFile = .ok f) : Emitted e f
  | router (hrun : e.run = .service) : Emitted e e.rootRouterFile
  | versionIndex {v : Version} (hv : v ∈ e.versions) :
    Emitted e ⟨.ofDirectory .generated [e.versionModule v], .index ⟨true, e.versionModules v⟩⟩
  | models {v : Version} {files : List TreeFile} {f : TreeFile} (hv : v ∈ e.versions)
    (hfiles : e.modelFiles v = .ok files) (hf : f ∈ files) : Emitted e f
  | client {v : Version} {a : Api} {f : TreeFile} (hrun : e.run = .client) (hv : v ∈ e.versions)
    (ha : a ∈ v.apis) (hf : e.clientFile v a = .ok f) : Emitted e f
  | service {v : Version} {a : Api} {files : List TreeFile} {f : TreeFile} (hrun : e.run = .service)
    (hv : v ∈ e.versions) (ha : a ∈ v.apis) (hfiles : e.serviceFiles v a = .ok files)
    (hf : f ∈ files) : Emitted e f
  | skeletonIndex (hrun : e.run = .service) :
    Emitted e (Emission.skeletonIndex [] (e.spec.versions.map e.versionModule))
  | versionSkeletonIndex {v : Version} (hrun : e.run = .service) (hv : v ∈ e.spec.versions) :
    Emitted e (Emission.skeletonIndex [e.versionModule v] (v.apis.map e.apiModule))
  | skeleton {v : Version} {a : Api} {f : TreeFile} (hrun : e.run = .service)
    (hv : v ∈ e.spec.versions) (ha : a ∈ v.apis) (hf : e.skeletonFile v a = .ok f) : Emitted e f

section Runs

variable {e : Emission} {v : Version} {a : Api} {files : List TreeFile} {f : TreeFile}

/-! ### Places and imports -/

lemma errorFile_source (h : e.errorFile = .ok f) :
    ∃ body, f = ⟨⟨.generated, [], "errors"⟩, .source (.plain e.errorUses body)⟩ := by
  obtain ⟨variants, -, h⟩ := bind_eq_ok_iff.1 h
  obtain ⟨models, -, h⟩ := bind_eq_ok_iff.1 h
  cases h
  exact ⟨_, rfl⟩

lemma modelFiles_source (h : e.modelFiles v = .ok files) (hf : f ∈ files) :
    ∃ body, f = ⟨⟨.generated, [e.versionModule v], "models"⟩,
      .source (.plain (e.modelUses v) body)⟩ := by
  unfold Emission.modelFiles at h
  split at h
  · cases h
    cases hf
  · obtain ⟨body, -, h⟩ := bind_eq_ok_iff.1 h
    cases h
    exact ⟨body, List.mem_singleton.1 hf⟩

lemma clientFile_source (h : e.clientFile v a = .ok f) :
    ∃ errors body, f = ⟨⟨.generated, [e.versionModule v], e.apiModule a⟩,
      .source (.plain (e.clientUses v a errors) body)⟩ := by
  obtain ⟨sigs, -, h⟩ := bind_eq_ok_iff.1 h
  obtain ⟨errors, -, h⟩ := bind_eq_ok_iff.1 h
  cases h
  exact ⟨errors, _, rfl⟩

/-- The module of a service and that of its routing. -/
lemma serviceFiles_source (h : e.serviceFiles v a = .ok files) :
    ∃ sigs, e.signatures v a = .ok sigs ∧ files = [
      ⟨.ofDirectory .generated (e.apiDirs v a), .source ⟨["routing"], false,
        .internal ["errors"] (.name "ServiceError") :: e.apiUses v a, e.serviceBody a sigs⟩⟩,
      ⟨⟨.generated, e.apiDirs v a, "routing"⟩, .source ⟨[], true, (HandlerNeeds.ofApi a).uses,
        e.routerCode v a sigs ++
          .all ((e.handlers v a sigs).map fun h => .blank ++ h.code)⟩⟩] := by
  obtain ⟨sigs, hsigs, h⟩ := bind_eq_ok_iff.1 h
  cases h
  exact ⟨sigs, hsigs, rfl⟩

lemma skeletonFile_source (h : e.skeletonFile v a = .ok f) :
    ∃ sigs methods, e.signatures v a = .ok sigs ∧
      f = ⟨⟨.services, [e.versionModule v], e.apiModule a⟩, .skeleton {
        api := a.name
        uses := [.internal ["errors"] (.name "ServiceError"),
          .internal (e.apiDirs v a) .everything] ++ e.signatureUses v sigs
        traitName := e.traitName a
        methods := methods }⟩ := by
  obtain ⟨sigs, hsigs, h⟩ := bind_eq_ok_iff.1 h
  cases h
  exact ⟨sigs, _, hsigs, rfl⟩

/-! ### Membership -/

lemma mem_apiFiles_iff (h : e.apiFiles v = .ok files) : f ∈ files ↔
    (e.run = .client ∧ ∃ a ∈ v.apis, e.clientFile v a = .ok f) ∨
      (e.run = .service ∧ ∃ a ∈ v.apis, ∃ group, e.serviceFiles v a = .ok group ∧ f ∈ group) := by
  unfold Emission.apiFiles at h
  cases hrun : e.run with
  | models =>
    rw [hrun] at h
    cases h
    simp
  | client =>
    rw [hrun] at h
    simp [mem_mapM_iff h]
  | service =>
    rw [hrun] at h
    obtain ⟨groups, hgroups, rfl⟩ := map_eq_ok_iff.1 h
    simp only [mem_flatten_mapM_iff hgroups, reduceCtorEq, false_and, false_or, true_and]

lemma mem_skeletonFiles_iff (h : e.skeletonFiles = .ok files) : f ∈ files ↔
    f = Emission.skeletonIndex [] (e.spec.versions.map e.versionModule) ∨
      ∃ v ∈ e.spec.versions,
        f = Emission.skeletonIndex [e.versionModule v] (v.apis.map e.apiModule) ∨
        ∃ a ∈ v.apis, e.skeletonFile v a = .ok f := by
  obtain ⟨groups, hgroups, h⟩ := bind_eq_ok_iff.1 h
  cases h
  rw [List.mem_cons, mem_flatten_mapM_iff hgroups]
  refine or_congr_right (exists_congr fun v => and_congr_right fun hv => ?_)
  obtain ⟨group, -, hgroup⟩ := exists_mem_of_mapM hgroups hv
  have hunique : ∀ found, e.versionSkeletons v = .ok found ↔ group = found := by
    intro found
    rw [hgroup, Except.ok.injEq]
  obtain ⟨skeletons, hskeletons, hcons⟩ := bind_eq_ok_iff.1 hgroup
  cases hcons
  simp only [hunique, exists_eq_left', List.mem_cons, mem_mapM_iff hskeletons]

lemma mem_versionFiles_iff (h : e.versionFiles v = .ok files) : f ∈ files ↔
    f = ⟨.ofDirectory .generated [e.versionModule v], .index ⟨true, e.versionModules v⟩⟩ ∨
      (∃ models, e.modelFiles v = .ok models ∧ f ∈ models) ∨
      (e.run = .client ∧ ∃ a ∈ v.apis, e.clientFile v a = .ok f) ∨
      (e.run = .service ∧ ∃ a ∈ v.apis, ∃ group, e.serviceFiles v a = .ok group ∧ f ∈ group) := by
  obtain ⟨models, hmodels, h⟩ := bind_eq_ok_iff.1 h
  obtain ⟨apis, hapis, h⟩ := bind_eq_ok_iff.1 h
  cases h
  rw [List.mem_cons, List.mem_append, mem_apiFiles_iff hapis]
  simp only [hmodels, Except.ok.injEq, exists_eq_left']

/-- The files of a run, group by group. -/
structure Groups (e : Emission) (files : List TreeFile) (errors : TreeFile)
    (versions : List (List TreeFile)) (skeletons : List TreeFile) : Prop where
  errorFile : e.errorFile = .ok errors
  versionFiles : e.versions.mapM e.versionFiles = .ok versions
  skeletonFiles : e.run = .service → e.skeletonFiles = .ok skeletons
  noSkeletons : e.run ≠ .service → skeletons = []
  all : files = e.rootIndex :: e.supportFiles ++ [errors] ++
    (if e.run = .service then [e.rootRouterFile] else []) ++ versions.flatten ++ skeletons

lemma exists_groups (h : e.files = .ok files) :
    ∃ errors versions skeletons, Groups e files errors versions skeletons := by
  unfold Emission.files at h
  obtain ⟨errors, herrors, h⟩ := bind_eq_ok_iff.1 h
  obtain ⟨versions, hversions, h⟩ := bind_eq_ok_iff.1 h
  by_cases hrun : e.run = .service
  · simp only [hrun, ite_true] at h
    obtain ⟨skeletons, hskeletons, h⟩ := bind_eq_ok_iff.1 h
    cases h
    exact ⟨errors, versions, skeletons, herrors, hversions, fun _ => hskeletons,
      fun hne => absurd hrun hne, by rw [if_pos hrun]⟩
  · simp only [hrun, ite_false] at h
    cases h
    exact ⟨errors, versions, [], herrors, hversions, fun hservice => absurd hservice hrun,
      fun _ => rfl, by rw [if_neg hrun]⟩

/-- Once a run gives its files, these are what its emitters give. -/
theorem mem_files_iff (h : e.files = .ok files) : f ∈ files ↔ Emitted e f := by
  obtain ⟨errors, versions, skeletons, hgroups⟩ := exists_groups h
  have hversion : f ∈ versions.flatten ↔ ∃ v ∈ e.versions, ∃ group, e.versionFiles v = .ok group ∧
      f ∈ group := mem_flatten_mapM_iff hgroups.versionFiles
  have hmem : f ∈ files ↔ (f = e.rootIndex ∨ f ∈ e.supportFiles ∨ f = errors ∨
      (e.run = .service ∧ f = e.rootRouterFile)) ∨ f ∈ versions.flatten ∨ f ∈ skeletons := by
    rw [hgroups.all]
    by_cases hrun : e.run = .service
    · simp [hrun, or_assoc]
    · simp [hrun, or_assoc]
  rw [hmem, hversion]
  constructor
  · rintro ((rfl | hf | rfl | ⟨hrun, rfl⟩) | ⟨v, hv, group, hgroup, hf⟩ | hf)
    · exact .rootIndex
    · obtain ⟨m, hm, rfl⟩ := List.mem_map.1 hf
      exact .support hm
    · exact .errors hgroups.errorFile
    · exact .router hrun
    · rcases (mem_versionFiles_iff hgroup).1 hf with
        rfl | ⟨models, hmodels, hf⟩ | ⟨hrun, a, ha, hf⟩ | ⟨hrun, a, ha, group, hgroup, hf⟩
      · exact .versionIndex hv
      · exact .models hv hmodels hf
      · exact .client hrun hv ha hf
      · exact .service hrun hv ha hgroup hf
    · by_cases hrun : e.run = .service
      · have hskeleton := (mem_skeletonFiles_iff (hgroups.skeletonFiles hrun)).1 hf
        rcases hskeleton with rfl | ⟨v, hv, rfl | ⟨a, ha, hf⟩⟩
        · exact .skeletonIndex hrun
        · exact .versionSkeletonIndex hrun hv
        · exact .skeleton hrun hv ha hf
      · rw [hgroups.noSkeletons hrun] at hf
        cases hf
  · have hversion : ∀ {v}, v ∈ e.versions →
        (∀ group, e.versionFiles v = .ok group → f ∈ group) →
        ∃ v ∈ e.versions, ∃ group, e.versionFiles v = .ok group ∧ f ∈ group := by
      intro v hv hf
      obtain ⟨group, -, hgroup⟩ := exists_mem_of_mapM hgroups.versionFiles hv
      exact ⟨v, hv, group, hgroup, hf group hgroup⟩
    have hskeleton : e.run = .service → (f ∈ skeletons ↔ _) := fun hrun =>
      mem_skeletonFiles_iff (hgroups.skeletonFiles hrun)
    intro hf
    cases hf with
    | rootIndex => exact Or.inl (Or.inl rfl)
    | support hm => exact Or.inl (Or.inr (Or.inl (List.mem_map_of_mem hm)))
    | errors hf =>
      rw [hgroups.errorFile, Except.ok.injEq] at hf
      exact Or.inl (Or.inr (Or.inr (Or.inl hf.symm)))
    | router hrun => exact Or.inl (Or.inr (Or.inr (Or.inr ⟨hrun, rfl⟩)))
    | versionIndex hv =>
      refine Or.inr (Or.inl (hversion hv fun group hgroup => ?_))
      exact (mem_versionFiles_iff hgroup).2 (Or.inl rfl)
    | models hv hmodels hf =>
      refine Or.inr (Or.inl (hversion hv fun group hgroup => ?_))
      exact (mem_versionFiles_iff hgroup).2 (Or.inr (Or.inl ⟨_, hmodels, hf⟩))
    | client hrun hv ha hf =>
      refine Or.inr (Or.inl (hversion hv fun group hgroup => ?_))
      exact (mem_versionFiles_iff hgroup).2 (Or.inr (Or.inr (Or.inl ⟨hrun, _, ha, hf⟩)))
    | service hrun hv ha hservice hf =>
      refine Or.inr (Or.inl (hversion hv fun group hgroup => ?_))
      exact (mem_versionFiles_iff hgroup).2
        (Or.inr (Or.inr (Or.inr ⟨hrun, _, ha, _, hservice, hf⟩)))
    | skeletonIndex hrun =>
      exact Or.inr (Or.inr ((hskeleton hrun).2 (Or.inl rfl)))
    | versionSkeletonIndex hrun hv =>
      refine Or.inr (Or.inr ((hskeleton hrun).2 (Or.inr ?_)))
      exact ⟨_, hv, Or.inl rfl⟩
    | skeleton hrun hv ha hf =>
      refine Or.inr (Or.inr ((hskeleton hrun).2 (Or.inr ?_)))
      exact ⟨_, hv, Or.inr ⟨_, ha, hf⟩⟩

end Runs

end ApiCodegen.Proofs
