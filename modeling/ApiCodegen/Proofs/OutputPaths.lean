import ApiCodegen.Proofs.CasedNames
import ApiCodegen.Proofs.ModuleTree
import ApiCodegen.Proofs.Splitting

/-!
# Paths below the output root

The path of a file is a configured directory, without the slashes that it ends with, and the names
of modules below it. Those names hold letters, digits, underscores and the mark of raw identifiers,
so that a path leaves the output root only if its directory does. As a directory is joined without
its last slashes, two directories that differ in nothing else are one.
-/

namespace ApiCodegen.Proofs
open Naming

/-! ### Names of modules -/

/-- A character of an identifier, or of the mark of a raw one. -/
def IsModuleChar (c : Char) : Prop := c.isAlphanum = true ∨ c = '_' ∨ c = '#'

instance : DecidablePred IsModuleChar :=
  fun c => inferInstanceAs (Decidable (c.isAlphanum = true ∨ c = '_' ∨ c = '#'))

/-- A name that can stand between slashes. -/
structure IsModuleName (name : String) : Prop where
  ne_empty : name ≠ ""
  chars : ∀ c ∈ name.toList, IsModuleChar c

section Names

variable {e : Emission} {p : Place} {name : String}

lemma isModuleName_of_isIdentifier (h : isIdentifier name = true) : IsModuleName name := by
  have hplain := isIdentifier_iff.1 h
  refine ⟨?_, fun c hc => ?_⟩
  · rintro rfl
    exact hplain.ne_empty rfl
  · rcases mem_unraw_or_mem_rawMark hc with hc | hc
    · exact (hplain.chars c hc).imp_right Or.inl
    · have hmark : rawMark.toList.all (fun c => decide (IsModuleChar c)) = true := by decide
      exact of_decide_eq_true (List.all_eq_true.1 hmark c hc)

lemma IsModuleName.notMem {c : Char} (h : IsModuleName name) (hc : ¬IsModuleChar c) :
    c ∉ name.toList :=
  fun hmem => hc (h.chars c hmem)

lemma isModuleName_moduleName (name : String) : IsModuleName (Naming.standard.moduleName name) :=
  isModuleName_of_isIdentifier (isIdentifier_moduleName name)

/-- All names along a path of a run are names of modules. -/
lemma isModuleName_of_mem_outline (hnaming : e.naming = .standard) (hp : p ∈ outline e) :
    ∀ name ∈ p.1.name :: p.1.dirs, IsModuleName name := by
  have hversion : ∀ v, IsModuleName (e.versionModule v) := by
    intro v
    unfold Emission.versionModule
    rw [hnaming]
    exact isModuleName_moduleName v.name
  have hapi : ∀ a, IsModuleName (e.apiModule a) := by
    intro a
    unfold Emission.apiModule
    rw [hnaming]
    exact isModuleName_moduleName a.name
  have hdirs : ∀ v a, ∀ name ∈ e.apiDirs v a, IsModuleName name := fun v a =>
    List.forall_mem_cons.2 ⟨hversion v, List.forall_mem_singleton.2 (hapi a)⟩
  have hsupport : ∀ s : SupportModule, IsModuleName s.name := by
    intro s
    cases s <;> exact isModuleName_of_isIdentifier (by decide)
  have hmod : IsModuleName "mod" := isModuleName_of_isIdentifier (by decide)
  have hrouting : IsModuleName "routing" := isModuleName_of_isIdentifier (by decide)
  have hmodels : IsModuleName "models" := isModuleName_of_isIdentifier (by decide)
  have herrors : IsModuleName "errors" := isModuleName_of_isIdentifier (by decide)
  rw [List.forall_mem_cons]
  rcases mem_outline_iff.1 hp with rfl | ⟨s, -, rfl⟩ | rfl | ⟨-, rfl⟩ | ⟨v, -, hp⟩ | ⟨-, hp⟩
  · exact ⟨hmod, fun s hs => nomatch hs⟩
  · exact ⟨hsupport s, fun s hs => nomatch hs⟩
  · exact ⟨herrors, fun s hs => nomatch hs⟩
  · exact ⟨hrouting, fun s hs => nomatch hs⟩
  · rcases mem_versionPlaces_iff.1 hp with rfl | ⟨-, rfl⟩ | hp
    · exact ⟨hmod, List.forall_mem_singleton.2 (hversion v)⟩
    · exact ⟨hmodels, List.forall_mem_singleton.2 (hversion v)⟩
    · rcases mem_apiPlaces_iff.1 hp with ⟨-, a, -, rfl⟩ | ⟨-, a, -, rfl | rfl⟩
      · exact ⟨hapi a, List.forall_mem_singleton.2 (hversion v)⟩
      · exact ⟨hmod, hdirs v a⟩
      · exact ⟨hrouting, hdirs v a⟩
  · rcases hp with rfl | ⟨v, -, hp⟩
    · exact ⟨hmod, fun s hs => nomatch hs⟩
    · rcases List.mem_cons.1 hp with rfl | hp
      · exact ⟨hmod, List.forall_mem_singleton.2 (hversion v)⟩
      · obtain ⟨a, -, rfl⟩ := List.mem_map.1 hp
        exact ⟨hapi a, List.forall_mem_singleton.2 (hversion v)⟩

end Names

/-! ### Directories -/

/-- A path that starts below the output root and does not climb. -/
def Inside (path : String) : Prop :=
  path.toList.head? ≠ some '/' ∧ ['.', '.'] ∉ path.toList.splitOn '/'

section Directories

variable {dir other relative : String} {names : List String} {config : Config}

lemma isInside_iff : Config.isInside dir = true ↔ Inside dir := by
  unfold Config.isInside Inside
  rw [splitString_slash, Bool.and_eq_true, Bool.not_eq_true', Bool.not_eq_true',
    beq_eq_false_iff_ne, ← Bool.not_eq_true, List.contains_iff_mem, List.mem_map]
  refine and_congr_right fun _ => not_congr ⟨?_, fun h => ⟨_, h, by decide⟩⟩
  rintro ⟨piece, hpiece, hdots⟩
  have hdots : piece = ['.', '.'] := by
    rw [← String.toList_ofList (l := piece), hdots]
    rfl
  rwa [hdots] at hpiece

lemma check_eq_ok (h : config.check = .ok ()) : Inside config.generatePath ∧
    Inside config.servicesPath ∧ config.generatePath ≠ config.servicesPath := by
  unfold Config.check at h
  obtain ⟨-, h⟩ := refuse_eq_ok_iff.1 h
  obtain ⟨hgenerate, h⟩ := refuse_eq_ok_iff.1 h
  obtain ⟨hservices, h⟩ := refuse_eq_ok_iff.1 h
  obtain ⟨hne, -⟩ := refuse_eq_ok_iff.1 h
  refine ⟨isInside_iff.1 ?_, isInside_iff.1 ?_, hne⟩
  · simpa using hgenerate
  · simpa using hservices

/-- What a directory ends with behind its last name. -/
lemma exists_slashes (dir : String) : ∃ count,
    dir.toList = (Text.dropTrailingSlashes dir).toList ++ List.replicate count '/' := by
  have hslashes : ∀ c ∈ dir.toList.rtakeWhile (· == '/'), c = '/' :=
    fun c hc => beq_iff_eq.1 (List.mem_rtakeWhile_imp (p := (· == '/')) hc)
  refine ⟨(dir.toList.rtakeWhile (· == '/')).length, ?_⟩
  rw [Text.dropTrailingSlashes, String.toList_ofList, dropTrailing_eq_rdropWhile,
    ← List.eq_replicate_of_mem hslashes, List.rdropWhile_append_rtakeWhile]

/-- A directory goes before a relative path as it is, or with a slash between. -/
lemma joinPath_cases (dir relative : String) :
    ((Text.dropTrailingSlashes dir).toList = [] ∧ joinPath dir relative = relative) ∨
      ((Text.dropTrailingSlashes dir).toList ≠ [] ∧ (joinPath dir relative).toList =
        (Text.dropTrailingSlashes dir).toList ++ '/' :: relative.toList) := by
  unfold joinPath
  dsimp only
  split
  · rename_i hempty
    exact Or.inl ⟨by rw [String.isEmpty_iff.1 hempty]; rfl, rfl⟩
  · rename_i hempty
    refine Or.inr ⟨fun h => hempty ?_, ?_⟩
    · rw [String.isEmpty_iff, ← String.toList_inj, h]
      rfl
    · rw [String.toList_append, String.toList_append, List.append_assoc]
      rfl

lemma head?_ne_slash {cs : List Char} (h : [] ∉ cs.splitOn '/') : cs.head? ≠ some '/' := by
  intro hhead
  obtain ⟨rest, rfl⟩ := List.head?_eq_some_iff.1 hhead
  refine h ?_
  rw [← List.nil_append ('/' :: rest), splitOn_append_slash]
  exact List.mem_append_left _ (by decide)

lemma inside_intercalate (hnames : ∀ name ∈ names, name ≠ "" ∧ '/' ∉ name.toList)
    (hclimb : ".." ∉ names) (hne : names ≠ []) : Inside ("/".intercalate names) := by
  have hpiece : ∀ piece, piece ∈ ("/".intercalate names).toList.splitOn '/' →
      String.ofList piece ∈ names := by
    intro piece hpiece
    rw [splitOn_intercalate_slash (fun name hname => (hnames name hname).2) hne] at hpiece
    obtain ⟨name, hname, rfl⟩ := List.mem_map.1 hpiece
    rwa [String.ofList_toList]
  exact ⟨head?_ne_slash fun hmem => (hnames _ (hpiece _ hmem)).1 rfl,
    fun hmem => hclimb (hpiece _ hmem)⟩

/-- The last slashes of a directory make no difference to whether it stays inside. -/
lemma inside_dropTrailingSlashes (h : Inside dir) (hkept : Text.dropTrailingSlashes dir ≠ "") :
    Inside (Text.dropTrailingSlashes dir) := by
  obtain ⟨count, hcount⟩ := exists_slashes dir
  obtain ⟨hhead, hclimb⟩ := h
  rw [hcount] at hhead hclimb
  have hkept : (Text.dropTrailingSlashes dir).toList ≠ [] :=
    fun hempty => hkept (String.toList_inj.1 hempty)
  refine ⟨?_, fun hmem => hclimb ?_⟩
  · rwa [List.head?_append_of_ne_nil _ hkept] at hhead
  · cases count with
    | zero => rwa [List.replicate_zero, List.append_nil]
    | succ count =>
      rw [List.replicate_succ, splitOn_append_slash]
      exact List.mem_append_left _ hmem

lemma Inside.joinPath (hdir : Inside dir) (hrelative : Inside relative) :
    Inside (joinPath dir relative) := by
  rcases joinPath_cases dir relative with ⟨-, hjoin⟩ | ⟨hkept, hjoin⟩
  · rwa [hjoin]
  have hne : Text.dropTrailingSlashes dir ≠ "" := fun hempty => hkept (by rw [hempty]; rfl)
  obtain ⟨hhead, hclimb⟩ := inside_dropTrailingSlashes hdir hne
  unfold Inside
  rw [hjoin, List.head?_append_of_ne_nil _ hkept, splitOn_append_slash, List.mem_append, not_or]
  exact ⟨hhead, hclimb, hrelative.2⟩

/-- Two directories whose texts differ in nothing but the slashes at their ends. -/
def SlashesApart (dir other : String) : Prop :=
  ∃ base before after, before ≠ after ∧ dir.toList = base ++ List.replicate before '/' ∧
    other.toList = base ++ List.replicate after '/'

lemma dropTrailing_append_slashes (base : List Char) (count : Nat) :
    (base ++ List.replicate count '/').rdropWhile (· == '/') = base.rdropWhile (· == '/') := by
  induction count with
  | zero => rw [List.replicate_zero, List.append_nil]
  | succ count ih =>
    rw [List.replicate_succ', ← List.append_assoc, List.rdropWhile_concat_pos _ _ _ rfl, ih]

lemma slashesApart_iff (hne : dir ≠ other) :
    SlashesApart dir other ↔ Text.dropTrailingSlashes dir = Text.dropTrailingSlashes other := by
  constructor
  · rintro ⟨base, before, after, -, hdir, hother⟩
    unfold Text.dropTrailingSlashes
    rw [dropTrailing_eq_rdropWhile, dropTrailing_eq_rdropWhile, hdir, hother,
      dropTrailing_append_slashes, dropTrailing_append_slashes]
  · intro h
    obtain ⟨before, hdir⟩ := exists_slashes dir
    obtain ⟨after, hother⟩ := exists_slashes other
    refine ⟨_, before, after, fun hcount => hne ?_, hdir, h ▸ hother⟩
    rw [← String.toList_inj, hdir, hother, h, hcount]

/-- Joining tells directories apart up to the slashes at their ends, whatever comes below. -/
lemma joinPath_eq_iff : joinPath dir relative = joinPath other relative ↔
    Text.dropTrailingSlashes dir = Text.dropTrailingSlashes other := by
  refine ⟨fun h => ?_, fun h => by unfold joinPath; rw [h]⟩
  rw [joinPath_eq, joinPath_eq other, String.append_left_inj, ← String.toList_inj] at h
  rw [← String.toList_inj]
  rcases joinPath_cases dir "" with ⟨hdir, hjoin⟩ | ⟨-, hjoin⟩
  · rcases joinPath_cases other "" with ⟨hother, -⟩ | ⟨-, hjoin'⟩
    · rw [hdir, hother]
    · rw [hjoin, hjoin'] at h
      exact absurd h.symm (List.append_ne_nil_of_right_ne_nil _ (List.cons_ne_nil _ _))
  · rcases joinPath_cases other "" with ⟨-, hjoin'⟩ | ⟨-, hjoin'⟩
    · rw [hjoin, hjoin'] at h
      exact absurd h (List.append_ne_nil_of_right_ne_nil _ (List.cons_ne_nil _ _))
    · rw [hjoin, hjoin'] at h
      exact List.append_cancel_right h

end Directories

/-! ### Paths of runs -/

section Runs

variable {e : Emission} {p : Place} {files : List TreeFile} {artifacts : List Artifact}

lemma inside_pathText (hnaming : e.naming = .standard) (hgenerate : Inside e.config.generatePath)
    (hservices : Inside e.config.servicesPath) (hp : p ∈ outline e) : Inside (e.pathText p.1) := by
  obtain ⟨hname, hdirs⟩ := List.forall_mem_cons.1 (isModuleName_of_mem_outline hnaming hp)
  have hslash : ¬IsModuleChar '/' := by decide
  have hdot : ¬IsModuleChar '.' := by decide
  have hnames : ∀ name ∈ p.1.dirs ++ [p.1.name ++ ".rs"], name ≠ "" ∧ '/' ∉ name.toList := by
    refine List.forall_mem_append.2 ⟨fun name h => ?_, List.forall_mem_singleton.2 ⟨?_, ?_⟩⟩
    · exact ⟨(hdirs name h).ne_empty, (hdirs name h).notMem hslash⟩
    · exact fun h => hname.ne_empty (String.append_eq_empty_iff.1 h).1
    · rw [String.toList_append, List.mem_append, not_or]
      exact ⟨hname.notMem hslash, by decide⟩
  have hclimb : ".." ∉ p.1.dirs ++ [p.1.name ++ ".rs"] := by
    rw [List.mem_append, List.mem_singleton, not_or]
    refine ⟨fun h => (hdirs _ h).notMem hdot (by decide), fun h => ?_⟩
    have hlast := congrArg (fun name => name.toList.getLast?) h
    rw [String.toList_append, List.getLast?_append_of_ne_nil _ (by decide)] at hlast
    exact absurd hlast (by decide)
  have hrelative : Inside p.1.relative := inside_intercalate hnames hclimb
    (List.append_ne_nil_of_right_ne_nil _ (List.cons_ne_nil _ _))
  unfold Emission.pathText
  cases p.1.area with
  | generated => exact hgenerate.joinPath hrelative
  | services => exact hservices.joinPath hrelative

lemma map_path_of_written (h : List.Forall₂ (Written e) files artifacts) :
    artifacts.map (·.path) = files.map fun f => e.pathText f.path := by
  induction h with
  | nil => rfl
  | cons hfirst _ ih => rw [List.map_cons, List.map_cons, hfirst.path, ih]

lemma map_path_of_outline (hplaces : files.map placeOf = outline e)
    (h : List.Forall₂ (Written e) files artifacts) :
    artifacts.map (·.path) = ((outline e).map Prod.fst).map e.pathText := by
  rw [map_path_of_written h, ← hplaces, List.map_map, List.map_map]
  rfl

/-- Where the two directories join alike, their indexes have one path. -/
lemma not_nodup_of_shared (hrun : e.run = .service)
    (h : ∀ relative, e.generatedPath relative = e.scaffoldPath relative) :
    ¬(((outline e).map Prod.fst).map e.pathText).Nodup := by
  intro hnodup
  have hgenerated : TreePath.ofDirectory .generated [] ∈ (outline e).map Prod.fst :=
    List.mem_map.2 ⟨_, mem_outline_iff.2 (Or.inl rfl), rfl⟩
  have hindex : (.ofDirectory .services [],
      ModuleIndex.sorted (e.spec.versions.map e.versionModule)) ∈ outline e :=
    mem_outline_iff.2 (Or.inr (Or.inr (Or.inr (Or.inr (Or.inr ⟨hrun, Or.inl rfl⟩)))))
  have hservices : TreePath.ofDirectory .services [] ∈ (outline e).map Prod.fst :=
    List.mem_map.2 ⟨_, hindex, rfl⟩
  have hsame := List.inj_on_of_nodup_map hnodup hgenerated hservices (h _)
  cases hsame

end Runs

lemma ofConfig_eq_ok_iff {config : Config} {naming : Naming} {parses : String → Bool}
    {g : Generator} : Generator.ofConfig config naming parses = .ok g ↔
      config.check = .ok () ∧ g = ⟨config, naming, parses⟩ := by
  unfold Generator.ofConfig
  split
  · rename_i hcheck
    rw [Except.ok.injEq, eq_comm, and_iff_right hcheck]
  · rename_i hcheck
    rw [hcheck]
    exact iff_of_false (fun h => nomatch h) fun h => nomatch h.1

/-- Whatever the names of versions and APIs, no path of a run with an accepted configuration starts
with a slash or has a segment that climbs. -/
theorem emitted_paths_inside {config : Config} {parses : String → Bool} {g : Generator}
    {spec : Spec} {run : RunKind} {set : ArtifactSet}
    (hconfig : Generator.ofConfig config .standard parses = .ok g)
    (h : g.generate spec run = .ok set) : ∀ a ∈ set.files, Inside a.path := by
  obtain ⟨hcheck, rfl⟩ := ofConfig_eq_ok_iff.1 hconfig
  obtain ⟨hgenerate, hservices, -⟩ := check_eq_ok hcheck
  obtain ⟨files, hfiles, hartifacts, -⟩ := files_of_generate h
  have hwritten := (mapM_eq_ok_iff.1 hartifacts).imp fun f a => written_of_artifact
  intro a ha
  have hpath := List.mem_map_of_mem (f := (·.path)) ha
  rw [map_path_of_outline (files_places hfiles) hwritten, List.map_map] at hpath
  obtain ⟨p, hp, hpath⟩ := List.mem_map.1 hpath
  rw [← hpath]
  exact inside_pathText rfl hgenerate hservices hp

/-- A description whose version is called like a way out of the output root. -/
def climbing : Spec :=
  ⟨"shop", [⟨"../../etc", none, [], [⟨"../passwd", .object [], none⟩]⟩], .empty⟩

/-- Its models are generated, below a directory that is spelled with slashes at its end. -/
theorem emitted_paths_inside_climbing :
    let config : Config := ⟨"crate::spec", "./gen//", ""⟩
    ∃ g set, Generator.ofConfig config .standard (fun _ => true) = .ok g ∧
      g.generate climbing .models = .ok set ∧
      "./gen/etc/models.rs" ∈ set.files.map (·.path) ∧ ∀ a ∈ set.files, Inside a.path := by
  intro config
  have hconfig : Generator.ofConfig config .standard (fun _ => true) =
      .ok ⟨config, .standard, fun _ => true⟩ :=
    ofConfig_eq_ok_iff.2 ⟨by decide, rfl⟩
  have hvalid : climbing.validate .standard = .ok () := by decide +kernel
  obtain ⟨files, artifacts, hfiles, hartifacts, -⟩ :=
    exists_run ⟨config, .standard, fun _ => true⟩ .models hvalid
  have hset := generate_eq_ok (g := ⟨config, .standard, fun _ => true⟩) hvalid hfiles hartifacts
    fun _ _ => rfl
  refine ⟨_, _, hconfig, hset, ?_, emitted_paths_inside hconfig hset⟩
  have hwritten := (mapM_eq_ok_iff.1 hartifacts).imp fun f a => written_of_artifact
  rw [map_path_of_outline (files_places hfiles) hwritten]
  decide +kernel

/-- Under an accepted configuration a generated path is that of a scaffold exactly if the two
directories differ in nothing but the slashes at their ends. This is so for all relative paths or
for none, and for none if no directory ends with a slash; where it is so, every service run gives
two artifacts of one path. -/
theorem generated_meets_scaffolded_iff {config : Config} (hconfig : config.check = .ok ())
    (spec : Spec) (naming : Naming) (parses : String → Bool) (run : RunKind) :
    let e : Emission := ⟨spec, config, naming, run⟩
    (∀ relative, e.generatedPath relative = e.scaffoldPath relative ↔
      SlashesApart config.generatePath config.servicesPath) ∧
    (config.generatePath.toList.getLast? ≠ some '/' →
      config.servicesPath.toList.getLast? ≠ some '/' →
      ∀ relative, e.generatedPath relative ≠ e.scaffoldPath relative) ∧
    (SlashesApart config.generatePath config.servicesPath → run = .service →
      ∀ set, (Generator.mk config naming parses).generate spec run = .ok set →
        ¬(set.files.map (·.path)).Nodup) := by
  intro e
  obtain ⟨-, -, hne⟩ := check_eq_ok hconfig
  have hmeet : ∀ relative, e.generatedPath relative = e.scaffoldPath relative ↔
      SlashesApart config.generatePath config.servicesPath :=
    fun relative => joinPath_eq_iff.trans (slashesApart_iff hne).symm
  refine ⟨hmeet, fun hgenerate hservices relative heq => ?_, fun hapart hrun set hset => ?_⟩
  · obtain ⟨base, before, after, hcount, hdir, hother⟩ := (hmeet relative).1 heq
    have hnone : ∀ {dir : String} {count}, dir.toList.getLast? ≠ some '/' →
        dir.toList = base ++ List.replicate count '/' → count = 0 := by
      intro dir count hlast hdir
      cases count with
      | zero => rfl
      | succ count =>
        rw [hdir, List.replicate_succ', ← List.append_assoc, List.getLast?_concat] at hlast
        exact absurd rfl hlast
    exact hcount ((hnone hgenerate hdir).trans (hnone hservices hother).symm)
  · obtain ⟨files, hfiles, hartifacts, -⟩ := files_of_generate hset
    have hwritten := (mapM_eq_ok_iff.1 hartifacts).imp fun f a => written_of_artifact
    rw [map_path_of_outline (files_places hfiles) hwritten]
    exact not_nodup_of_shared hrun fun relative => (hmeet relative).2 hapart

/-- With the usual directories no scaffold gets the path of a generated file. -/
theorem generated_meets_scaffolded_standard :
    Config.standard.check = .ok () ∧ ∀ relative,
      (Emission.mk shop .standard .standard .service).generatedPath relative ≠
        (Emission.mk shop .standard .standard .service).scaffoldPath relative := by
  have hcheck : Config.standard.check = .ok () := by decide
  obtain ⟨-, hnone, -⟩ :=
    generated_meets_scaffolded_iff hcheck shop .standard (fun _ => true) .service
  exact ⟨hcheck, hnone (by decide) (by decide)⟩

/-- One directory in two spellings is accepted, and both indexes get one path. -/
theorem spellings_share_index :
    let config : Config := ⟨"crate::spec", "src/api", "src/api/"⟩
    let e : Emission := ⟨shop, config, .standard, .service⟩
    config.check = .ok () ∧ e.generatedPath "mod.rs" = e.scaffoldPath "mod.rs" := by
  decide

end ApiCodegen.Proofs
