import ApiCodegen.Proofs.Entries
import ApiCodegen.Proofs.Sequencing
import ApiCodegen.Proofs.Splitting
import ApiCodegen.Sink.Directory
import Mathlib.Logic.Relation

/-!
# What a run touches below its root

A directory sink checks all paths before it makes anything, so that a path that is refused leaves
the tree as it was. A run of accepted paths changes the tree call by call (`Change`), and each call
is made for a path strictly below the root, or makes a directory that leads there.
-/

namespace ApiCodegen.Proofs
open DirectorySink

/-! ### Paths that are refused -/

/-- A path that is empty or does not start below the root. -/
def NotRelative (path : String) : Prop :=
  path = "" ∨ path.toList.head? = some '/' ∨ path.toList.head? = some '\\' ∨ ':' ∈ path.toList

/-- A name that leads elsewhere than to an entry of its directory. -/
def Climbing (name : List Char) : Prop := name = [] ∨ name = ['.'] ∨ name = ['.', '.']

/-- A path one of whose segments, between slashes and backslashes, leads elsewhere. -/
def HasClimbing (path : String) : Prop :=
  ∃ name ∈ path.toList.splitOnP fun c => c == '/' || c == '\\', Climbing name

/-- A path that names no place below the root. -/
def Refused (path : String) : Prop := NotRelative path ∨ HasClimbing path

/-- The fault that a path is refused with. -/
inductive RefusedWith (path : String) : SinkFault → Prop
  | invalidPath (h : NotRelative path) : RefusedWith path (.invalidPath path)
  | invalidComponent (hrelative : ¬NotRelative path) (h : HasClimbing path) :
    RefusedWith path (.invalidComponent path)

section Paths

variable {path : String} {fault : SinkFault}

lemma isBadSegment_ofList {name : List Char} :
    isBadSegment (String.ofList name) = true ↔ Climbing name := by
  have hsame : ∀ s : String, (String.ofList name == s) = true ↔ name = s.toList := by
    intro s
    rw [beq_iff_eq]
    exact ⟨fun h => by rw [← h, String.toList_ofList], fun h => by rw [h, String.ofList_toList]⟩
  unfold isBadSegment Climbing
  rw [Bool.or_eq_true, Bool.or_eq_true, hsame, hsame, hsame, or_assoc]
  rfl

lemma any_isBadSegment_iff : (segments path).any isBadSegment = true ↔ HasClimbing path := by
  unfold segments Text.splitString HasClimbing
  rw [split_eq_splitOnP, List.any_map, List.any_eq_true]
  exact exists_congr fun name => and_congr_right fun _ => isBadSegment_ofList

lemma notRelative_iff : (path.toList.isEmpty || path.toList.head? == some '/' ||
    path.toList.head? == some '\\' || path.toList.contains ':') = true ↔ NotRelative path := by
  have hempty : path.toList = [] ↔ path = "" := by
    rw [← String.toList_inj]
    rfl
  unfold NotRelative
  simp only [Bool.or_eq_true, List.isEmpty_iff, beq_iff_eq, List.contains_iff_mem, hempty, or_assoc]

lemma checkPath_eq_ok_iff : checkPath path = .ok () ↔ ¬Refused path := by
  unfold checkPath Refused
  dsimp only
  rw [refuse_eq_ok_iff, refuse_eq_ok_iff, notRelative_iff, any_isBadSegment_iff, not_or]
  exact and_congr_right fun _ => and_iff_left rfl

lemma refusedWith_of_checkPath (h : checkPath path = .error fault) : RefusedWith path fault := by
  unfold checkPath at h
  dsimp only at h
  split at h
  · rename_i hpath
    cases h
    exact .invalidPath (notRelative_iff.1 hpath)
  · rename_i hrelative
    split at h
    · rename_i hsegment
      cases h
      exact .invalidComponent (fun hpath => hrelative (notRelative_iff.2 hpath))
        (any_isBadSegment_iff.1 hsegment)
    · cases h

lemma RefusedWith.refused (h : RefusedWith path fault) :
    Refused path ∧ fault.isInvalidPath = true := by
  cases h with
  | invalidPath h => exact ⟨Or.inl h, rfl⟩
  | invalidComponent _ h => exact ⟨Or.inr h, rfl⟩

end Paths

/-! ### Places below the root -/

/-- A name of an entry of its directory. -/
def IsName (name : String) : Prop := ¬Climbing name.toList ∧ '/' ∉ name.toList

/-- A path strictly below the root: the root and at least one name. -/
def Below (root path : FilePath) : Prop :=
  ∃ names, path = root ++ names ∧ names ≠ [] ∧ ∀ name ∈ names, IsName name

/-- A path below the root or on the way to it, the root itself included. -/
def Leads (root path : FilePath) : Prop := path <+: root ∨ Below root path

section Places

variable {s : DirectorySink} {root path : FilePath}

lemma below_place {text : String} (h : ¬Refused text) : Below s.root (s.place text) := by
  refine ⟨Text.splitString (· == '/') text, rfl, ?_, ?_⟩
  · unfold Text.splitString
    rw [ne_eq, List.map_eq_nil_iff]
    exact Text.split_ne_nil _ _
  · unfold Text.splitString
    rw [List.forall_mem_map]
    intro name hname
    unfold IsName
    rw [String.toList_ofList]
    refine ⟨fun hclimbing => h (Or.inr ⟨name, ?_, hclimbing⟩), fun hslash => ?_⟩
    · rw [← split_eq_splitOnP]
      refine mem_split_or hname fun c hc => ?_
      rcases hclimbing with rfl | rfl | rfl
      · cases hc
      · rw [List.mem_singleton.1 hc]
        decide
      · have hdot : c = '.' := by simpa using hc
        rw [hdot]
        decide
    · exact absurd (unsplit_of_mem_split hname _ hslash) (by decide)

lemma leads_dropLast (h : Below root path) : Leads root path.dropLast := by
  obtain ⟨names, rfl, hne, hnames⟩ := h
  rw [List.dropLast_append_of_ne_nil hne]
  by_cases hshort : names.dropLast = []
  · rw [hshort, List.append_nil]
    exact Or.inl (List.prefix_refl _)
  · exact Or.inr ⟨_, rfl, hshort,
      fun name hname => hnames name ((List.dropLast_sublist _).subset hname)⟩

lemma leads_take (h : Leads root path) (count : Nat) : Leads root (path.take count) := by
  rcases h with h | ⟨names, rfl, -, hnames⟩
  · exact Or.inl ((List.take_prefix _ _).trans h)
  · rw [List.take_append]
    by_cases hshort : names.take (count - root.length) = []
    · rw [hshort, List.append_nil]
      exact Or.inl (List.take_prefix _ _)
    · refine Or.inr ⟨names.take (count - root.length), ?_, hshort, fun name hname =>
        hnames name (List.mem_of_mem_take hname)⟩
      have hlong : root.length ≤ count := by
        by_contra hlt
        rw [Nat.sub_eq_zero_of_le (by omega), List.take_zero] at hshort
        exact hshort rfl
      rw [List.take_of_length_le hlong]

lemma leads_of_leading {before : FilePath} (h : Leads root path) (hbefore : before <+: path) :
    Leads root before := by
  rw [List.prefix_iff_eq_take.1 hbefore]
  exact leads_take h before.length

lemma isName_append_suffix (name : String) (h : '/' ∉ name.toList) :
    IsName (name ++ temporarySuffix) := by
  unfold IsName Climbing
  rw [String.toList_append]
  have hlength : (name.toList ++ temporarySuffix.toList).length = name.toList.length + 4 := by
    rw [List.length_append]
    rfl
  refine ⟨?_, ?_⟩
  · rintro (heq | heq | heq)
    · rw [heq] at hlength
      simp at hlength
    · rw [heq] at hlength
      simp at hlength
    · rw [heq] at hlength
      simp at hlength
  · rw [List.mem_append, not_or]
    exact ⟨h, by decide⟩

lemma below_temporary (h : Below root path) : Below root (temporary path) := by
  obtain ⟨names, rfl, hne, hnames⟩ := h
  unfold temporary
  refine ⟨names.dropLast ++ [names.getLast hne ++ temporarySuffix], ?_, by simp, ?_⟩
  · rw [List.dropLast_append_of_ne_nil hne, List.append_assoc, List.getLastD_eq_getLast?,
      List.getLast?_append_of_ne_nil _ hne, List.getLast?_eq_some_getLast hne, Option.getD_some]
  · refine List.forall_mem_append.2 ⟨fun name hname => ?_, List.forall_mem_singleton.2 ?_⟩
    · exact hnames name ((List.dropLast_sublist _).subset hname)
    · exact isName_append_suffix _ (hnames _ (List.getLast_mem hne)).2

end Places

/-! ### Calls -/

/-- A call that changes the tree, made for a path strictly below the root, or making a directory
that leads there. -/
inductive Change (root : FilePath) : FileTree → FileTree → Prop
  | directory {t t' : FileTree} {path : FilePath} (hpath : Leads root path)
    (h : t.makeDirectory path = .ok t') : Change root t t'
  | file {t t' : FileTree} {path : FilePath} {content : String} (hpath : Below root path)
    (h : t.write path content = .ok t') : Change root t t'
  | moved {t t' : FileTree} {source target : FilePath} (hsource : Below root source)
    (htarget : Below root target) (h : t.rename source target = .ok t') : Change root t t'

/-- A call that makes a directory on the way to one of some paths. -/
def Makes (dirs : List FilePath) (t t' : FileTree) : Prop :=
  ∃ dir ∈ dirs, ∃ path, path <+: dir ∧ t.makeDirectory path = .ok t'

lemma Makes.change {root : FilePath} {dirs : List FilePath} {t t' : FileTree}
    (hdirs : ∀ dir ∈ dirs, Leads root dir) (h : Makes dirs t t') : Change root t t' := by
  obtain ⟨dir, hdir, path, hpath, hmade⟩ := h
  exact .directory (leads_of_leading (hdirs dir hdir) hpath) hmade

/-- What changes may have done to the entry at a path: strictly below the root anything, and
elsewhere no more than made a missing directory that leads there. -/
def KeptOutside (root : FilePath) (t t' : FileTree) (path : FilePath) : Prop :=
  t'.entry? path = t.entry? path ∨ Below root path ∨
    path <+: root ∧ t.entry? path = none ∧ t'.entry? path = some .directory

section Calls

variable {root path source target here rest : FilePath} {t t' : FileTree} {entry : FileEntry}
  {content : String} {found : Option FileEntry}

lemma entry?_follow (h : t.follow here rest = .ok found) : t.entry? (here ++ rest) = found := by
  induction rest generalizing here with
  | nil =>
    rw [List.append_nil]
    exact Except.ok.inj h
  | cons name rest ih =>
    rw [FileTree.follow] at h
    split at h
    · cases h
    · cases h
    · have hnext := ih (refuse_eq_ok_iff.1 h).2
      rwa [← List.append_cons] at hnext

lemma entry?_locate (h : t.locate path = .ok found) : t.entry? path = found :=
  entry?_follow (refuse_eq_ok_iff.1 (refuse_eq_ok_iff.1 h).2).2

lemma ne_nil_of_entry (h : t.entry? path ≠ some .directory) : path ≠ [] := by
  rintro rfl
  exact h rfl

lemma entry?_set (hpath : path ≠ []) (other : FilePath) :
    FileTree.entry? (t.set path entry) other = if other = path then some entry else t.entry? other := by
  unfold FileTree.entry? FileTree.set FileTree.erase
  by_cases hother : other = []
  · subst hother
    rw [if_neg (Ne.symm hpath)]
    rfl
  · have hempty : ¬other.isEmpty = true := by simpa using hother
    rw [if_neg hempty, if_neg hempty]
    dsimp only
    rw [lookup_cons_eq_ite, lookup_filter_ne]
    by_cases hsame : other = path
    · rw [if_pos hsame, if_pos hsame]
    · rw [if_neg hsame, if_neg hsame, if_neg hsame]

lemma entry?_erase (hpath : path ≠ []) (other : FilePath) :
    FileTree.entry? (t.erase path) other = if other = path then none else t.entry? other := by
  unfold FileTree.entry? FileTree.erase
  by_cases hother : other = []
  · subst hother
    rw [if_neg (Ne.symm hpath)]
    rfl
  · have hempty : ¬other.isEmpty = true := by simpa using hother
    rw [if_neg hempty, if_neg hempty]
    exact lookup_filter_ne _ _ _

lemma makeDirectory_eq_ok (h : t.makeDirectory path = .ok t') :
    t.entry? path = none ∧ t' = t.set path .directory := by
  obtain ⟨found, hfound, h⟩ := bind_eq_ok_iff.1 h
  have hentry := entry?_locate hfound
  cases found with
  | none =>
    cases h
    exact ⟨hentry, rfl⟩
  | some entry => cases h

lemma write_eq_ok (h : t.write path content = .ok t') :
    t.entry? path ≠ some .directory ∧ t' = t.set path (.file content) := by
  obtain ⟨found, hfound, h⟩ := bind_eq_ok_iff.1 h
  have hentry := entry?_locate hfound
  match found with
  | none | some (.file _) =>
    cases h
    rw [hentry]
    exact ⟨by simp, rfl⟩
  | some .directory => cases h

lemma rename_eq_ok (h : t.rename source target = .ok t') :
    ∃ content, t.entry? source = some (.file content) ∧ t.entry? target ≠ some .directory ∧
      t' = (t.erase source).set target (.file content) := by
  obtain ⟨moved, hmoved, h⟩ := bind_eq_ok_iff.1 h
  obtain ⟨replaced, hreplaced, h⟩ := bind_eq_ok_iff.1 h
  rw [entry?_locate hmoved, entry?_locate hreplaced]
  match moved, replaced with
  | some (.file content), some (.file _) | some (.file content), none =>
    cases h
    exact ⟨content, rfl, by simp, rfl⟩
  | some (.file _), some .directory | some .directory, _ | none, _ => cases h

lemma keptOutside_of_change (h : Change root t t') (path : FilePath) :
    KeptOutside root t t' path := by
  cases h with
  | @directory made hmade h =>
    obtain ⟨hfree, rfl⟩ := makeDirectory_eq_ok h
    have hne : made ≠ [] := ne_nil_of_entry (by rw [hfree]; simp)
    have hset : FileTree.entry? (t.set made .directory) path =
        if path = made then some .directory else t.entry? path := entry?_set hne path
    by_cases hpath : path = made
    · subst hpath
      rw [if_pos rfl] at hset
      rcases hmade with hroot | hbelow
      · exact Or.inr (Or.inr ⟨hroot, hfree, hset⟩)
      · exact Or.inr (Or.inl hbelow)
    · rw [if_neg hpath] at hset
      exact Or.inl hset
  | @file written content hwritten h =>
    obtain ⟨hfile, rfl⟩ := write_eq_ok h
    by_cases hpath : path = written
    · exact Or.inr (Or.inl (hpath ▸ hwritten))
    · exact Or.inl (by rw [entry?_set (ne_nil_of_entry hfile), if_neg hpath])
  | @moved source target hsource htarget h =>
    obtain ⟨content, hmoved, hreplaced, rfl⟩ := rename_eq_ok h
    by_cases hpath : path = target
    · exact Or.inr (Or.inl (hpath ▸ htarget))
    by_cases hpath' : path = source
    · exact Or.inr (Or.inl (hpath' ▸ hsource))
    · refine Or.inl ?_
      rw [entry?_set (ne_nil_of_entry hreplaced), if_neg hpath,
        entry?_erase (ne_nil_of_entry (by rw [hmoved]; simp)), if_neg hpath']

lemma keptOutside_of_changes (h : Relation.ReflTransGen (Change root) t t') (path : FilePath) :
    KeptOutside root t t' path := by
  induction h with
  | refl => exact Or.inl rfl
  | tail _ hstep ih =>
    rcases ih with hsame | hbelow | ⟨hroot, hfree, hmade⟩
    · rcases keptOutside_of_change hstep path with hkept | hbelow | ⟨hroot, hfree, hmade⟩
      · exact Or.inl (hkept.trans hsame)
      · exact Or.inr (Or.inl hbelow)
      · exact Or.inr (Or.inr ⟨hroot, hsame.symm.trans hfree, hmade⟩)
    · exact Or.inr (Or.inl hbelow)
    · rcases keptOutside_of_change hstep path with hkept | hbelow | ⟨-, hgone, -⟩
      · exact Or.inr (Or.inr ⟨hroot, hfree, hkept.trans hmade⟩)
      · exact Or.inr (Or.inl hbelow)
      · rw [hmade] at hgone
        cases hgone

/-- What leads to a directory that is there are directories. -/
lemma entry?_of_isDirectory (h : t.isDirectory root = true) (hpath : path <+: root) :
    t.entry? path = some .directory := by
  have hway : ∀ {here before after : FilePath} {name : String} {found : Option FileEntry},
      t.follow here (before ++ name :: after) = .ok found →
        t.entry? (here ++ before) = some .directory := by
    intro here before
    induction before generalizing here with
    | nil =>
      intro after name found h
      rw [List.nil_append, FileTree.follow] at h
      rw [List.append_nil]
      split at h
      · cases h
      · cases h
      · assumption
    | cons step before ih =>
      intro after name found h
      rw [List.cons_append, FileTree.follow] at h
      split at h
      · cases h
      · cases h
      · have hnext := ih (refuse_eq_ok_iff.1 h).2
        rwa [← List.append_cons] at hnext
  unfold FileTree.isDirectory at h
  split at h
  · rename_i hlocated
    obtain ⟨after, rfl⟩ := hpath
    cases after with
    | nil =>
      rw [List.append_nil] at hlocated
      exact entry?_locate hlocated
    | cons name after =>
      exact hway (refuse_eq_ok_iff.1 (refuse_eq_ok_iff.1 hlocated).2).2
  · cases h

end Calls

/-! ### Runs -/

section Runs

variable {s : DirectorySink} {root path : FilePath} {t t' : FileTree} {files : List Artifact}
  {content : String}

lemma makes_ensureDirectory {dirs : List FilePath} {dir : FilePath} (hdir : dir ∈ dirs)
    (hpath : path <+: dir) (h : t.ensureDirectory path = .ok t') :
    Relation.ReflTransGen (Makes dirs) t t' := by
  unfold FileTree.ensureDirectory at h
  split at h
  · rename_i hmade
    cases h
    exact .single ⟨dir, hdir, path, hpath, hmade⟩
  · split at h
    · cases h
      exact .refl
    · cases h

lemma makes_makeFirstDirectories {dirs : List FilePath} {dir : FilePath} (hdir : dir ∈ dirs)
    (t : FileTree) (count : Nat) :
    Relation.ReflTransGen (Makes dirs) t (t.makeFirstDirectories dir count).1 := by
  induction count generalizing t with
  | zero => exact .refl
  | succ count ih =>
    have hlast := List.take_prefix (count + 1) dir
    have hbefore := ih t
    rw [FileTree.makeFirstDirectories]
    dsimp only
    cases hfirst : t.ensureDirectory (dir.take (count + 1)) with
    | ok made => exact makes_ensureDirectory hdir hlast hfirst
    | error fault =>
      cases fault with
      | notFound =>
        dsimp only
        generalize t.makeFirstDirectories dir count = before at hbefore
        obtain ⟨t', result⟩ := before
        cases result with
        | error fault => exact hbefore
        | ok _ =>
          dsimp only
          cases hsecond : t'.ensureDirectory (dir.take (count + 1)) with
          | ok made => exact hbefore.trans (makes_ensureDirectory hdir hlast hsecond)
          | error fault => exact hbefore
      | alreadyExists | notADirectory | isADirectory | nameTooLong | nulCharacter => exact .refl

lemma makes_makeAll {dirs all : List FilePath} (h : dirs ⊆ all) (t : FileTree) :
    Relation.ReflTransGen (Makes all) t (s.makeAll t dirs).1 := by
  induction dirs generalizing t with
  | nil => exact .refl
  | cons dir dirs ih =>
    obtain ⟨hdir, hrest⟩ := List.cons_subset.1 h
    have hmade := makes_makeFirstDirectories hdir t dir.length
    rw [makeAll]
    unfold FileTree.makeDirectories
    generalize t.makeFirstDirectories dir dir.length = outcome at hmade
    obtain ⟨t', result⟩ := outcome
    cases result with
    | ok _ => exact hmade.trans (ih hrest t')
    | error fault => exact hmade

lemma mem_insertDirectory {dir : FilePath} {dirs : List FilePath}
    (h : dir ∈ insertDirectory path dirs) : dir = path ∨ dir ∈ dirs := by
  induction dirs with
  | nil => exact Or.inl (List.mem_singleton.1 h)
  | cons first dirs ih =>
    rw [insertDirectory] at h
    split at h
    · exact List.mem_cons.1 h
    · split at h
      · exact Or.inr h
      · rcases List.mem_cons.1 h with rfl | h
        · exact Or.inr List.mem_cons_self
        · exact (ih h).imp_right (List.mem_cons_of_mem _)

lemma mem_directories {dir : FilePath} (h : dir ∈ s.directories files) :
    ∃ a ∈ files, dir = (s.place a.path).dropLast := by
  have hfold : ∀ dirs : List FilePath,
      dir ∈ files.foldl (fun dirs a => insertDirectory (s.place a.path).dropLast dirs) dirs →
        dir ∈ dirs ∨ ∃ a ∈ files, dir = (s.place a.path).dropLast := by
    clear h
    induction files with
    | nil => exact fun _ => Or.inl
    | cons a files ih =>
      intro dirs h
      rcases ih _ h with h | ⟨b, hb, hdir⟩
      · rcases mem_insertDirectory h with hdir | h
        · exact Or.inr ⟨a, List.mem_cons_self, hdir⟩
        · exact Or.inl h
      · exact Or.inr ⟨b, List.mem_cons_of_mem a hb, hdir⟩
  exact (hfold [] h).resolve_left List.not_mem_nil

lemma mapError_eq_ok {action : String} {result : Except IoFault FileTree}
    (h : s.during action path result = .ok t') : result = .ok t' := by
  cases result with
  | ok made =>
    cases h
    rfl
  | error fault => cases h

lemma changes_writeFile (hpath : Below s.root path) (t : FileTree) (content : String) :
    Relation.ReflTransGen (Change s.root) t (s.writeFile t path content).1 := by
  unfold writeFile
  dsimp only
  split
  · split
    · exact .refl
    · rename_i hwritten
      have hfirst := Relation.ReflTransGen.single
        (Change.file (below_temporary hpath) (mapError_eq_ok hwritten))
      split
      · exact hfirst
      · rename_i hmoved
        exact hfirst.tail (.moved (below_temporary hpath) hpath (mapError_eq_ok hmoved))
  · split
    · exact .refl
    · rename_i hwritten
      exact .single (.file hpath (mapError_eq_ok hwritten))

lemma changes_writeAll (h : ∀ a ∈ files, ¬Refused a.path) (t : FileTree) :
    Relation.ReflTransGen (Change s.root) t (s.writeAll t files).1 := by
  induction files generalizing t with
  | nil => exact .refl
  | cons a files ih =>
    obtain ⟨ha, hrest⟩ := List.forall_mem_cons.1 h
    have hwritten := changes_writeFile (below_place (s := s) ha) t a.content
    rw [writeAll]
    dsimp only
    split
    · exact ih hrest t
    · generalize s.writeFile t (s.place a.path) a.content = outcome at hwritten
      obtain ⟨t', result⟩ := outcome
      cases result with
      | error fault => exact hwritten
      | ok _ => exact hwritten.trans (ih hrest t')

end Runs

/-! ### Reports -/

/-- A report tells of every artifact, in order, whether it was written; only scaffolds were not. -/
def Reported (files : List Artifact) (report : SinkReport) : Prop :=
  ∃ told : List (Artifact × Bool), told.map Prod.fst = files ∧
    report.written = (told.filter Prod.snd).map (·.1.path) ∧
    report.skipped = (told.filter fun x => !x.2).map (·.1.path) ∧
    ∀ x ∈ told, x.2 = false → x.1.isScaffold = true

section Reports

variable {s : DirectorySink} {a : Artifact} {files : List Artifact} {report : SinkReport}

lemma Reported.cons_written (h : Reported files report) :
    Reported (a :: files) { report with written := a.path :: report.written } := by
  obtain ⟨told, rfl, hwritten, hskipped, hscaffolds⟩ := h
  refine ⟨(a, true) :: told, rfl, ?_, ?_, ?_⟩
  · rw [hwritten, List.filter_cons_of_pos rfl, List.map_cons]
  · rw [hskipped, List.filter_cons_of_neg (by simp)]
  · exact List.forall_mem_cons.2 ⟨fun h => (Bool.noConfusion h), hscaffolds⟩

lemma Reported.cons_skipped (ha : a.isScaffold = true) (h : Reported files report) :
    Reported (a :: files) { report with skipped := a.path :: report.skipped } := by
  obtain ⟨told, rfl, hwritten, hskipped, hscaffolds⟩ := h
  refine ⟨(a, false) :: told, rfl, ?_, ?_, ?_⟩
  · rw [hwritten, List.filter_cons_of_neg (by simp)]
  · rw [hskipped, List.filter_cons_of_pos rfl, List.map_cons]
  · exact List.forall_mem_cons.2 ⟨fun _ => ha, hscaffolds⟩

lemma reported_writeAll {t : FileTree} (h : (s.writeAll t files).2 = .ok report) :
    Reported files report := by
  induction files generalizing t report with
  | nil =>
    cases h
    exact ⟨[], rfl, rfl, rfl, fun x hx => nomatch hx⟩
  | cons a files ih =>
    rw [writeAll] at h
    dsimp only at h
    split at h
    · rename_i hkept
      obtain ⟨rest, hrest, rfl⟩ := map_eq_ok_iff.1 h
      exact (ih hrest).cons_skipped (Bool.and_eq_true_iff.1 hkept).1
    · split at h
      · cases h
      · obtain ⟨rest, hrest, rfl⟩ := map_eq_ok_iff.1 h
        exact (ih hrest).cons_written

end Reports

/-! ### Whole runs -/

section Accepts

variable {s : DirectorySink} {t : FileTree} {files : List Artifact}

lemma accept_of_refused {before after : List Artifact} {a : Artifact}
    (hbefore : ∀ b ∈ before, ¬Refused b.path) (ha : Refused a.path) :
    ∃ fault, RefusedWith a.path fault ∧
      s.accept t (before ++ a :: after) = (t, .error fault) := by
  obtain ⟨fault, hfault⟩ : ∃ fault, checkPath a.path = .error fault := by
    cases hcheck : checkPath a.path with
    | ok _ => exact absurd ha (checkPath_eq_ok_iff.1 hcheck)
    | error fault => exact ⟨fault, rfl⟩
  have hall : (before ++ a :: after).forM (fun a => checkPath a.path) = .error fault :=
    forM_append_eq_error (fun b hb => checkPath_eq_ok_iff.2 (hbefore b hb)) hfault
  refine ⟨fault, refusedWith_of_checkPath hfault, ?_⟩
  unfold accept
  rw [hall]

/-- Once no path is refused, what happens is what the making and the writing do. -/
lemma accept_of_not_refused (h : ∀ a ∈ files, ¬Refused a.path) :
    s.accept t files =
      match s.makeAll t (s.directories files) with
      | (t, .error fault) => (t, .error fault)
      | (t, .ok ()) => s.writeAll t files := by
  have hall : files.forM (fun a => checkPath a.path) = .ok () :=
    forM_eq_ok_iff.2 fun a ha => checkPath_eq_ok_iff.2 (h a ha)
  unfold accept
  split
  · rename_i hfault
    rw [hall] at hfault
    cases hfault
  · rfl

lemma changes_accept (h : ∀ a ∈ files, ¬Refused a.path) :
    Relation.ReflTransGen (Change s.root) t (s.accept t files).1 := by
  have hdirs : ∀ dir ∈ s.directories files, Leads s.root dir := by
    intro dir hdir
    obtain ⟨a, ha, rfl⟩ := mem_directories hdir
    exact leads_dropLast (below_place (h a ha))
  have hmade : Relation.ReflTransGen (Change s.root) t (s.makeAll t (s.directories files)).1 :=
    Relation.ReflTransGen.mono (fun _ _ => Makes.change hdirs) _ _
      (makes_makeAll (List.Subset.refl _) t)
  rw [accept_of_not_refused h]
  generalize s.makeAll t (s.directories files) = outcome at hmade
  obtain ⟨t', result⟩ := outcome
  cases result with
  | error fault => exact hmade
  | ok _ => exact hmade.trans (changes_writeAll h t')

lemma fault_of_during {α : Type} {action : String} {path : FilePath} {r : Except IoFault α}
    {fault : SinkFault} (h : s.during action path r = .error fault) :
    fault.isInvalidPath = false := by
  cases r with
  | ok a => cases h
  | error io =>
    cases h
    rfl

lemma fault_of_makeAll {dirs : List FilePath} {fault : SinkFault}
    (h : (s.makeAll t dirs).2 = .error fault) : fault.isInvalidPath = false := by
  induction dirs generalizing t with
  | nil => cases h
  | cons dir dirs ih =>
    rw [makeAll] at h
    split at h
    · exact ih h
    · exact fault_of_during (s := s) (r := (.error _ : Except IoFault Unit)) h

lemma fault_of_writeFile {path : FilePath} {content : String} {fault : SinkFault}
    (h : (s.writeFile t path content).2 = .error fault) : fault.isInvalidPath = false := by
  unfold writeFile at h
  dsimp only at h
  split at h
  · split at h
    · rename_i hwrite
      cases h
      exact fault_of_during hwrite
    · split at h
      · rename_i hrename
        cases h
        exact fault_of_during hrename
      · cases h
  · split at h
    · rename_i hwrite
      cases h
      exact fault_of_during hwrite
    · cases h

lemma fault_of_writeAll {fault : SinkFault} (h : (s.writeAll t files).2 = .error fault) :
    fault.isInvalidPath = false := by
  induction files generalizing t with
  | nil => cases h
  | cons a files ih =>
    rw [writeAll] at h
    dsimp only at h
    split at h
    · exact ih (map_eq_error_iff.1 h)
    · split at h
      · rename_i hwrite
        cases h
        exact fault_of_writeFile (congrArg Prod.snd hwrite)
      · exact ih (map_eq_error_iff.1 h)

/-- A fault of a run without refused paths comes from a call. -/
lemma fault_of_not_refused (h : ∀ a ∈ files, ¬Refused a.path) {fault : SinkFault}
    (hfault : (s.accept t files).2 = .error fault) : fault.isInvalidPath = false := by
  rw [accept_of_not_refused h] at hfault
  split at hfault
  · rename_i hmake
    cases hfault
    exact fault_of_makeAll (congrArg Prod.snd hmake)
  · exact fault_of_writeAll hfault

lemma reported_accept {report : SinkReport} (h : (s.accept t files).2 = .ok report) :
    Reported files report := by
  unfold accept at h
  split at h
  · cases h
  · split at h
    · cases h
    · exact reported_writeAll h

end Accepts

/-- A run is refused with a fault about a path exactly if a path is refused; then the fault names
the first such path and nothing has been touched. Otherwise the artifacts have places strictly below
the root, and so have all files that are written or moved and all directories that are made, except
that the root and what leads to it are made where they are missing; and a run that succeeds tells of
each artifact, in order, whether it was written, which only scaffolds may not be. -/
theorem accept_stays_below (s : DirectorySink) (t : FileTree) (files : List Artifact) :
    ((∃ fault, (s.accept t files).2 = .error fault ∧ fault.isInvalidPath = true) ↔
      ∃ a ∈ files, Refused a.path) ∧
    (∀ before a after, files = before ++ a :: after → (∀ b ∈ before, ¬Refused b.path) →
      Refused a.path → ∃ fault, RefusedWith a.path fault ∧ s.accept t files = (t, .error fault)) ∧
    ((∀ a ∈ files, ¬Refused a.path) →
      (∀ a ∈ files, Below s.root (s.place a.path)) ∧
      Relation.ReflTransGen (Change s.root) t (s.accept t files).1 ∧
      (∀ path, KeptOutside s.root t (s.accept t files).1 path) ∧
      (t.isDirectory s.root = true → ∀ path, ¬Below s.root path →
        FileTree.entry? (s.accept t files).1 path = t.entry? path) ∧
      ∀ report, (s.accept t files).2 = .ok report → Reported files report) := by
  have hfirst : ∀ before a after, files = before ++ a :: after →
      (∀ b ∈ before, ¬Refused b.path) → Refused a.path →
      ∃ fault, RefusedWith a.path fault ∧ s.accept t files = (t, .error fault) := by
    rintro before a after rfl hbefore ha
    exact accept_of_refused hbefore ha
  refine ⟨⟨?_, ?_⟩, hfirst, fun h => ⟨fun a ha => below_place (h a ha), changes_accept h,
    keptOutside_of_changes (changes_accept h), ?_, fun report => reported_accept⟩⟩
  · rintro ⟨fault, hfault, hpath⟩
    by_contra hnone
    push Not at hnone
    rw [fault_of_not_refused hnone hfault] at hpath
    cases hpath
  · rintro ⟨a, ha, hrefused⟩
    classical
    obtain ⟨first, hfound⟩ := Option.isSome_iff_exists.1
      (List.find?_isSome (p := fun a => decide (Refused a.path)).2
        ⟨a, ha, decide_eq_true hrefused⟩)
    obtain ⟨hrefused, before, after, hfiles, hbefore⟩ := List.find?_eq_some_iff_append.1 hfound
    obtain ⟨fault, hfault, haccept⟩ := hfirst before first after hfiles
      (fun b hb => by simpa using hbefore b hb) (of_decide_eq_true hrefused)
    exact ⟨fault, congrArg Prod.snd haccept, hfault.refused.2⟩
  · intro hroot path hpath
    rcases keptOutside_of_changes (changes_accept h) path with hkept | hbelow | ⟨hleads, hfree, -⟩
    · exact hkept
    · exact absurd hbelow hpath
    · rw [entry?_of_isDirectory hroot hleads] at hfree
      cases hfree

/-- A missing root is made, though it does not lie below itself. -/
theorem missingRoot_made :
    let s : DirectorySink := ⟨"root", ["out"], true⟩
    let t := FileTree.empty 15
    let files : List Artifact := [⟨"a.rs", "x", .generated⟩]
    (∀ a ∈ files, ¬Refused a.path) ∧ (s.accept t files).2 = .ok ⟨["a.rs"], []⟩ ∧
      t.entry? ["out"] = none ∧ FileTree.entry? (s.accept t files).1 ["out"] = some .directory ∧
      ¬Below s.root ["out"] := by
  refine ⟨?_, by decide, by decide, by decide, ?_⟩
  · intro a ha
    rw [List.mem_singleton.1 ha]
    exact checkPath_eq_ok_iff.1 (by decide)
  · rintro ⟨names, hpath, hne, -⟩
    have hnone : names = [] := by simpa using hpath
    exact hne hnone

end ApiCodegen.Proofs
