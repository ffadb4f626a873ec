import ApiCodegen.Proofs.Entries
import ApiCodegen.Sink.Memory
import Mathlib.Data.Finset.Card
import Mathlib.Data.String.Basic

/-!
# Which texts survive a run

A store takes every generated artifact, and a scaffold only where its path is free. After a run a
path therefore holds the last text that was generated for it; failing that, what it held before; and
failing that, the first scaffold. The same run once more puts other texts under a path for a while
and then comes back to the same store.
-/

namespace ApiCodegen.Proofs
open MemoryStore

/-! ### One text at a time -/

section Texts

variable {path other content old : String} {files : List (String × String)} {s : MemoryStore}

lemma lookup_put (path content key : String) (files : List (String × String)) :
    (put path content files).lookup key = if key = path then some content else files.lookup key := by
  induction files with
  | nil => rw [put, lookup_cons_eq_ite]
  | cons file files ih =>
    obtain ⟨p, c⟩ := file
    rw [put]
    by_cases hbefore : path < p
    · rw [if_pos hbefore, lookup_cons_eq_ite]
    rw [if_neg hbefore]
    by_cases hsame : path = p
    · subst hsame
      rw [if_pos rfl, lookup_cons_eq_ite, lookup_cons_eq_ite]
      by_cases hkey : key = path
      · rw [if_pos hkey, if_pos hkey]
      · rw [if_neg hkey, if_neg hkey, if_neg hkey]
    · rw [if_neg hsame, lookup_cons_eq_ite, lookup_cons_eq_ite, ih]
      by_cases hkey : key = p
      · have hne : key ≠ path := fun h => hsame (h.symm.trans hkey)
        rw [if_pos hkey, if_neg hne, if_pos hkey]
      · rw [if_neg hkey, if_neg hkey]

lemma put_put_self : put path content (put path old files) = put path content files := by
  induction files with
  | nil => simp [put]
  | cons file files ih =>
    obtain ⟨p, c⟩ := file
    by_cases hbefore : path < p
    · simp [put, hbefore]
    · by_cases hsame : path = p
      · subst hsame
        simp [put]
      · simp [put, hbefore, hsame, ih]

lemma put_comm (h : path ≠ other) :
    put path content (put other old files) = put other old (put path content files) := by
  wlog hlt : path < other generalizing path other content old
  · exact (this h.symm ((lt_or_gt_of_ne h).resolve_left hlt)).symm
  have hnot : ¬other < path := lt_asymm hlt
  induction files with
  | nil => simp [put, hlt, hnot, h.symm]
  | cons file files ih =>
    obtain ⟨p, c⟩ := file
    rcases lt_trichotomy path p with hpath | rfl | hpath
    · rcases lt_trichotomy other p with hother | rfl | hother
      · simp [put, hpath, hother, hlt, hnot, h.symm]
      · simp [put, hlt, hnot, h.symm]
      · simp [put, hpath, hother.not_gt, hother.ne', hnot, h.symm]
    · simp [put, hnot, h.symm]
    · have hother : p < other := hpath.trans hlt
      simp [put, hpath.not_gt, hpath.ne', hother.not_gt, hother.ne', ih]

lemma get?_insert (s : MemoryStore) (path content key : String) :
    (s.insert path content).get? key = if key = path then some content else s.get? key :=
  lookup_put path content key s.files

lemma insert_insert_self : (s.insert path old).insert path content = s.insert path content :=
  congrArg MemoryStore.mk put_put_self

lemma insert_comm (h : path ≠ other) :
    (s.insert other old).insert path content = (s.insert path content).insert other old :=
  congrArg MemoryStore.mk (put_comm h)

end Texts

/-! ### One artifact at a time -/

/-- The texts that artifacts of one kind have for a path, in order. -/
def textsOf (kind : ArtifactKind) (files : List Artifact) (path : String) : List String :=
  (files.filter fun a => a.kind == kind && a.path == path).map (·.content)

/-- The number of generated artifacts. -/
def generatedCount (files : List Artifact) : Nat := files.countP fun a => !a.isScaffold

/-- The artifacts before the first scaffold of a path. -/
def beforeScaffold (files : List Artifact) (path : String) : List Artifact :=
  files.takeWhile fun a => !(a.isScaffold && a.path == path)

/-- The paths of scaffolds that are free when their first scaffold is reached. -/
def freePaths (s : MemoryStore) (files : List Artifact) : Finset String :=
  ((files.filter Artifact.isScaffold).map (·.path)).toFinset.filter fun path =>
    (s.accept (beforeScaffold files path)).1.get? path = none

section Artifacts

variable {s : MemoryStore} {a : Artifact} {files more : List Artifact} {path : String}

/-- An artifact is a scaffold whose path is taken, or it is stored. -/
lemma acceptOne_cases (s : MemoryStore) (a : Artifact) :
    (a.isScaffold = true ∧ s.get? a.path ≠ none ∧ s.acceptOne a = (s, false)) ∨
      ((a.isScaffold = true → s.get? a.path = none) ∧
        s.acceptOne a = (s.insert a.path a.content, true)) := by
  unfold acceptOne
  by_cases hkept : a.isScaffold = true ∧ s.get? a.path ≠ none
  · have hcondition : (a.isScaffold && (s.get? a.path).isSome) = true := by
      rw [Bool.and_eq_true, Option.isSome_iff_ne_none]
      exact hkept
    exact Or.inl ⟨hkept.1, hkept.2, if_pos hcondition⟩
  · have hcondition : ¬(a.isScaffold && (s.get? a.path).isSome) = true := by
      rw [Bool.and_eq_true, Option.isSome_iff_ne_none]
      exact hkept
    refine Or.inr ⟨fun hscaffold => ?_, if_neg hcondition⟩
    by_contra htaken
    exact hkept ⟨hscaffold, htaken⟩

lemma accept_cons (s : MemoryStore) (a : Artifact) (files : List Artifact) :
    s.accept (a :: files) = (((s.acceptOne a).1.accept files).1,
      ((s.acceptOne a).1.accept files).2 + if (s.acceptOne a).2 then 1 else 0) := rfl

lemma accept_append (s : MemoryStore) (files more : List Artifact) :
    s.accept (files ++ more) = (((s.accept files).1.accept more).1,
      (s.accept files).2 + ((s.accept files).1.accept more).2) := by
  induction files generalizing s with
  | nil => exact Prod.ext rfl (Nat.zero_add _).symm
  | cons a files ih =>
    rw [List.cons_append, accept_cons, ih, accept_cons]
    exact Prod.ext rfl (Nat.add_right_comm _ _ _)

lemma get?_acceptOne_of_ne (h : path ≠ a.path) : (s.acceptOne a).1.get? path = s.get? path := by
  rcases acceptOne_cases s a with ⟨-, -, hstep⟩ | ⟨-, hstep⟩
  · rw [hstep]
  · rw [hstep, get?_insert, if_neg h]

/-- A path that is taken stays so. -/
lemma get?_accept_ne_none (h : s.get? path ≠ none) : (s.accept files).1.get? path ≠ none := by
  induction files generalizing s with
  | nil => exact h
  | cons a files ih =>
    rw [accept_cons]
    refine ih ?_
    rcases acceptOne_cases s a with ⟨-, -, hstep⟩ | ⟨-, hstep⟩
    · rwa [hstep]
    · rw [hstep, get?_insert]
      split
      · exact Option.some_ne_none _
      · exact h

lemma get?_accept_of_mem (h : a ∈ files) : (s.accept files).1.get? a.path ≠ none := by
  induction files generalizing s with
  | nil => cases h
  | cons b files ih =>
    rw [accept_cons]
    rcases List.mem_cons.1 h with rfl | h
    · refine get?_accept_ne_none ?_
      rcases acceptOne_cases s a with ⟨-, htaken, hstep⟩ | ⟨-, hstep⟩
      · rwa [hstep]
      · rw [hstep, get?_insert, if_pos rfl]
        exact Option.some_ne_none _
    · exact ih h

lemma get?_accept_of_not_mem (h : ∀ a ∈ files, a.path ≠ path) :
    (s.accept files).1.get? path = s.get? path := by
  induction files generalizing s with
  | nil => rfl
  | cons a files ih =>
    obtain ⟨ha, hrest⟩ := List.forall_mem_cons.1 h
    rw [accept_cons, ih hrest, get?_acceptOne_of_ne ha.symm]

lemma textsOf_cons (kind : ArtifactKind) (a : Artifact) (files : List Artifact) (path : String) :
    textsOf kind (a :: files) path =
      if a.kind = kind ∧ a.path = path then a.content :: textsOf kind files path
      else textsOf kind files path := by
  unfold textsOf
  by_cases h : a.kind = kind ∧ a.path = path
  · rw [if_pos h, List.filter_cons_of_pos (by simp [h]), List.map_cons]
  · rw [if_neg h, List.filter_cons_of_neg (by simpa using h)]

/-- What a run leaves under a path: the last generated text, what was there, the first scaffold. -/
lemma get?_accept (s : MemoryStore) (files : List Artifact) (path : String) :
    (s.accept files).1.get? path =
      ((textsOf .generated files path).getLast?.or (s.get? path)).or
        (textsOf .scaffolded files path).head? := by
  induction files generalizing s with
  | nil => simp [textsOf, accept]
  | cons a files ih =>
    rw [accept_cons, ih, textsOf_cons, textsOf_cons]
    by_cases hpath : a.path = path
    · subst hpath
      cases hkind : a.kind with
      | generated =>
        have hstep : s.acceptOne a = (s.insert a.path a.content, true) := by
          rcases acceptOne_cases s a with ⟨hscaffold, -⟩ | ⟨-, hstep⟩
          · rw [Artifact.isScaffold, hkind] at hscaffold
            cases hscaffold
          · exact hstep
        rw [hstep, get?_insert]
        simp [List.getLast?_cons]
      | scaffolded =>
        rcases acceptOne_cases s a with ⟨-, htaken, hstep⟩ | ⟨hfree, hstep⟩
        · obtain ⟨text, htext⟩ := Option.ne_none_iff_exists'.1 htaken
          rw [hstep, htext]
          simp
        · rw [hstep, get?_insert, hfree (by rw [Artifact.isScaffold, hkind]; rfl)]
          simp
    · have hother : ∀ kind, ¬(a.kind = kind ∧ a.path = path) := fun kind h => hpath h.2
      rw [get?_acceptOne_of_ne (Ne.symm hpath), if_neg (hother _), if_neg (hother _)]

end Artifacts

/-! ### How many are stored -/

section Counts

variable {s : MemoryStore} {a : Artifact} {files : List Artifact} {path : String}

lemma mem_freePaths_iff : path ∈ freePaths s files ↔
    path ∈ (files.filter Artifact.isScaffold).map (·.path) ∧
      (s.accept (beforeScaffold files path)).1.get? path = none := by
  unfold freePaths
  rw [Finset.mem_filter, List.mem_toFinset]

/-- Behind an artifact that is no scaffold of a path, the path is reached as from the next state. -/
lemma mem_freePaths_cons_iff (h : ¬(a.isScaffold = true ∧ a.path = path)) :
    path ∈ freePaths s (a :: files) ↔ path ∈ freePaths (s.acceptOne a).1 files := by
  have hbefore : beforeScaffold (a :: files) path = a :: beforeScaffold files path := by
    unfold beforeScaffold
    exact List.takeWhile_cons_of_pos (by simpa [imp_iff_not_or] using h)
  have hpaths : path ∈ ((a :: files).filter Artifact.isScaffold).map (·.path) ↔
      path ∈ (files.filter Artifact.isScaffold).map (·.path) := by
    by_cases hscaffold : a.isScaffold = true
    · rw [List.filter_cons_of_pos hscaffold, List.map_cons, List.mem_cons]
      exact or_iff_right fun heq => h ⟨hscaffold, heq.symm⟩
    · rw [List.filter_cons_of_neg hscaffold]
  rw [mem_freePaths_iff, mem_freePaths_iff, hbefore, hpaths]
  rfl

lemma not_mem_freePaths (h : s.get? path ≠ none) : path ∉ freePaths s files :=
  fun hmem => get?_accept_ne_none h (mem_freePaths_iff.1 hmem).2

/-- The scaffold at the head is reached at once. -/
lemma head_mem_freePaths_iff (h : a.isScaffold = true) :
    a.path ∈ freePaths s (a :: files) ↔ s.get? a.path = none := by
  have hbefore : beforeScaffold (a :: files) a.path = [] := by
    unfold beforeScaffold
    exact List.takeWhile_cons_of_neg (by simp [h])
  rw [mem_freePaths_iff, hbefore, List.filter_cons_of_pos h, List.map_cons]
  exact and_iff_right List.mem_cons_self

lemma freePaths_cons_of_generated (h : a.isScaffold = false) :
    freePaths s (a :: files) = freePaths (s.acceptOne a).1 files := by
  ext path
  exact mem_freePaths_cons_iff fun hscaffold => Bool.false_ne_true (h.symm.trans hscaffold.1)

lemma freePaths_cons_of_taken (h : a.isScaffold = true) (htaken : s.get? a.path ≠ none) :
    freePaths s (a :: files) = freePaths (s.acceptOne a).1 files := by
  ext path
  by_cases hpath : a.path = path
  · subst hpath
    rw [head_mem_freePaths_iff h]
    refine iff_of_false htaken (not_mem_freePaths ?_)
    have hkept : (s.accept [a]).1.get? a.path ≠ none := get?_accept_ne_none htaken
    exact hkept
  · exact mem_freePaths_cons_iff fun hscaffold => hpath hscaffold.2

lemma freePaths_cons_of_free (h : a.isScaffold = true) (hfree : s.get? a.path = none) :
    freePaths s (a :: files) = insert a.path (freePaths (s.acceptOne a).1 files) := by
  ext path
  rw [Finset.mem_insert]
  by_cases hpath : a.path = path
  · subst hpath
    exact iff_of_true ((head_mem_freePaths_iff h).2 hfree) (Or.inl rfl)
  · rw [mem_freePaths_cons_iff fun hscaffold => hpath hscaffold.2]
    exact (or_iff_right (Ne.symm hpath)).symm

lemma accept_count (s : MemoryStore) (files : List Artifact) :
    (s.accept files).2 = generatedCount files + (freePaths s files).card := by
  induction files generalizing s with
  | nil => rfl
  | cons a files ih =>
    rw [accept_cons, ih]
    unfold generatedCount
    rcases acceptOne_cases s a with ⟨hscaffold, htaken, hstep⟩ | ⟨hfree, hstep⟩
    · rw [freePaths_cons_of_taken hscaffold htaken, List.countP_cons_of_neg (by simp [hscaffold]),
        hstep]
      rfl
    cases hscaffold : a.isScaffold with
    | false =>
      rw [freePaths_cons_of_generated hscaffold, List.countP_cons_of_pos (by simp [hscaffold]),
        hstep]
      exact Nat.add_right_comm _ _ _
    | true =>
      have hnew : a.path ∉ freePaths (s.acceptOne a).1 files := by
        refine not_mem_freePaths ?_
        rw [hstep, get?_insert, if_pos rfl]
        exact Option.some_ne_none _
      rw [freePaths_cons_of_free hscaffold (hfree hscaffold), Finset.card_insert_of_notMem hnew,
        List.countP_cons_of_neg (by simp [hscaffold]), hstep]
      exact Nat.add_assoc _ _ _

end Counts

/-! ### The same run once more -/

section Again

variable {s : MemoryStore} {a : Artifact} {files : List Artifact} {path text old : String}

/-- A text at another path is stored before or after an artifact alike. -/
lemma acceptOne_insert (h : a.path ≠ path) :
    (s.insert path old).acceptOne a = ((s.acceptOne a).1.insert path old, (s.acceptOne a).2) := by
  have hget : (s.insert path old).get? a.path = s.get? a.path := by
    rw [get?_insert, if_neg h]
  unfold acceptOne
  rw [hget]
  split
  · rfl
  · exact Prod.ext (insert_comm h) rfl

lemma accept_insert (h : ∀ a ∈ files, a.path ≠ path) :
    (s.insert path old).accept files = ((s.accept files).1.insert path old, (s.accept files).2) := by
  induction files generalizing s with
  | nil => rfl
  | cons a files ih =>
    obtain ⟨ha, hrest⟩ := List.forall_mem_cons.1 h
    rw [accept_cons, accept_cons, acceptOne_insert ha, ih hrest]

/-- A text that is put under a path after a run hides what the run met and stored there. -/
lemma accept_insert_insert (s : MemoryStore) (files : List Artifact) (path old text : String) :
    ((s.insert path old).accept files).1.insert path text =
      (s.accept files).1.insert path text := by
  induction files generalizing s old with
  | nil => exact insert_insert_self
  | cons a files ih =>
    rw [accept_cons, accept_cons]
    by_cases hpath : a.path = path
    · subst hpath
      have hafter : ∃ new, ((s.insert a.path old).acceptOne a).1 = s.insert a.path new := by
        rcases acceptOne_cases (s.insert a.path old) a with ⟨-, -, hstep⟩ | ⟨-, hstep⟩
        · exact ⟨old, congrArg Prod.fst hstep⟩
        · exact ⟨a.content, (congrArg Prod.fst hstep).trans insert_insert_self⟩
      obtain ⟨new, hnew⟩ := hafter
      rw [hnew, ih]
      rcases acceptOne_cases s a with ⟨-, -, hstep⟩ | ⟨-, hstep⟩
      · rw [hstep]
      · rw [hstep, ih]
    · rw [acceptOne_insert hpath]
      exact ih _ _

/-- A store that has taken a run is the same after that run. -/
lemma accept_again (s : MemoryStore) (files : List Artifact) :
    ((s.accept files).1.accept files).1 = (s.accept files).1 := by
  induction files using List.reverseRecOn with
  | nil => rfl
  | append_singleton files a ih =>
    have happend : ∀ t : MemoryStore,
        (t.accept (files ++ [a])).1 = ((t.accept files).1.acceptOne a).1 := by
      intro t
      rw [accept_append]
      rfl
    rw [happend, happend]
    generalize hbefore : (s.accept files).1 = before at ih
    rcases acceptOne_cases before a with ⟨hscaffold, htaken, hstep⟩ | ⟨hfree, hstep⟩
    · rw [hstep, ih, hstep]
    rw [hstep]
    cases hscaffold : a.isScaffold with
    | false =>
      rcases acceptOne_cases ((before.insert a.path a.content).accept files).1 a with
        ⟨hscaffold', -⟩ | ⟨-, hagain⟩
      · rw [hscaffold] at hscaffold'
        cases hscaffold'
      · rw [hagain, accept_insert_insert, ih]
    | true =>
      have hfresh : ∀ b ∈ files, b.path ≠ a.path := by
        intro b hb heq
        have htaken : before.get? b.path ≠ none := hbefore ▸ get?_accept_of_mem hb
        rw [heq] at htaken
        exact htaken (hfree hscaffold)
      rw [accept_insert hfresh, ih]
      rcases acceptOne_cases (before.insert a.path a.content) a with ⟨-, -, hagain⟩ | ⟨-, hagain⟩
      · rw [hagain]
      · rw [hagain]
        exact insert_insert_self

/-- The second run stores the generated artifacts and nothing else. -/
lemma freePaths_again (s : MemoryStore) (files : List Artifact) :
    freePaths (s.accept files).1 files = ∅ := by
  rw [Finset.eq_empty_iff_forall_notMem]
  intro path hmem
  obtain ⟨hpath, -⟩ := mem_freePaths_iff.1 hmem
  obtain ⟨a, ha, rfl⟩ := List.mem_map.1 hpath
  exact not_mem_freePaths (get?_accept_of_mem (List.mem_of_mem_filter ha)) hmem

end Again

/-- What a run leaves in a store: under each path the last text generated for it, else what was
there, else the first scaffold, so that a path without artifacts keeps its text. The run stores the
generated artifacts and one scaffold for each path that is free when it is reached. The same run
once more changes nothing and stores the generated artifacts. -/
theorem accept_overwrites (s : MemoryStore) (files : List Artifact) :
    (∀ path, (s.accept files).1.get? path =
      ((textsOf .generated files path).getLast?.or (s.get? path)).or
        (textsOf .scaffolded files path).head?) ∧
    (∀ path, path ∉ files.map (·.path) → (s.accept files).1.get? path = s.get? path) ∧
    (s.accept files).2 = generatedCount files + (freePaths s files).card ∧
    (s.accept files).1.accept files = ((s.accept files).1, generatedCount files) := by
  refine ⟨get?_accept s files, fun path hpath => ?_, accept_count s files, ?_⟩
  · exact get?_accept_of_not_mem fun a ha heq => hpath (List.mem_map.2 ⟨a, ha, heq⟩)
  · refine Prod.ext (accept_again s files) ?_
    rw [accept_count, freePaths_again, Finset.card_empty, Nat.add_zero]

end ApiCodegen.Proofs
