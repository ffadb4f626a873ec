import ApiCodegen.Proofs.BelowRoot
import ApiCodegen.Proofs.Overwriting

/-!
# The same texts below a root and in memory

A directory sink that starts from an empty root leaves there the files that a store in memory holds
after the same artifacts. There is one exception: a file that is first written beside its place
takes the place of an artifact that is called like it, and leaves it empty. `stored` gives what is
stored with and without that loss, `Lost` says which paths it hits.
-/

namespace ApiCodegen.Proofs
open DirectorySink

/-! ### Places of paths -/

section Places

variable {s : DirectorySink} {path other : String}

lemma intercalate_splitString (path : String) :
    "/".intercalate (Text.splitString (· == '/') path) = path := by
  rw [← String.toList_inj, String.toList_intercalate, splitString_slash, List.map_map]
  have hchars : (String.toList ∘ String.ofList : List Char → List Char) = id :=
    funext fun _ => String.toList_ofList
  rw [hchars, List.map_id]
  exact List.intercalate_splitOn '/'

lemma splitString_intercalate {names : List String} (h : ∀ name ∈ names, '/' ∉ name.toList)
    (hne : names ≠ []) : Text.splitString (· == '/') ("/".intercalate names) = names := by
  rw [splitString_slash, splitOn_intercalate_slash h hne, List.map_map]
  exact (List.map_congr_left fun _ _ => String.ofList_toList).trans (List.map_id _)

lemma splitString_ne_nil (path : String) : Text.splitString (· == '/') path ≠ [] := by
  unfold Text.splitString
  rw [ne_eq, List.map_eq_nil_iff]
  exact Text.split_ne_nil _ _

lemma place_inj : s.place path = s.place other ↔ path = other := by
  refine ⟨fun h => ?_, fun h => h ▸ rfl⟩
  rw [← intercalate_splitString path, List.append_cancel_left h, intercalate_splitString]

lemma place_ne_nil (path : String) : s.place path ≠ [] :=
  List.append_ne_nil_of_right_ne_nil _ (splitString_ne_nil path)

/-- The place beside an artifact is that of its path with the suffix. -/
lemma place_temporary (path : String) :
    s.place (path ++ temporarySuffix) = temporary (s.place path) := by
  have hslash : '/' ∉ temporarySuffix.toList := by decide
  have hsuffix : ∀ c ∈ temporarySuffix.toList, (c == '/') = false :=
    fun c hc => beq_false_of_ne fun heq => hslash (heq ▸ hc)
  obtain ⟨pieces, piece, hpieces⟩ := List.eq_nil_or_concat' (Text.split (· == '/') path.toList)
    |>.resolve_left (Text.split_ne_nil _ _)
  have hsplit := split_append_unsplit hsuffix path.toList
  rw [hpieces, List.dropLast_concat, List.getLastD_concat] at hsplit
  unfold temporary place Text.splitString
  rw [String.toList_append, hsplit, hpieces, List.map_append, List.map_append, List.map_singleton,
    List.map_singleton, ← List.append_assoc, ← List.append_assoc, List.dropLast_concat,
    List.getLastD_concat, String.ofList_append, String.ofList_toList]

lemma length_temporary {place : FilePath} (h : place ≠ []) :
    (temporary place).length = place.length := by
  unfold temporary
  rw [List.length_append, List.length_dropLast, List.length_singleton]
  have := List.length_pos_iff.2 h
  omega

lemma append_suffix_ne (path : String) : path ≠ path ++ temporarySuffix := by
  intro h
  have hlength := congrArg String.length h
  rw [String.length_append, show temporarySuffix.length = 4 by decide] at hlength
  omega

/-- What lies below the place of a path has that path before its own, read as a directory. -/
lemma toList_leading_of_place (h : s.place path <+: (s.place other).dropLast) :
    (path ++ "/").toList <+: other.toList := by
  unfold place at h
  rw [List.dropLast_append_of_ne_nil (splitString_ne_nil other), List.prefix_append_right_inj] at h
  obtain ⟨more, hmore⟩ := h
  have hother := List.dropLast_concat_getLast (splitString_ne_nil other)
  rw [← hmore, List.append_assoc] at hother
  generalize (Text.splitString (· == '/') other).getLast (splitString_ne_nil other) = last at hother
  refine ⟨("/".intercalate (more ++ [last])).toList, ?_⟩
  rw [← String.toList_append, ← intercalate_splitString other, ← hother,
    String.intercalate_append_of_ne_nil (splitString_ne_nil path) (by simp),
    intercalate_splitString]

/-- Every path with names below the root is the place of some text. -/
lemma place_intercalate {names : List String} (h : ∀ name ∈ names, IsName name) (hne : names ≠ []) :
    s.place ("/".intercalate names) = s.root ++ names := by
  unfold place
  rw [splitString_intercalate (fun name hname => (h name hname).2) hne]

lemma ne_temporary_of_leading {place before : FilePath} (h : before <+: place)
    (hplace : place ≠ []) : before ≠ temporary place := by
  rintro rfl
  have hsame : temporary place = place := h.eq_of_length (length_temporary hplace)
  have hlast : (temporary place).getLastD "" = place.getLastD "" ++ temporarySuffix :=
    List.getLastD_concat
  rw [hsame] at hlast
  exact append_suffix_ne _ hlast

end Places

/-! ### What one file does to a tree -/

/-- The text of the file at a place. -/
def textAt (t : FileTree) (place : FilePath) : Option String :=
  match t.entry? place with
  | some (.file content) => some content
  | _ => none

section Trees

variable {s : DirectorySink} {t t' : FileTree} {place other : FilePath} {content : String}
  {entry : FileEntry}

lemma textAt_eq_some_iff :
    textAt t place = some content ↔ t.entry? place = some (.file content) := by
  unfold textAt
  split
  · rename_i heq
    rw [heq, Option.some.injEq, Option.some.injEq, FileEntry.file.injEq]
  · rename_i hother
    exact iff_of_false (by simp) (hother content)

lemma textAt_eq_none_iff : textAt t place = none ↔
    t.entry? place = none ∨ t.entry? place = some .directory := by
  unfold textAt
  match t.entry? place with
  | none | some .directory | some (.file _) => simp

/-- A call looks at what its path leads through, and at nothing else. -/
lemma follow_congr {here rest : FilePath}
    (h : ∀ before, before <+: rest → t.entry? (here ++ before) = t'.entry? (here ++ before)) :
    t.follow here rest = t'.follow here rest := by
  induction rest generalizing here with
  | nil =>
    have hhere := h [] (List.prefix_refl _)
    rw [List.append_nil] at hhere
    rw [FileTree.follow, FileTree.follow, hhere]
  | cons name rest ih =>
    have hhere := h [] List.nil_prefix
    rw [List.append_nil] at hhere
    have hrest : t.follow (here ++ [name]) rest = t'.follow (here ++ [name]) rest := by
      refine ih fun before hbefore => ?_
      rw [List.append_assoc]
      exact h (name :: before) (List.cons_prefix_cons.2 ⟨rfl, hbefore⟩)
    rw [FileTree.follow, FileTree.follow, hhere, hrest]

lemma locate_congr (htop : t.topSize = t'.topSize)
    (h : ∀ before, before <+: place → t.entry? before = t'.entry? before) :
    t.locate place = t'.locate place := by
  have hsize : t.pathSize place = t'.pathSize place := by
    unfold FileTree.pathSize
    rw [htop]
  have hfollow : t.follow [] place = t'.follow [] place := follow_congr h
  unfold FileTree.locate
  rw [hsize, hfollow]

lemma entry?_of_present (h : t.present place = true) : t.entry? place ≠ none := by
  unfold FileTree.present at h
  split at h
  · rename_i hlocated
    rw [entry?_locate hlocated]
    exact Option.some_ne_none _
  · cases h

lemma present_of_locate {found : Option FileEntry} (h : t.locate place = .ok found)
    (hentry : t.entry? place ≠ none) : t.present place = true := by
  obtain ⟨entry, hfound⟩ := Option.ne_none_iff_exists'.1 (entry?_locate h ▸ hentry)
  unfold FileTree.present
  rw [h, hfound]

/-- The two ways in which one file is written, call by call. -/
lemma writeFile_eq_ok (h : s.writeFile t place content = (t', .ok ())) :
    (s.atomic = true ∧ ∃ written, t.write (temporary place) content = .ok written ∧
      written.rename (temporary place) place = .ok t') ∨
    (s.atomic = false ∧ t.write place content = .ok t') := by
  unfold writeFile at h
  dsimp only at h
  split at h
  · rename_i hatomic
    split at h
    · cases h
    · rename_i hwritten
      split at h
      · cases h
      · rename_i hrenamed
        cases h
        exact Or.inl ⟨hatomic, _, mapError_eq_ok hwritten, mapError_eq_ok hrenamed⟩
  · rename_i hdirect
    split at h
    · cases h
    · rename_i hwritten
      cases h
      exact Or.inr ⟨Bool.eq_false_iff.2 hdirect, mapError_eq_ok hwritten⟩

/-- A file that is written first beside its place leaves nothing there. -/
lemma entry?_writeFile (h : s.writeFile t place content = (t', .ok ())) (other : FilePath) :
    t'.entry? other =
      if other = place then some (.file content)
      else if s.atomic = true ∧ other = temporary place then none
      else t.entry? other := by
  rcases writeFile_eq_ok h with ⟨hatomic, written, hwrite, hrename⟩ | ⟨hdirect, hwrite⟩
  · obtain ⟨haside, rfl⟩ := write_eq_ok hwrite
    obtain ⟨moved, hmoved, htarget, rfl⟩ := rename_eq_ok hrename
    have hne := ne_nil_of_entry haside
    rw [entry?_set hne, if_pos rfl] at hmoved
    cases hmoved
    rw [entry?_set (ne_nil_of_entry htarget), entry?_erase hne, entry?_set hne]
    refine congrArg _ ?_
    by_cases hother : other = temporary place
    · rw [if_pos hother, if_pos ⟨hatomic, hother⟩]
    · rw [if_neg hother, if_neg hother, if_neg fun h => hother h.2]
  · obtain ⟨hplace, rfl⟩ := write_eq_ok hwrite
    have hnone : ¬(s.atomic = true ∧ other = temporary place) := by
      rw [hdirect]
      exact fun h => Bool.false_ne_true h.1
    rw [entry?_set (ne_nil_of_entry hplace), if_neg hnone]

/-- Where a file can be written, a scaffold is not taken for missing. -/
lemma present_of_writeFile (hplace : place ≠ [])
    (h : s.writeFile t place content = (t', .ok ())) (hentry : t.entry? place ≠ none) :
    t.present place = true := by
  rcases writeFile_eq_ok h with ⟨-, written, hwrite, hrename⟩ | ⟨-, hwrite⟩
  · obtain ⟨haside, rfl⟩ := write_eq_ok hwrite
    obtain ⟨_, -, htarget⟩ := bind_eq_ok_iff.1 hrename
    obtain ⟨found, hfound, -⟩ := bind_eq_ok_iff.1 htarget
    have hsame : t.locate place =
        (t.set (temporary place) (.file content)).locate place := by
      refine locate_congr rfl fun before hbefore => ?_
      rw [entry?_set (ne_nil_of_entry haside), if_neg (ne_temporary_of_leading hbefore hplace)]
    exact present_of_locate (hsame.trans hfound) hentry
  · obtain ⟨found, hfound, -⟩ := bind_eq_ok_iff.1 hwrite
    exact present_of_locate hfound hentry

/-- Making directories leaves an entry alone, or makes it a directory that leads to one of them. -/
lemma entry?_of_makes {dirs : List FilePath} (h : Relation.ReflTransGen (Makes dirs) t t')
    (place : FilePath) : t'.entry? place = t.entry? place ∨
      t'.entry? place = some .directory ∧ ∃ dir ∈ dirs, place <+: dir := by
  induction h with
  | refl => exact Or.inl rfl
  | tail _ hstep ih =>
    obtain ⟨dir, hdir, path, hpath, hmade⟩ := hstep
    obtain ⟨hfree, rfl⟩ := makeDirectory_eq_ok hmade
    rw [entry?_set (ne_nil_of_entry (by rw [hfree]; simp))]
    by_cases hplace : place = path
    · rw [if_pos hplace]
      exact Or.inr ⟨rfl, dir, hdir, hplace ▸ hpath⟩
    · rw [if_neg hplace]
      exact ih

end Trees

/-! ### Runs -/

/-- The texts by path after one artifact. The sink that first writes a file beside its place takes
away the text that was there. -/
def stored (atomic : Bool) (texts : String → Option String) (a : Artifact) (path : String) :
    Option String :=
  if a.isScaffold = true ∧ texts a.path ≠ none then texts path
  else if path = a.path then some a.content
  else if atomic = true ∧ path = a.path ++ temporarySuffix then none
  else texts path

section Runs

variable {s : DirectorySink} {t t' : FileTree} {texts : String → Option String} {a : Artifact}
  {files : List Artifact} {report : SinkReport} {path : String} {atomic : Bool}

lemma stored_of_kept (h : a.isScaffold = true ∧ texts a.path ≠ none) :
    stored atomic texts a = texts :=
  funext fun _ => if_pos h

lemma stored_self (h : ¬(a.isScaffold = true ∧ texts a.path ≠ none)) :
    stored atomic texts a a.path = some a.content := by
  unfold stored
  rw [if_neg h, if_pos rfl]

lemma stored_of_ne (hpath : path ≠ a.path)
    (hbeside : atomic = true → path ≠ a.path ++ temporarySuffix) :
    stored atomic texts a path = texts path := by
  unfold stored
  rw [if_neg hpath, if_neg (c := atomic = true ∧ _) fun h => hbeside h.1 h.2, ite_self]

lemma stored_beside (h : ¬(a.isScaffold = true ∧ texts a.path ≠ none)) :
    stored true texts a (a.path ++ temporarySuffix) = none := by
  unfold stored
  rw [if_neg h, if_neg (append_suffix_ne a.path).symm, if_pos ⟨rfl, rfl⟩]

lemma stored_of_free (hpath : path ≠ a.path) (hfree : texts path = none) :
    stored atomic texts a path = none := by
  unfold stored
  rw [if_neg hpath, hfree, ite_self, ite_self]

lemma textAt_writeFile (ht : ∀ path, textAt t (s.place path) = texts path)
    (hwritten : ¬(a.isScaffold = true ∧ texts a.path ≠ none))
    (h : s.writeFile t (s.place a.path) a.content = (t', .ok ())) (path : String) :
    textAt t' (s.place path) = stored s.atomic texts a path := by
  have hentry := entry?_writeFile h (s.place path)
  by_cases hpath : path = a.path
  · subst hpath
    rw [if_pos rfl] at hentry
    rw [stored_self hwritten, textAt_eq_some_iff, hentry]
  rw [if_neg (mt place_inj.1 hpath), ← place_temporary] at hentry
  by_cases hbeside : s.atomic = true ∧ path = a.path ++ temporarySuffix
  · obtain ⟨hatomic, rfl⟩ := hbeside
    rw [if_pos ⟨hatomic, rfl⟩] at hentry
    rw [hatomic, stored_beside hwritten, textAt_eq_none_iff, hentry]
    exact Or.inl rfl
  · rw [if_neg fun h => hbeside ⟨h.1, place_inj.1 h.2⟩] at hentry
    rw [stored_of_ne hpath fun hatomic h => hbeside ⟨hatomic, h⟩, ← ht path]
    unfold textAt
    rw [hentry]

/-- What a run leaves at the places of paths, if none of its artifacts has a directory at its. -/
lemma textAt_writeAll (hfiles : ∀ a ∈ files, t.entry? (s.place a.path) ≠ some .directory)
    (ht : ∀ path, textAt t (s.place path) = texts path)
    (h : s.writeAll t files = (t', .ok report)) (path : String) :
    textAt t' (s.place path) = files.foldl (stored s.atomic) texts path := by
  induction files generalizing t texts report with
  | nil =>
    cases h
    exact ht path
  | cons a files ih =>
    obtain ⟨ha, hrest⟩ := List.forall_mem_cons.1 hfiles
    have hpresent : t.present (s.place a.path) = true → texts a.path ≠ none := by
      intro hpresent
      rw [← ht, ne_eq, textAt_eq_none_iff, not_or]
      exact ⟨entry?_of_present hpresent, ha⟩
    rw [writeAll] at h
    dsimp only at h
    rw [List.foldl_cons]
    split at h
    · rename_i hkept
      obtain ⟨hscaffold, hkept⟩ := Bool.and_eq_true_iff.1 hkept
      rw [stored_of_kept ⟨hscaffold, hpresent hkept⟩]
      obtain ⟨rest, hwritten, -⟩ := map_eq_ok_iff.1 (congrArg Prod.snd h)
      exact ih hrest ht (Prod.ext (congrArg (fun outcome => outcome.1) h) hwritten)
    · rename_i hkept
      split at h
      · cases h
      · rename_i made hmade
        obtain ⟨rest, hwritten, -⟩ := map_eq_ok_iff.1 (congrArg Prod.snd h)
        refine ih (fun b hb => ?_) (textAt_writeFile ht ?_ hmade)
          (Prod.ext (congrArg (fun outcome => outcome.1) h) hwritten)
        · rw [entry?_writeFile hmade]
          split
          · simp
          · split
            · simp
            · exact hrest b hb
        · rintro ⟨hscaffold, htaken⟩
          rw [← ht, ne_eq, textAt_eq_none_iff, not_or] at htaken
          exact hkept (Bool.and_eq_true_iff.2
            ⟨hscaffold, present_of_writeFile (place_ne_nil _) hmade htaken.1⟩)

/-- A run into a root with nothing below it. -/
lemma textAt_accept (hvacant : ∀ names, names ≠ [] → t.entry? (s.root ++ names) = none)
    (hapart : ∀ a ∈ files, ∀ b ∈ files, ¬(a.path ++ "/").toList <+: b.path.toList)
    (h : s.accept t files = (t', .ok report)) (path : String) :
    textAt t' (s.place path) = files.foldl (stored s.atomic) (fun _ => none) path := by
  have hfree : ∀ path, t.entry? (s.place path) = none :=
    fun path => hvacant _ (splitString_ne_nil path)
  unfold accept at h
  split at h
  · cases h
  split at h
  · cases h
  rename_i made hmade
  have hmakes := makes_makeAll (s := s) (List.Subset.refl (s.directories files)) t
  rw [hmade] at hmakes
  refine textAt_writeAll (fun a ha hdirectory => ?_) (fun path => ?_) h path
  · rcases entry?_of_makes hmakes (s.place a.path) with hsame | ⟨-, dir, hdir, hleads⟩
    · rw [hsame, hfree] at hdirectory
      cases hdirectory
    · obtain ⟨b, hb, rfl⟩ := mem_directories hdir
      exact hapart a ha b hb (toList_leading_of_place hleads)
  · rcases entry?_of_makes hmakes (s.place path) with hsame | ⟨hdirectory, -⟩
    · exact textAt_eq_none_iff.2 (Or.inl (hsame.trans (hfree path)))
    · exact textAt_eq_none_iff.2 (Or.inr hdirectory)

/-- A store in memory keeps every text until another takes its place. -/
lemma foldl_stored_false (m : MemoryStore) (files : List Artifact) :
    files.foldl (stored false) m.get? = (m.accept files).1.get? := by
  induction files generalizing m with
  | nil => rfl
  | cons a files ih =>
    have hstep : stored false m.get? a = (m.acceptOne a).1.get? := by
      rcases acceptOne_cases m a with ⟨hscaffold, htaken, hstep⟩ | ⟨hfree, hstep⟩
      · rw [stored_of_kept ⟨hscaffold, htaken⟩, hstep]
      funext path
      rw [hstep, get?_insert]
      by_cases hpath : path = a.path
      · rw [hpath, stored_self fun h => h.2 (hfree h.1), if_pos rfl]
      · rw [stored_of_ne hpath fun h => (Bool.false_ne_true h).elim, if_neg hpath]
    rw [List.foldl_cons, hstep, ih, accept_cons]

lemma foldl_stored_of_not_mem (h : ∀ a ∈ files, a.path ≠ path) (hfree : texts path = none) :
    files.foldl (stored atomic) texts path = none := by
  induction files generalizing texts with
  | nil => exact hfree
  | cons a files ih =>
    obtain ⟨ha, hrest⟩ := List.forall_mem_cons.1 h
    exact ih hrest (stored_of_free ha.symm hfree)

end Runs

/-! ### Texts that are lost -/

/-- A path whose text another artifact takes away: its file was there when the other was written
beside its own place, and nothing but scaffolds comes after that. -/
def Lost (files : List Artifact) (path : String) : Prop :=
  ∃ before b after, files = before ++ b :: after ∧ path ∈ before.map (·.path) ∧
    path = b.path ++ temporarySuffix ∧ ∀ c ∈ after, c.path = path → c.isScaffold = true

section Losses

variable {files : List Artifact} {a : Artifact} {path : String}

lemma Lost.concat (h : Lost files path) (ha : a.path = path → a.isScaffold = true) :
    Lost (files ++ [a]) path := by
  obtain ⟨before, b, after, rfl, hbefore, hpath, hafter⟩ := h
  refine ⟨before, b, after ++ [a], by rw [List.append_assoc, List.cons_append], hbefore, hpath, ?_⟩
  exact List.forall_mem_append.2 ⟨hafter, List.forall_mem_singleton.2 ha⟩

/-- A path that is not lost has the same text with and without the files beside. -/
lemma stored_eq_of_not_lost (h : ¬Lost files path) :
    files.foldl (stored true) (fun _ => none) path =
      files.foldl (stored false) (fun _ => none) path := by
  induction files using List.reverseRecOn with
  | nil => rfl
  | append_singleton files a ih =>
    rw [List.foldl_concat, List.foldl_concat]
    by_cases hpath : path = a.path
    · subst hpath
      by_cases hscaffold : a.isScaffold = true
      · have hsame := ih fun hlost => h (hlost.concat fun _ => hscaffold)
        by_cases hkept : files.foldl (stored false) (fun _ => none) a.path ≠ none
        · rw [stored_of_kept ⟨hscaffold, hsame ▸ hkept⟩, stored_of_kept ⟨hscaffold, hkept⟩, hsame]
        · rw [stored_self fun h => hkept (hsame ▸ h.2), stored_self fun h => hkept h.2]
      · rw [stored_self fun hkept => hscaffold hkept.1, stored_self fun hkept => hscaffold hkept.1]
    by_cases hbeside : path = a.path ++ temporarySuffix
    · have hfree : ∀ b ∈ files, b.path ≠ path := fun b hb heq =>
        h ⟨files, a, [], rfl, List.mem_map.2 ⟨b, hb, heq⟩, hbeside, fun c hc => nomatch hc⟩
      rw [stored_of_free hpath (foldl_stored_of_not_mem hfree rfl),
        stored_of_free hpath (foldl_stored_of_not_mem hfree rfl)]
    · rw [stored_of_ne hpath fun _ => hbeside, stored_of_ne hpath fun _ => hbeside]
      exact ih fun hlost => h (hlost.concat fun heq => absurd heq.symm hpath)

/-- Where no path comes twice, a path that is lost has no text. -/
lemma stored_of_lost (hnodup : (files.map (·.path)).Nodup) (h : Lost files path) :
    files.foldl (stored true) (fun _ => none) path = none := by
  obtain ⟨before, b, after, rfl, hbefore, rfl, -⟩ := h
  rw [List.map_append, List.map_cons, List.nodup_append] at hnodup
  obtain ⟨-, -, hdisjoint⟩ := hnodup
  have hfree : before.foldl (stored true) (fun _ => none) b.path = none :=
    foldl_stored_of_not_mem (fun a ha heq => hdisjoint _ (List.mem_map.2 ⟨a, ha, heq⟩) _
      List.mem_cons_self rfl) rfl
  rw [List.foldl_append, List.foldl_cons]
  refine foldl_stored_of_not_mem (fun c hc heq => ?_) (stored_beside fun h => h.2 hfree)
  exact hdisjoint _ hbefore _ (List.mem_cons_of_mem _ (List.mem_map.2 ⟨c, hc, rfl⟩)) heq.symm

end Losses

/-! ### A directory and a store -/

/-- The files below the root are those of the store, with the same texts. -/
def SameFiles (s : DirectorySink) (t : FileTree) (m : MemoryStore) : Prop :=
  ∀ names content, names ≠ [] → (t.entry? (s.root ++ names) = some (.file content) ↔
    ∃ path, s.place path = s.root ++ names ∧ m.get? path = some content)

section Accepts

variable {s : DirectorySink} {t t' : FileTree} {files : List Artifact} {report : SinkReport}

/-- A new file lies at the place of a path. -/
lemma exists_place_of_accept (hvacant : ∀ names, names ≠ [] → t.entry? (s.root ++ names) = none)
    (h : s.accept t files = (t', .ok report)) {names : List String} {content : String}
    (hne : names ≠ []) (hfile : t'.entry? (s.root ++ names) = some (.file content)) :
    ∃ path, s.place path = s.root ++ names := by
  have haccepted : ∀ a ∈ files, ¬Refused a.path := by
    intro a ha
    unfold accept at h
    split at h
    · cases h
    · rename_i hchecked
      exact checkPath_eq_ok_iff.1 (forM_eq_ok_iff.1 hchecked a ha)
  have hchanges := changes_accept (s := s) (t := t) haccepted
  rw [h] at hchanges
  have hkept := keptOutside_of_changes hchanges (s.root ++ names)
  rcases hkept with hsame | ⟨others, hothers, hne', hnames⟩ | ⟨-, -, hdirectory⟩
  · rw [hsame, hvacant names hne] at hfile
    cases hfile
  · exact ⟨_, hothers ▸ place_intercalate hnames hne'⟩
  · rw [hdirectory] at hfile
    cases hfile

end Accepts

/-- A run into a root with nothing below it leaves there the files that a store in memory holds
after the same artifacts, unless files are first written beside their places and a path is lost.
Even then every path that is not lost has its text, and every file has a path of the store; where no
path comes twice, a lost path is one that the store holds and the directory does not. -/
theorem accept_sameFiles {s : DirectorySink} {t t' : FileTree} {files : List Artifact}
    {report : SinkReport} (hvacant : ∀ names, names ≠ [] → t.entry? (s.root ++ names) = none)
    (hapart : ∀ a ∈ files, ∀ b ∈ files, ¬(a.path ++ "/").toList <+: b.path.toList)
    (h : s.accept t files = (t', .ok report)) :
    ((s.atomic = false ∨ ∀ path, ¬Lost files path) →
      SameFiles s t' (MemoryStore.empty.accept files).1) ∧
    (∀ path, ¬Lost files path →
      textAt t' (s.place path) = (MemoryStore.empty.accept files).1.get? path) ∧
    (∀ names content, names ≠ [] → t'.entry? (s.root ++ names) = some (.file content) →
      ∃ path, s.place path = s.root ++ names ∧
        (MemoryStore.empty.accept files).1.get? path ≠ none) ∧
    (s.atomic = true → (files.map (·.path)).Nodup → ∀ path, Lost files path →
      textAt t' (s.place path) = none ∧ (MemoryStore.empty.accept files).1.get? path ≠ none) := by
  have htexts := textAt_accept hvacant hapart h
  have hstore : files.foldl (stored false) (fun _ => none) =
      (MemoryStore.empty.accept files).1.get? := foldl_stored_false MemoryStore.empty files
  have hkept : ∀ path, s.atomic = false ∨ ¬Lost files path →
      textAt t' (s.place path) = (MemoryStore.empty.accept files).1.get? path := by
    intro path hpath
    rw [htexts, ← hstore]
    cases hatomic : s.atomic with
    | false => rfl
    | true => exact stored_eq_of_not_lost (hpath.resolve_left (by rw [hatomic]; decide))
  refine ⟨fun hall names content hne => ⟨fun hfile => ?_, ?_⟩,
    fun path hpath => hkept path (Or.inr hpath),
    fun names content hne hfile => ?_, fun hatomic hnodup path hlost => ⟨?_, ?_⟩⟩
  · obtain ⟨path, hpath⟩ := exists_place_of_accept hvacant h hne hfile
    refine ⟨path, hpath, ?_⟩
    rw [← hkept path (hall.imp_right fun hnone => hnone path), hpath]
    exact textAt_eq_some_iff.2 hfile
  · rintro ⟨path, hpath, htext⟩
    rw [← hkept path (hall.imp_right fun hnone => hnone path), hpath] at htext
    exact textAt_eq_some_iff.1 htext
  · obtain ⟨path, hpath⟩ := exists_place_of_accept hvacant h hne hfile
    refine ⟨path, hpath, fun hfree => ?_⟩
    have hnone : files.foldl (stored s.atomic) (fun _ => none) path = none :=
      foldl_stored_of_not_mem (fun a ha heq => get?_accept_of_mem ha (heq ▸ hfree)) rfl
    rw [← htexts, hpath, textAt_eq_none_iff, hfile] at hnone
    simp at hnone
  · rw [htexts, hatomic]
    exact stored_of_lost hnodup hlost
  · obtain ⟨before, b, after, rfl, hbefore, -⟩ := hlost
    obtain ⟨a, ha, rfl⟩ := List.mem_map.1 hbefore
    exact get?_accept_of_mem (List.mem_append_left _ ha)

/-- A run into a root that is still missing, with a scaffold that comes twice. -/
theorem accept_sameFiles_modules :
    let s : DirectorySink := ⟨"root", ["out"], true⟩
    let t := FileTree.empty 15
    let files : List Artifact := [⟨"api/mod.rs", "1", .scaffolded⟩, ⟨"api/a.rs", "2", .generated⟩,
      ⟨"api/mod.rs", "3", .scaffolded⟩]
    (s.accept t files).2 = .ok ⟨["api/mod.rs", "api/a.rs"], ["api/mod.rs"]⟩ ∧
      SameFiles s (s.accept t files).1 (MemoryStore.empty.accept files).1 ∧
      (MemoryStore.empty.accept files).1 = ⟨[("api/a.rs", "2"), ("api/mod.rs", "1")]⟩ := by
  intro s t files
  have hreport :
      (s.accept t files).2 = .ok ⟨["api/mod.rs", "api/a.rs"], ["api/mod.rs"]⟩ := by decide
  have hvacant : ∀ names, names ≠ [] → t.entry? (s.root ++ names) = none := fun _ _ => rfl
  have hapart : ∀ a ∈ files, ∀ b ∈ files, ¬(a.path ++ "/").toList <+: b.path.toList := by decide
  have hkept : ∀ path, ¬Lost files path := by
    have hno : ∀ a ∈ files, ∀ b ∈ files, a.path ≠ b.path ++ temporarySuffix := by decide
    rintro path ⟨before, b, after, hfiles, hbefore, rfl, -⟩
    obtain ⟨a, ha, heq⟩ := List.mem_map.1 hbefore
    refine hno a ?_ b ?_ heq
    · rw [hfiles]
      exact List.mem_append_left _ ha
    · rw [hfiles]
      exact List.mem_append_right _ List.mem_cons_self
  exact ⟨hreport, (accept_sameFiles hvacant hapart (Prod.ext rfl hreport)).1 (Or.inr hkept),
    by decide⟩

/-- A file that is called like the one beside another is reported as written, and gone. -/
theorem file_lost_beside_another :
    let s : DirectorySink := ⟨"root", ["out"], true⟩
    let t := FileTree.empty 15
    let files : List Artifact := [⟨"a.rs.tmp", "1", .generated⟩, ⟨"a.rs", "2", .generated⟩]
    (∀ a ∈ files, checkPath a.path = .ok ()) ∧
      (∀ names, names ≠ [] → t.entry? (s.root ++ names) = none) ∧
      (∀ a ∈ files, ∀ b ∈ files, ¬(a.path ++ "/").toList <+: b.path.toList) ∧
      (s.accept t files).2 = .ok ⟨["a.rs.tmp", "a.rs"], []⟩ ∧
      FileTree.entry? (s.accept t files).1 (s.place "a.rs.tmp") = none ∧
      (MemoryStore.empty.accept files).1.get? "a.rs.tmp" = some "1" ∧
      ¬SameFiles s (s.accept t files).1 (MemoryStore.empty.accept files).1 := by
  intro s t files
  have hgone : FileTree.entry? (s.accept t files).1 (s.place "a.rs.tmp") = none := by decide
  have hstored : (MemoryStore.empty.accept files).1.get? "a.rs.tmp" = some "1" := by decide
  refine ⟨by decide, fun _ _ => rfl, by decide, by decide, hgone, hstored, fun hsame => ?_⟩
  have hplace : s.place "a.rs.tmp" = s.root ++ ["a.rs.tmp"] := by decide
  have hfile := (hsame ["a.rs.tmp"] "1" (by decide)).2 ⟨"a.rs.tmp", hplace, hstored⟩
  rw [← hplace, hgone] at hfile
  cases hfile

end ApiCodegen.Proofs
