import ApiCodegen.Proofs.Comments
import ApiCodegen.Proofs.Emission
import ApiCodegen.Proofs.FileTexts
import ApiCodegen.Proofs.ModuleTree
import ApiCodegen.Proofs.Remarks

/-!
# Copied text in comments

The names of APIs and operations and the URLs of requests are copied into comments as they are, and
the writer puts a line into the text as it is too. Such a comment is one line of the output exactly
if the text that it copies is one line; what follows a line break is code.
-/

namespace ApiCodegen.Proofs

/-! ### Lines of code in a text -/

/-- A line starts at the margin of a line of the text, and nothing follows it on that line, unless
it opens a block. -/
def StandsIn (line text : String) : Prop :=
  ∃ before level brace after, (before = "" ∨ ∃ start, before = start ++ "\n") ∧
    (brace = "" ∨ brace = " \x7b") ∧
    text = before ++ Writer.margin level ++ line ++ brace ++ "\n" ++ after

/-- A line is one line of the text, after its margin. -/
def IsOutputLine (line text : String) : Prop :=
  ∃ level brace, (brace = "" ∨ brace = " \x7b") ∧
    (Writer.margin level ++ line ++ brace).toList ∈ outputLines text

/-- The writer has ended the line that it was on. -/
def AtLineStart (w : Writer) : Prop := w.text = "" ∨ ∃ start, w.text = start ++ "\n"

section Texts

variable {w : Writer} {s : Step} {t text : String} {c : Code} {l : Line}

lemma StandsIn.append (h : StandsIn t text) (rest : String) : StandsIn t (text ++ rest) := by
  obtain ⟨before, level, brace, after, hbefore, hbrace, rfl⟩ := h
  exact ⟨before, level, brace, after ++ rest, hbefore, hbrace, String.append_assoc⟩

/-- Of the lines that stand in a text, those without a break are lines of it. -/
lemma StandsIn.isOutputLine_iff (h : StandsIn t text) : IsOutputLine t text ↔ Unbroken t := by
  constructor
  · rintro ⟨level, brace, -, hmem⟩
    exact (unbroken_append.1 (unbroken_append.1 (unbroken_of_mem_outputLines hmem)).1).2
  · intro ht
    obtain ⟨before, level, brace, after, hbefore, hbrace, rfl⟩ := h
    refine ⟨level, brace, hbrace, ?_⟩
    have hline : Unbroken (Writer.margin level ++ t ++ brace) := by
      refine unbroken_append.2 ⟨unbroken_append.2 ⟨unbroken_margin level, ht⟩, ?_⟩
      rcases hbrace with rfl | rfl
      · decide
      · decide
    have hmem := mem_outputLines hline hbefore after
    simpa only [String.append_assoc] using hmem

/-- What lies between two breaks is a line of its own. -/
lemma StandsIn.mem_of_broken (h : StandsIn t text) {first second third : String}
    (ht : t = first ++ "\n" ++ second ++ "\n" ++ third) (hsecond : Unbroken second) :
    second.toList ∈ outputLines text := by
  obtain ⟨before, level, brace, after, -, -, rfl⟩ := h
  have hmem := mem_outputLines hsecond
    (Or.inr ⟨before ++ Writer.margin level ++ first, rfl⟩) (third ++ brace ++ "\n" ++ after)
  rw [ht]
  simpa only [String.append_assoc] using hmem

lemma atLineStart_line (w : Writer) (t : String) : AtLineStart (w.line t) := by
  unfold Writer.line
  split
  · exact Or.inr ⟨_, rfl⟩
  · exact Or.inr ⟨_, rfl⟩

lemma AtLineStart.step (h : AtLineStart w) (s : Step) : AtLineStart (w.step s) := by
  have hlines : ∀ (lines : List String) {w : Writer}, AtLineStart w →
      AtLineStart (lines.foldl Writer.line w) := by
    intro lines
    induction lines with
    | nil => exact fun h => h
    | cons line lines ih => exact fun _ => ih (atLineStart_line _ line)
  cases s with
  | line text => exact atLineStart_line w text
  | blank => exact atLineStart_line w ""
  | opening text => exact atLineStart_line w _
  | closing text => exact atLineStart_line w.dedent text
  | indent => exact h
  | dedent => exact h
  | doc text =>
    cases text with
    | none => exact h
    | some text => exact hlines (docLines text) h

lemma AtLineStart.run (h : AtLineStart w) (steps : List Step) : AtLineStart (w.run steps) := by
  induction steps generalizing w with
  | nil => exact h
  | cons s steps ih => exact ih (h.step s)

/-- The steps that write a line of code. -/
def WritesLine (s : Step) (t : String) : Prop :=
  s = .line t ∨ s = .opening t ∨ s = .closing t

lemma standsIn_step (h : AtLineStart w) (hs : WritesLine s t) (hne : t ≠ "") :
    StandsIn t (w.step s).text := by
  have hwritten : ∀ (w : Writer) brace, AtLineStart w → (brace = "" ∨ brace = " \x7b") →
      StandsIn t (w.line (t ++ brace)).text := by
    intro w brace h hbrace
    have hempty : ¬(t ++ brace).isEmpty = true := by
      rw [String.isEmpty_iff, String.append_eq_empty_iff]
      exact fun hempty => hne hempty.1
    refine ⟨w.text, w.level, brace, "", h, hbrace, ?_⟩
    unfold Writer.line
    rw [if_neg hempty, String.append_empty]
    simp only [String.append_assoc]
  have hplain : ∀ w, AtLineStart w → StandsIn t (w.line t).text := by
    intro w h
    have hline := hwritten w "" h (Or.inl rfl)
    rwa [String.append_empty] at hline
  rcases hs with rfl | rfl | rfl
  · exact hplain w h
  · exact hwritten w " \x7b" h (Or.inr rfl)
  · exact hplain w.dedent h

lemma exists_step (h : l ∈ c.lines) : ∃ s ∈ c.steps, WritesLine s l.render := by
  induction c with
  | nothing => cases h
  | blank => cases h
  | doc text => cases h
  | line k =>
    obtain rfl := List.mem_singleton.1 h
    exact ⟨_, List.mem_singleton_self _, Or.inl rfl⟩
  | arm k =>
    obtain rfl := List.mem_singleton.1 h
    exact ⟨_, List.mem_singleton_self _, Or.inl rfl⟩
  | block binding head body close ih =>
    rcases List.mem_cons.1 h with rfl | h
    · exact ⟨_, List.mem_cons_self, Or.inr (Or.inl rfl)⟩
    · rcases List.mem_append.1 h with h | h
      · obtain ⟨s, hs, hwrites⟩ := ih h
        exact ⟨s, List.mem_cons_of_mem _ (List.mem_append_left _ hs), hwrites⟩
      · obtain rfl := List.mem_singleton.1 h
        refine ⟨_, List.mem_cons_of_mem _ (List.mem_append_right _ ?_), Or.inr (Or.inr rfl)⟩
        exact List.mem_singleton_self _
  | hanging head body close ih =>
    rcases List.mem_cons.1 h with rfl | h
    · exact ⟨_, List.mem_cons_self, Or.inl rfl⟩
    · rcases List.mem_append.1 h with h | h
      · obtain ⟨s, hs, hwrites⟩ := ih h
        refine ⟨s, ?_, hwrites⟩
        exact List.mem_cons_of_mem _ (List.mem_cons_of_mem _ (List.mem_append_left _ hs))
      · obtain rfl := Option.mem_toList.1 h
        refine ⟨.line l.render, ?_, Or.inl rfl⟩
        refine List.mem_cons_of_mem _ (List.mem_cons_of_mem _ (List.mem_append_right _ ?_))
        exact List.mem_cons_of_mem _ (List.mem_singleton_self _)
  | stray k =>
    cases k with
    | opening k =>
      obtain rfl := List.mem_singleton.1 h
      exact ⟨_, List.mem_singleton_self _, Or.inr (Or.inl rfl)⟩
    | closing k =>
      obtain rfl := List.mem_singleton.1 h
      exact ⟨_, List.mem_singleton_self _, Or.inr (Or.inr rfl)⟩
    | indent => cases h
    | dedent => cases h
  | seq first second ihfirst ihsecond =>
    rcases List.mem_append.1 h with h | h
    · obtain ⟨s, hs, hwrites⟩ := ihfirst h
      exact ⟨s, List.mem_append_left _ hs, hwrites⟩
    · obtain ⟨s, hs, hwrites⟩ := ihsecond h
      exact ⟨s, List.mem_append_right _ hs, hwrites⟩

/-- A line of code that is not empty stands in the text of the code. -/
theorem standsIn_render (h : l ∈ c.lines) (hne : l.render ≠ "") : StandsIn l.render c.render := by
  obtain ⟨s, hs, hwrites⟩ := exists_step h
  obtain ⟨before, after, hsteps⟩ := List.append_of_mem hs
  have hstart : AtLineStart (Writer.empty.run before) := AtLineStart.run (Or.inl rfl) before
  obtain ⟨rest, hrest⟩ := run_text ((Writer.empty.run before).step s) after
  have htext : c.render = ((Writer.empty.run before).step s).text ++ rest := by
    rw [Code.render, hsteps, run_append, ← hrest]
    rfl
  rw [htext]
  exact (standsIn_step hstart hwrites hne).append rest

end Texts

/-! ### Comments that copy -/

/-- A comment up to the text that it copies, and behind it. -/
structure IsRemark (l : Line) (before copied after : String) : Prop where
  eq : l = remark before copied after
  comment : ['/', '/', '/'] <+: before.toList ∨ ['/', '/', '!'] <+: before.toList
  before : Unbroken before
  after : Unbroken after

/-- An operation whose types are declared: it has a form, or not one response. -/
def DeclaresTypes (o : Operation) : Prop :=
  (∃ params, o.body = .formData params ∨ o.body = .formUrlEncoded params) ∨
    o.responses.length ≠ 1

section Comments

variable {run : RunKind} {v : Version} {a : Api} {o : Operation} {l : Line}
  {before copied after : String}

lemma render_remark (before copied after : String) :
    (remark before copied after).render = before ++ copied ++ after := by
  simp [remark, Line.render, Piece.render, String.append_assoc]

/-- Only the copied text can break a comment. -/
lemma IsRemark.unbroken_iff (h : IsRemark l before copied after) :
    Unbroken l.render ↔ Unbroken copied := by
  rw [h.eq, render_remark, unbroken_append, unbroken_append]
  exact ⟨fun hall => hall.1.2, fun hcopied => ⟨⟨h.before, hcopied⟩, h.after⟩⟩

lemma IsRemark.render_ne_empty (h : IsRemark l before copied after) : l.render ≠ "" := by
  intro hempty
  rw [h.eq, render_remark, String.append_eq_empty_iff, String.append_eq_empty_iff] at hempty
  have hcomment := h.comment
  rw [hempty.1.1] at hcomment
  exact absurd hcomment (by decide)

lemma isRemark_sendsRemark (v : Version) (o : Operation) :
    ∃ before, IsRemark (sendsRemark v o) before (v.urlPrefix ++ o.endpoint.url) "`." := by
  refine ⟨_, rfl, Or.inl ?_, ?_, by decide⟩
  · cases o.endpoint.method <;> decide
  · cases o.endpoint.method <;> decide

lemma mem_typeRemarks_iff : l ∈ typeRemarks o ↔
    ((∃ params, o.body = .formData params ∨ o.body = .formUrlEncoded params) ∧
      l = remark "/// Form fields of `" o.name "`.") ∨
    (o.responses.length ≠ 1 ∧ l = remark "/// Responses of `" o.name "`.") := by
  unfold typeRemarks
  rw [List.mem_append]
  refine or_congr ?_ ?_
  · cases o.body <;> simp
  · by_cases hlength : o.responses.length = 1 <;> simp [hlength]

lemma isRemark_of_mem_typeRemarks (h : l ∈ typeRemarks o) :
    DeclaresTypes o ∧ ∃ before, IsRemark l before o.name "`." := by
  rcases mem_typeRemarks_iff.1 h with ⟨hform, rfl⟩ | ⟨hresponses, rfl⟩
  · exact ⟨Or.inl hform, _, rfl, Or.inl (by decide), by decide, by decide⟩
  · exact ⟨Or.inr hresponses, _, rfl, Or.inl (by decide), by decide, by decide⟩

lemma exists_mem_typeRemarks (h : DeclaresTypes o) : ∃ l, l ∈ typeRemarks o := by
  rcases h with hform | hresponses
  · exact ⟨_, mem_typeRemarks_iff.2 (Or.inl ⟨hform, rfl⟩)⟩
  · exact ⟨_, mem_typeRemarks_iff.2 (Or.inr ⟨hresponses, rfl⟩)⟩

/-- The texts that the comments on an API copy. -/
inductive Copies (run : RunKind) (v : Version) (a : Api) : String → Prop
  | name (hrun : run ≠ .models) : Copies run v a a.name
  | types {o : Operation} (hrun : run ≠ .models) (ho : o ∈ a.operations)
    (htypes : DeclaresTypes o) : Copies run v a o.name
  | url {o : Operation} (hrun : run = .client) (ho : o ∈ a.operations) :
    Copies run v a (v.urlPrefix ++ o.endpoint.url)

/-- The comments that copy the name of an API. -/
def nameRemarks (run : RunKind) (a : Api) : List Line :=
  match run with
  | .models => []
  | .client => [remark "/// Client of the `" a.name "` API."]
  | .service => [remark "/// Operations of the `" a.name "` API.",
      remark "/// Router of the `" a.name "` API.",
      remark "//! Implementation of the `" a.name "` API."]

lemma mem_apiRemarks_iff : l ∈ apiRemarks run v a ↔
    (run ≠ .models ∧ ∃ o ∈ a.operations, l ∈ typeRemarks o) ∨ l ∈ nameRemarks run a ∨
      (run = .client ∧ ∃ o ∈ a.operations, l = sendsRemark v o) := by
  cases run with
  | models => simp [apiRemarks, nameRemarks]
  | client => simp [apiRemarks, nameRemarks, eq_comm]
  | service => simp [apiRemarks, nameRemarks]

lemma isRemark_of_mem_nameRemarks (h : l ∈ nameRemarks run a) :
    run ≠ .models ∧ ∃ before, IsRemark l before a.name "` API." := by
  cases run with
  | models => cases h
  | client =>
    obtain rfl := List.mem_singleton.1 h
    exact ⟨by decide, _, rfl, Or.inl (by decide), by decide, by decide⟩
  | service =>
    refine ⟨by decide, ?_⟩
    rcases List.mem_cons.1 h with rfl | h
    · exact ⟨_, rfl, Or.inl (by decide), by decide, by decide⟩
    · rcases List.mem_cons.1 h with rfl | h
      · exact ⟨_, rfl, Or.inl (by decide), by decide, by decide⟩
      · obtain rfl := List.mem_singleton.1 h
        exact ⟨_, rfl, Or.inr (by decide), by decide, by decide⟩

lemma exists_mem_nameRemarks (h : run ≠ .models) : ∃ l, l ∈ nameRemarks run a := by
  cases run with
  | models => exact absurd rfl h
  | client => exact ⟨_, List.mem_cons_self⟩
  | service => exact ⟨_, List.mem_cons_self⟩

lemma isRemark_of_mem_apiRemarks (h : l ∈ apiRemarks run v a) :
    ∃ before copied after, IsRemark l before copied after ∧ Copies run v a copied := by
  rcases mem_apiRemarks_iff.1 h with ⟨hrun, o, ho, hl⟩ | hl | ⟨hrun, o, ho, rfl⟩
  · obtain ⟨hdeclares, before, hremark⟩ := isRemark_of_mem_typeRemarks hl
    exact ⟨before, _, _, hremark, .types hrun ho hdeclares⟩
  · obtain ⟨hrun, before, hremark⟩ := isRemark_of_mem_nameRemarks hl
    exact ⟨before, _, _, hremark, .name hrun⟩
  · obtain ⟨before, hremark⟩ := isRemark_sendsRemark v o
    exact ⟨before, _, _, hremark, .url hrun ho⟩

lemma exists_mem_apiRemarks (h : Copies run v a copied) :
    ∃ l ∈ apiRemarks run v a, ∃ before after, IsRemark l before copied after := by
  cases h with
  | name hrun =>
    obtain ⟨l, hl⟩ := exists_mem_nameRemarks hrun
    obtain ⟨-, before, hremark⟩ := isRemark_of_mem_nameRemarks hl
    exact ⟨l, mem_apiRemarks_iff.2 (Or.inr (Or.inl hl)), before, _, hremark⟩
  | @types o hrun ho htypes =>
    obtain ⟨l, hl⟩ := exists_mem_typeRemarks htypes
    obtain ⟨-, before, hremark⟩ := isRemark_of_mem_typeRemarks hl
    exact ⟨l, mem_apiRemarks_iff.2 (Or.inl ⟨hrun, o, ho, hl⟩), before, _, hremark⟩
  | @url o hrun ho =>
    obtain ⟨before, hremark⟩ := isRemark_sendsRemark v o
    exact ⟨_, mem_apiRemarks_iff.2 (Or.inr (Or.inr ⟨hrun, o, ho, rfl⟩)), before, _, hremark⟩

end Comments

/-! ### All runs -/

section Runs

variable {e : Emission} {f : TreeFile} {files : List TreeFile} {artifact : Artifact}
  {root : String} {l : Line}

/-- The comments of a run are those on its APIs. -/
lemma mem_remarks_iff (h : SpecRules e.spec e.naming) (hfiles : e.files = .ok files)
    (root : String) (l : Line) : (∃ f ∈ files, l ∈ remarksOf root f) ↔
      ∃ v ∈ e.spec.versions, ∃ a ∈ v.apis, l ∈ apiRemarks e.run v a := by
  simp only [mem_files_iff hfiles]
  constructor
  · rintro ⟨f, hf, hl⟩
    cases hf with
    | rootIndex | support _ | versionIndex _ | skeletonIndex _ | versionSkeletonIndex _ _ =>
      cases hl
    | errors hf =>
      rw [remarks_errorFile hf] at hl
      cases hl
    | router _ =>
      rw [remarks_rootRouterFile] at hl
      cases hl
    | models _ hfiles hf =>
      rw [remarks_modelFiles hfiles hf] at hl
      cases hl
    | @client v a _ hrun hv ha hf =>
      rw [remarks_clientFile hf] at hl
      exact ⟨v, List.mem_of_mem_filter hv, a, ha, hrun ▸ hl⟩
    | @service v a _ _ hrun hv ha hfiles hf =>
      have hmem := (mem_remarks_serviceFiles hfiles).1 ⟨f, hf, hl⟩
      refine ⟨v, List.mem_of_mem_filter hv, a, ha, ?_⟩
      rw [hrun]
      rcases List.mem_append.1 hmem with hmem | hmem
      · exact List.mem_append_left _ hmem
      · exact List.mem_append_right _ (List.mem_append_left [_] hmem)
    | @skeleton v a _ hrun hv ha hf =>
      rw [remarks_skeletonFile hf] at hl
      refine ⟨v, hv, a, ha, ?_⟩
      rw [hrun]
      exact List.mem_append_right _ (List.mem_append_right [_, _] hl)
  · rintro ⟨v, hv, a, ha, hl⟩
    cases hrun : e.run with
    | models =>
      rw [hrun] at hl
      cases hl
    | client =>
      obtain ⟨f, hf⟩ := succeeds_clientFile h hv ha
      have hversion : v ∈ e.versions :=
        mem_versions_iff.2 ⟨hv, emitted_of_run (by rw [hrun]; decide)⟩
      refine ⟨f, .client hrun hversion ha hf, ?_⟩
      rw [remarks_clientFile hf]
      rwa [hrun] at hl
    | service =>
      obtain ⟨group, hgroup⟩ := succeeds_serviceFiles h hv ha
      obtain ⟨skeleton, hskeleton⟩ := succeeds_skeletonFile h hv ha
      have hversion : v ∈ e.versions := mem_versions_iff.2 ⟨hv, emitted_of_service hrun⟩
      rw [hrun] at hl
      have hsplit : l ∈ (a.operations.flatMap typeRemarks ++
          [remark "/// Operations of the `" a.name "` API.",
            remark "/// Router of the `" a.name "` API."]) ++
          [remark "//! Implementation of the `" a.name "` API."] := by
        rw [List.append_assoc]
        exact hl
      rcases List.mem_append.1 hsplit with hmem | hmem
      · obtain ⟨f, hf, hl⟩ := (mem_remarks_serviceFiles hgroup).2 hmem
        exact ⟨f, .service hrun hversion ha hgroup hf, hl⟩
      · refine ⟨skeleton, .skeleton hrun hv ha hskeleton, ?_⟩
        rwa [remarks_skeletonFile hskeleton]

/-- A skeleton starts with the comment that names its API. -/
lemma skeleton_text {s : Skeleton} {text : String}
    (h : (Template.renderNamed Template.serviceName (s.toJson root)).mapError .template =
      (.ok text : Except Fault String)) :
    ∃ rest, text = "//! Implementation of the `" ++ s.api ++ "` API." ++ "\n" ++ rest := by
  obtain ⟨more, hservice⟩ : ∃ more, Template.service =
      .seq (.text "//! Implementation of the `") (.seq (.field "api")
        (.seq (.text "` API.\n\n") more)) := ⟨_, rfl⟩
  have hrender : Template.service.render (s.toJson root) false = .ok text := by
    change (Template.service.render (s.toJson root) false).mapError Fault.template = .ok text at h
    cases hresult : Template.service.render (s.toJson root) false with
    | ok result =>
      rw [hresult] at h
      exact congrArg Except.ok (Except.ok.inj h)
    | error _ =>
      rw [hresult] at h
      cases h
  rw [hservice] at hrender
  obtain ⟨_, hstart, hrender⟩ := bind_eq_ok_iff.1 hrender
  obtain ⟨_, hafter, hrender⟩ := bind_eq_ok_iff.1 hrender
  obtain ⟨api, hname, hafter⟩ := bind_eq_ok_iff.1 hafter
  obtain ⟨_, hend, hafter⟩ := bind_eq_ok_iff.1 hafter
  obtain ⟨_, hclose, hend⟩ := bind_eq_ok_iff.1 hend
  obtain ⟨rest, -, hend⟩ := bind_eq_ok_iff.1 hend
  cases hstart
  cases hname
  cases hclose
  cases hend
  cases hafter
  cases hrender
  refine ⟨"\n" ++ rest, ?_⟩
  have hclosing : "` API.\n\n" = "` API." ++ "\n" ++ "\n" := by decide
  rw [hclosing]
  simp only [String.append_assoc]
  rfl

/-- What a file copies stands in its text. -/
lemma standsIn_artifact (h : e.artifact f = .ok artifact)
    (hl : l ∈ remarksOf e.config.modulePath f) (hne : l.render ≠ "") :
    StandsIn l.render artifact.content := by
  obtain ⟨text, htext, rfl⟩ := map_eq_ok_iff.1 h
  obtain ⟨path, content⟩ := f
  cases content with
  | support lines => cases hl
  | index i => cases hl
  | source s =>
    cases htext
    have hline : l ∈ (s.code e.config.modulePath).lines := (List.mem_filter.1 hl).1
    exact standsIn_render hline hne
  | skeleton s =>
    obtain rfl := List.mem_singleton.1 hl
    obtain ⟨rest, rfl⟩ := skeleton_text htext
    refine ⟨"", 0, "", rest, Or.inl rfl, Or.inl rfl, ?_⟩
    have hmargin : Writer.margin 0 = "" := rfl
    rw [render_remark, hmargin, String.empty_append, String.empty_append, String.append_empty]

/-- A copied text is copied by a comment on an API. -/
lemma mem_copies_iff (h : SpecRules e.spec e.naming) (hfiles : e.files = .ok files)
    (text : String) : (∃ f ∈ files, ∃ l ∈ remarksOf root f, text ∈ copies l) ↔
      ∃ v ∈ e.spec.versions, ∃ a ∈ v.apis, Copies e.run v a text := by
  constructor
  · rintro ⟨f, hf, l, hl, htext⟩
    obtain ⟨v, hv, a, ha, hl⟩ := (mem_remarks_iff h hfiles _ l).1 ⟨f, hf, hl⟩
    obtain ⟨before, copied, after, hremark, hcopies⟩ := isRemark_of_mem_apiRemarks hl
    rw [hremark.eq, copies_remark, List.mem_singleton] at htext
    exact ⟨v, hv, a, ha, htext ▸ hcopies⟩
  · rintro ⟨v, hv, a, ha, hcopies⟩
    obtain ⟨l, hl, before, after, hremark⟩ := exists_mem_apiRemarks hcopies
    obtain ⟨f, hf, hl⟩ := (mem_remarks_iff h hfiles root l).2 ⟨v, hv, a, ha, hl⟩
    refine ⟨f, hf, l, hl, ?_⟩
    rw [hremark.eq]
    exact List.mem_singleton_self text

lemma isRemark_of_mem_remarks (h : SpecRules e.spec e.naming) (hfiles : e.files = .ok files)
    (hf : f ∈ files) (hl : l ∈ remarksOf root f) :
    ∃ before text after, IsRemark l before text after := by
  obtain ⟨v, -, a, -, hl⟩ := (mem_remarks_iff h hfiles root l).1 ⟨f, hf, hl⟩
  obtain ⟨before, text, after, hremark, -⟩ := isRemark_of_mem_apiRemarks hl
  exact ⟨before, text, after, hremark⟩

/-- Every comment that copies is one line of the text of its file. -/
def CommentsStay (root : String) (files : List TreeFile) (artifacts : List Artifact) : Prop :=
  List.Forall₂ (fun f a => ∀ l ∈ remarksOf root f, IsOutputLine l.render a.content) files artifacts

/-- The comments of a run that copy text. -/
structure CopiedComments (e : Emission) (files : List TreeFile) (artifacts : List Artifact) :
    Prop where
  /-- They copy the names of APIs, those of operations with types, and the URLs of requests. -/
  copied : ∀ text, (∃ f ∈ files, ∃ l ∈ remarksOf e.config.modulePath f, text ∈ copies l) ↔
    ∃ v ∈ e.spec.versions, ∃ a ∈ v.apis, Copies e.run v a text
  /-- Each of them is written as it is, and is one line exactly if what it copies is. -/
  written : List.Forall₂ (fun f a => ∀ l ∈ remarksOf e.config.modulePath f,
    ∃ before text after, IsRemark l before text after ∧ StandsIn l.render a.content ∧
      (IsOutputLine l.render a.content ↔ Unbroken text)) files artifacts
  /-- What a copied text has between two breaks is a line of the file. -/
  continued : List.Forall₂ (fun f a => ∀ l ∈ remarksOf e.config.modulePath f,
    ∀ first line last, first ++ "\n" ++ line ++ "\n" ++ last ∈ copies l → Unbroken line →
      line.toList ∈ outputLines a.content) files artifacts
  /-- The names and URLs of the description decide whether all comments stay on their lines. -/
  stay : CommentsStay e.config.modulePath files artifacts ↔
    (e.run ≠ .models → ∀ v ∈ e.spec.versions, ∀ a ∈ v.apis, Unbroken a.name ∧
      ∀ o ∈ a.operations, (DeclaresTypes o → Unbroken o.name) ∧
        (e.run = .client → Unbroken v.urlPrefix ∧ Unbroken o.endpoint.url))

/-- The texts that comments on an API copy, spelled out. -/
lemma unbroken_copies_iff {run : RunKind} {v : Version} {a : Api} :
    (∀ text, Copies run v a text → Unbroken text) ↔ (run ≠ .models → Unbroken a.name ∧
      ∀ o ∈ a.operations, (DeclaresTypes o → Unbroken o.name) ∧
        (run = .client → Unbroken v.urlPrefix ∧ Unbroken o.endpoint.url)) := by
  constructor
  · intro h hrun
    refine ⟨h _ (.name hrun), fun o ho => ⟨fun htypes => h _ (.types hrun ho htypes), ?_⟩⟩
    exact fun hclient => unbroken_append.1 (h _ (.url hclient ho))
  · intro h text hcopies
    cases hcopies with
    | name hrun => exact (h hrun).1
    | types hrun ho htypes => exact ((h hrun).2 _ ho).1 htypes
    | url hrun ho => exact unbroken_append.2 (((h (by rw [hrun]; decide)).2 _ ho).2 hrun)

lemma commentsStay_iff (h : SpecRules e.spec e.naming) (hfiles : e.files = .ok files)
    {artifacts : List Artifact} (hartifacts : files.mapM e.artifact = .ok artifacts) :
    CommentsStay e.config.modulePath files artifacts ↔
      ∀ v ∈ e.spec.versions, ∀ a ∈ v.apis, ∀ text, Copies e.run v a text → Unbroken text := by
  have hline : ∀ f ∈ files, ∀ a, e.artifact f = .ok a →
      ((∀ l ∈ remarksOf e.config.modulePath f, IsOutputLine l.render a.content) ↔
        ∀ l ∈ remarksOf e.config.modulePath f, Unbroken l.render) := by
    intro f hf a ha
    refine forall₂_congr fun l hl => ?_
    obtain ⟨before, text, after, hremark⟩ := isRemark_of_mem_remarks h hfiles hf hl
    exact (standsIn_artifact ha hl hremark.render_ne_empty).isOutputLine_iff
  rw [CommentsStay, forall₂_iff_forall (mapM_eq_ok_iff.1 hartifacts) hline]
  constructor
  · intro hall v hv a ha text hcopies
    obtain ⟨l, hl, before, after, hremark⟩ := exists_mem_apiRemarks hcopies
    obtain ⟨f, hf, hl⟩ := (mem_remarks_iff h hfiles _ l).2 ⟨v, hv, a, ha, hl⟩
    exact hremark.unbroken_iff.1 (hall f hf l hl)
  · intro hall f hf l hl
    obtain ⟨v, hv, a, ha, hl⟩ := (mem_remarks_iff h hfiles _ l).1 ⟨f, hf, hl⟩
    obtain ⟨before, text, after, hremark, hcopies⟩ := isRemark_of_mem_apiRemarks hl
    exact hremark.unbroken_iff.2 (hall v hv a ha text hcopies)

lemma copiedComments (h : SpecRules e.spec e.naming) (hfiles : e.files = .ok files)
    {artifacts : List Artifact} (hartifacts : files.mapM e.artifact = .ok artifacts) :
    CopiedComments e files artifacts := by
  have hpairs : List.Forall₂ (fun f a => f ∈ files ∧ e.artifact f = .ok a) files artifacts :=
    (List.forall₂_and_left files artifacts).2 ⟨fun _ hf => hf, mapM_eq_ok_iff.1 hartifacts⟩
  refine ⟨mem_copies_iff h hfiles, ?_, ?_, ?_⟩
  · refine hpairs.imp fun f a ⟨hf, ha⟩ l hl => ?_
    obtain ⟨before, text, after, hremark⟩ := isRemark_of_mem_remarks h hfiles hf hl
    have hstands := standsIn_artifact ha hl hremark.render_ne_empty
    exact ⟨before, text, after, hremark, hstands,
      hstands.isOutputLine_iff.trans hremark.unbroken_iff⟩
  · refine hpairs.imp fun f a ⟨hf, ha⟩ l hl first line last hcopies hline => ?_
    obtain ⟨before, text, after, hremark⟩ := isRemark_of_mem_remarks h hfiles hf hl
    rw [hremark.eq, copies_remark, List.mem_singleton] at hcopies
    have hrender : l.render = before ++ first ++ "\n" ++ line ++ "\n" ++ (last ++ after) := by
      rw [hremark.eq, render_remark, ← hcopies]
      simp only [String.append_assoc]
    exact (standsIn_artifact ha hl hremark.render_ne_empty).mem_of_broken hrender hline
  · rw [commentsStay_iff h hfiles hartifacts]
    have hspelled : (∀ v ∈ e.spec.versions, ∀ a ∈ v.apis, ∀ text, Copies e.run v a text →
        Unbroken text) ↔ ∀ v ∈ e.spec.versions, ∀ a ∈ v.apis, e.run ≠ .models →
          Unbroken a.name ∧ ∀ o ∈ a.operations, (DeclaresTypes o → Unbroken o.name) ∧
            (e.run = .client → Unbroken v.urlPrefix ∧ Unbroken o.endpoint.url) :=
      forall₂_congr fun v _ => forall₂_congr fun a _ => unbroken_copies_iff
    rw [hspelled]
    constructor
    · exact fun hall hrun v hv a ha => hall v hv a ha hrun
    · exact fun hall v hv a ha hrun => hall hrun v hv a ha

end Runs

/-- In every run on an accepted description, a comment that copies a name or a URL is one line of
its file exactly if what it copies has no line break, and what is copied behind a break goes on as a
line of its own. -/
theorem validated_copied_text (spec : Spec) (g : Generator) (run : RunKind)
    (h : spec.validate g.naming = .ok ()) :
    ∃ files artifacts, (Emission.mk spec g.config g.naming run).files = .ok files ∧
      files.mapM (Emission.mk spec g.config g.naming run).artifact = .ok artifacts ∧
      CopiedComments ⟨spec, g.config, g.naming, run⟩ files artifacts ∧
      ∀ set, g.generate spec run = .ok set → set.files = artifacts := by
  obtain ⟨files, artifacts, hfiles, hartifacts, hgiven⟩ := exists_run g run h
  exact ⟨files, artifacts, hfiles, hartifacts,
    copiedComments (.of_validate h) hfiles hartifacts, hgiven⟩

/-- The comments on the client of the shop stay on their lines; one of them copies the URL of its
request. -/
theorem validated_copied_text_shop :
    shop.validate .standard = .ok () ∧
      ∃ files artifacts, (Emission.mk shop .standard .standard .client).files = .ok files ∧
        CommentsStay "crate::spec" files artifacts ∧
        ∃ f ∈ files, ∃ l ∈ remarksOf "crate::spec" f,
          (shopVersion.urlPrefix ++ putOrder.endpoint.url) ∈ copies l := by
  have hvalid : shop.validate .standard = .ok () := by decide +kernel
  obtain ⟨files, artifacts, hfiles, -, hcomments, -⟩ :=
    validated_copied_text shop ⟨.standard, .standard, fun _ => true⟩ .client hvalid
  have hnames : ∀ v ∈ shop.versions, Unbroken v.urlPrefix ∧ ∀ a ∈ v.apis, Unbroken a.name ∧
      ∀ o ∈ a.operations, Unbroken o.name ∧ Unbroken o.endpoint.url := by
    decide +kernel
  refine ⟨hvalid, files, artifacts, hfiles, hcomments.stay.2 fun _ v hv a ha => ?_,
    (hcomments.copied _).2 ⟨shopVersion, List.mem_cons_self, ⟨"orders", [putOrder]⟩,
      List.mem_cons_self, .url rfl List.mem_cons_self⟩⟩
  obtain ⟨hroot, hapis⟩ := hnames v hv
  obtain ⟨hname, hoperations⟩ := hapis a ha
  refine ⟨hname, fun o ho => ?_⟩
  obtain ⟨hoperation, hurl⟩ := hoperations o ho
  exact ⟨fun _ => hoperation, fun _ => ⟨hroot, hurl⟩⟩

/-- A description that has an API with a line of code in its name. -/
def codeNamed : Spec :=
  ⟨"shop", [⟨"v1", none, [⟨"a` API.\npub struct B;\n/// x", []⟩], []⟩], .empty⟩

/-- The comment on the client of that API ends at the first break of the name, and the line of code
is a line of the client. -/
theorem codeNamed_goes_on :
    codeNamed.validate .standard = .ok () ∧
      ∃ files set, (Emission.mk codeNamed .standard .standard .client).files = .ok files ∧
        (Generator.mk .standard .standard fun _ => true).generate codeNamed .client = .ok set ∧
        ¬CommentsStay "crate::spec" files set.files ∧
        ∃ a ∈ set.files, "pub struct B;".toList ∈ outputLines a.content := by
  have hvalid : codeNamed.validate .standard = .ok () := by decide +kernel
  obtain ⟨files, artifacts, hfiles, hartifacts, -⟩ :=
    exists_run ⟨.standard, .standard, fun _ => true⟩ .client hvalid
  have hcomments := copiedComments (.of_validate hvalid) hfiles hartifacts
  refine ⟨hvalid, files, ⟨artifacts⟩, hfiles,
    generate_eq_ok hvalid hfiles hartifacts fun _ _ => rfl, ?_, ?_⟩
  · intro hstay
    have hname := (hcomments.stay.1 hstay (by decide) _ List.mem_cons_self _ List.mem_cons_self).1
    exact absurd hname (by decide)
  · obtain ⟨f, hf, l, hl, htext⟩ := (hcomments.copied ("a` API.\npub struct B;\n/// x")).2
      ⟨_, List.mem_cons_self, _, List.mem_cons_self, .name (by decide)⟩
    obtain ⟨a, ha, hfa⟩ := exists_of_mem_forall₂ hcomments.continued.flip hf
    exact ⟨a, ha, hfa l hl "a` API." "pub struct B;" "/// x" htext (by decide)⟩

end ApiCodegen.Proofs
