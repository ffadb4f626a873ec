import ApiCodegen.Proofs.Comments
import ApiCodegen.Proofs.Emission
import ApiCodegen.Proofs.FileTexts
import ApiCodegen.Proofs.PairedCalls
import Mathlib.Algebra.Order.Group.Int

/-!
# Levels of indentation

The level of a writer stops at zero, which would hide a step back that no step in came before.
`drift` counts steps in and steps back without that stop. The layout of paired calls is nested: it
goes back as often as in, and at no point it has gone back more often. On such steps the level of a
writer follows the count, so that it is never below the level at the start and ends there, and the
margin of a line is as wide as the blocks around it make it (`rows`).
-/

namespace ApiCodegen.Proofs

/-! ### The lines of a text -/

/-- A line one level deeper. -/
def deeper (row : Nat × String) : Nat × String := (row.1 + 1, row.2)

/-- The lines of code with their depths, which the blocks around them give; a call without its
counterpart has no place among them. -/
def rows : Code → List (Nat × String)
  | .nothing => []
  | .line l | .arm l => [(0, l.render)]
  | .blank => [(0, "")]
  | .doc text => (text.elim [] docLines).map fun line => (0, line)
  | .block _ head body close =>
    (0, head.render ++ " \x7b") :: ((rows body).map deeper ++ [(0, close.render)])
  | .hanging head body close =>
    (0, head.render) :: ((rows body).map deeper ++ close.toList.map fun l => (0, l.render))
  | .seq first second => rows first ++ rows second
  | .stray _ => []

/-- The text of a line, whose margin is as wide as its depth below the given level. -/
def rowText (level : Nat) (row : Nat × String) : String :=
  if row.2.isEmpty then "\n" else Writer.margin (level + row.1) ++ row.2 ++ "\n"

/-- The text of lines below the given level. -/
def rowsText (level : Nat) (lines : List (Nat × String)) : String :=
  String.join (lines.map (rowText level))

section Rows

variable {level : Nat}

lemma rowsText_cons (row : Nat × String) (lines : List (Nat × String)) :
    rowsText level (row :: lines) = rowText level row ++ rowsText level lines := by
  rw [rowsText, List.map_cons, String.join_cons, rowsText]

lemma rowsText_append (before after : List (Nat × String)) :
    rowsText level (before ++ after) = rowsText level before ++ rowsText level after := by
  rw [rowsText, List.map_append, String.join_append, rowsText, rowsText]

lemma rowsText_singleton (row : Nat × String) : rowsText level [row] = rowText level row :=
  (rowsText_cons row []).trans String.append_empty

lemma rowsText_deeper (lines : List (Nat × String)) :
    rowsText level (lines.map deeper) = rowsText (level + 1) lines := by
  have hrow : rowText level ∘ deeper = rowText (level + 1) := by
    funext row
    have hdepth : level + (row.1 + 1) = level + 1 + row.1 := by omega
    simp only [Function.comp_apply, rowText, deeper, hdepth]
  rw [rowsText, List.map_map, hrow, rowsText]

lemma line_eq (w : Writer) (text : String) :
    w.line text = ⟨w.text ++ rowText w.level (0, text), w.level⟩ := by
  unfold Writer.line rowText
  dsimp only
  split
  · rfl
  · rw [Nat.add_zero, String.append_assoc, String.append_assoc, String.append_assoc]

lemma lines_eq (w : Writer) (lines : List String) :
    lines.foldl Writer.line w =
      ⟨w.text ++ rowsText w.level (lines.map fun line => (0, line)), w.level⟩ := by
  induction lines generalizing w with
  | nil => exact congrArg (Writer.mk · w.level) String.append_empty.symm
  | cons line lines ih =>
    rw [List.foldl_cons, ih, line_eq, List.map_cons, rowsText_cons, String.append_assoc]

/-- A writer writes the lines of code, each as deep below its own level as the blocks make it. -/
lemma run_code (w : Writer) {c : Code} (h : Paired c) :
    w.run c.steps = ⟨w.text ++ rowsText w.level (rows c), w.level⟩ := by
  induction c generalizing w with
  | nothing => exact lines_eq w []
  | line l =>
    rw [rows, rowsText_singleton]
    exact line_eq w l.render
  | arm l =>
    rw [rows, rowsText_singleton]
    exact line_eq w l.render
  | blank =>
    rw [rows, rowsText_singleton]
    exact line_eq w ""
  | doc text =>
    cases text with
    | none => exact lines_eq w []
    | some text => exact lines_eq w (docLines text)
  | block binding head body close ih =>
    have hrun : w.run (Code.block binding head body close).steps =
        ((w.line (head.render ++ " \x7b")).indent.run body.steps).dedent.line close.render :=
      run_append _ body.steps [.closing close.render]
    rw [hrun, ih _ h, line_eq, line_eq, Writer.indent, Writer.dedent, rows, rowsText_cons,
      rowsText_append, rowsText_deeper, rowsText_singleton]
    simp only [Nat.add_sub_cancel, String.append_assoc]
  | hanging head body close ih =>
    have hrun : w.run (Code.hanging head body close).steps =
        (((w.line head.render).indent.run body.steps).dedent).run (Code.closeSteps close) :=
      run_append _ body.steps (.dedent :: Code.closeSteps close)
    have hclose : ∀ w : Writer, w.run (Code.closeSteps close) =
        ⟨w.text ++ rowsText w.level (close.toList.map fun l => (0, l.render)), w.level⟩ := by
      intro w
      cases close with
      | none => exact lines_eq w []
      | some l => exact lines_eq w [l.render]
    rw [hrun, ih _ h, line_eq, Writer.indent, Writer.dedent, hclose, rows, rowsText_cons,
      rowsText_append, rowsText_deeper]
    simp only [Nat.add_sub_cancel, String.append_assoc]
  | stray s => exact h.elim
  | seq first second ihfirst ihsecond =>
    rw [Code.steps, run_append, ihfirst _ h.1, ihsecond _ h.2, rows, rowsText_append,
      String.append_assoc]

end Rows

/-! ### Steps in and steps back -/

/-- How many levels a step goes in. -/
def inward : Step → Int
  | .opening _ | .indent => 1
  | .closing _ | .dedent => -1
  | .line _ | .blank | .doc _ => 0

/-- How many levels steps go in, those back counted off. -/
def drift : List Step → Int
  | [] => 0
  | s :: steps => inward s + drift steps

lemma drift_append (before after : List Step) :
    drift (before ++ after) = drift before + drift after := by
  induction before with
  | nil => exact (zero_add _).symm
  | cons s before ih => rw [List.cons_append, drift, ih, drift, add_assoc]

/-- Steps that go back exactly what they have gone in before. -/
structure Nested (steps : List Step) : Prop where
  drift_eq : drift steps = 0
  drift_nonneg : ∀ before, before <+: steps → 0 ≤ drift before

section Nesting

variable {steps before after body : List Step} {s first last : Step}

lemma nested_nil : Nested [] where
  drift_eq := rfl
  drift_nonneg before h := by
    rw [List.prefix_nil.1 h]
    exact le_rfl

lemma Nested.append (hbefore : Nested before) (hafter : Nested after) :
    Nested (before ++ after) where
  drift_eq := by rw [drift_append, hbefore.drift_eq, hafter.drift_eq, add_zero]
  drift_nonneg leading h := by
    rcases List.prefix_or_prefix_of_prefix h (List.prefix_append before after) with h' | ⟨rest, rfl⟩
    · exact hbefore.drift_nonneg leading h'
    · rw [drift_append, hbefore.drift_eq, zero_add]
      exact hafter.drift_nonneg rest ((List.prefix_append_right_inj before).1 h)

/-- A step that keeps the level. -/
lemma nested_singleton (h : inward s = 0) : Nested [s] where
  drift_eq := by rw [drift, h]; rfl
  drift_nonneg before hbefore := by
    rcases List.prefix_cons_iff.1 hbefore with rfl | ⟨rest, rfl, hrest⟩
    · exact le_rfl
    · rw [List.prefix_nil.1 hrest, drift, h]
      exact le_rfl

/-- A step in, something nested, and the step back. -/
lemma Nested.enclosed (h : Nested body) (hfirst : inward first = 1) (hlast : inward last = -1) :
    Nested (first :: (body ++ [last])) where
  drift_eq := by rw [drift, drift_append, h.drift_eq, drift, hfirst, hlast]; rfl
  drift_nonneg before hbefore := by
    rcases List.prefix_cons_iff.1 hbefore with rfl | ⟨rest, rfl, hrest⟩
    · exact le_rfl
    · rw [drift, hfirst]
      rcases List.prefix_concat_iff.1 hrest with rfl | hinside
      · rw [drift_append, h.drift_eq, drift, hlast]
        exact le_rfl
      · exact add_nonneg zero_le_one (h.drift_nonneg rest hinside)

/-- Paired calls go in and back by blocks. -/
lemma nested_steps {c : Code} (h : Paired c) : Nested c.steps := by
  induction c with
  | nothing => exact nested_nil
  | line l => exact nested_singleton rfl
  | arm l => exact nested_singleton rfl
  | blank => exact nested_singleton rfl
  | doc text => exact nested_singleton rfl
  | block binding head body close ih => exact (ih h).enclosed rfl rfl
  | hanging head body close ih =>
    have hclose : Nested (Code.closeSteps close) := by
      cases close with
      | none => exact nested_nil
      | some l => exact nested_singleton rfl
    have hparts : (Code.hanging head body close).steps =
        [.line head.render] ++ (.indent :: (body.steps ++ [.dedent]) ++ Code.closeSteps close) := by
      simp [Code.steps]
    rw [hparts]
    exact (nested_singleton rfl).append (((ih h).enclosed rfl rfl).append hclose)
  | stray s => exact h.elim
  | seq first second ihfirst ihsecond => exact (ihfirst h.1).append (ihsecond h.2)

end Nesting

/-! ### The level of a writer -/

section Level

variable {w : Writer} {s : Step} {steps : List Step}

/-- A step that does not go below zero moves the level by what it counts. -/
lemma level_step (h : 0 ≤ (w.level : Int) + inward s) :
    ((w.step s).level : Int) = w.level + inward s := by
  cases s with
  | line text => exact congrArg Nat.cast (line_level w text)
  | blank => exact congrArg Nat.cast (line_level w "")
  | opening text =>
    change (((w.line _).level + 1 : Nat) : Int) = w.level + 1
    rw [line_level]
    exact Int.natCast_succ w.level
  | closing text =>
    change ((w.dedent.line text).level : Int) = w.level + -1
    rw [line_level]
    change 0 ≤ (w.level : Int) + -1 at h
    change ((w.level - 1 : Nat) : Int) = w.level + -1
    omega
  | indent => exact Int.natCast_succ w.level
  | dedent =>
    change 0 ≤ (w.level : Int) + -1 at h
    change ((w.level - 1 : Nat) : Int) = w.level + -1
    omega
  | doc text =>
    cases text with
    | none => exact (add_zero _).symm
    | some text =>
      change (((docLines text).foldl Writer.line w).level : Int) = w.level + 0
      rw [lines_eq, add_zero]

/-- Steps that at no point go below zero move the level by what they count. -/
lemma level_run (h : ∀ before, before <+: steps → 0 ≤ (w.level : Int) + drift before) :
    ((w.run steps).level : Int) = w.level + drift steps := by
  induction steps generalizing w with
  | nil => exact (add_zero _).symm
  | cons s steps ih =>
    have hfirst := h [s] (List.prefix_append [s] steps)
    rw [drift] at hfirst
    have hstep : ((w.step s).level : Int) = w.level + inward s :=
      level_step (hfirst.trans_eq (by rw [drift, add_zero]))
    have hrest := ih (w := w.step s) fun before hbefore => by
      rw [hstep, add_assoc, ← drift]
      exact h (s :: before) (List.cons_prefix_cons.2 ⟨rfl, hbefore⟩)
    rw [drift, ← add_assoc, ← hstep]
    exact hrest

/-- A step back at the margin is lost: the level ends above the count. -/
example : (Writer.empty.run [.dedent, .indent]).level = 1 ∧ drift [.dedent, .indent] = 0 := by
  decide

/-- Code that a writer leaves at the level at which it found it. In between the level is never
lower, and it is the number of steps in without those back, so that no step back is lost at zero. -/
structure KeepsLevel (c : Code) : Prop where
  returns : ∀ w : Writer, (w.run c.steps).level = w.level
  above : ∀ (w : Writer) before, before <+: c.steps → w.level ≤ (w.run before).level
  counts : ∀ (w : Writer) before, before <+: c.steps →
    ((w.run before).level : Int) = w.level + drift before
  /-- Every line stands as deep below the level as the blocks around it make it. -/
  writes : ∀ w : Writer, (w.run c.steps).text = w.text ++ rowsText w.level (rows c)

lemma keepsLevel {c : Code} (h : Paired c) : KeepsLevel c := by
  have hnested := nested_steps h
  have hcounts : ∀ (w : Writer) before, before <+: c.steps →
      ((w.run before).level : Int) = w.level + drift before := fun w before hbefore =>
    level_run fun leading hleading =>
      add_nonneg (Int.natCast_nonneg _) (hnested.drift_nonneg leading (hleading.trans hbefore))
  refine ⟨fun w => ?_, fun w before hbefore => ?_, hcounts, fun w => ?_⟩
  · rw [run_code w h]
  · have hlevel := hcounts w before hbefore
    have hnonneg := hnested.drift_nonneg before hbefore
    omega
  · rw [run_code w h]

end Level

/-- Every emitter keeps the level: that of the models, those of the types of an operation, those that
read and write parameters, both dispatches, and those of handlers and of methods. Code is laid out as
the calls that made it, one after the other, so that nothing but the calls themselves can do so. Every
file of source text that a run emits is at the margin again where it ends. -/
theorem emission_keepsLevel :
    (∀ calls, (Code.ofCalls calls).steps = calls.flatMap callSteps) ∧
    (∀ scope naming paths here models code,
      modelsCode scope naming paths here models = .ok code → KeepsLevel code) ∧
    (∀ (group : ReadingGroup) naming codecs, KeepsLevel (group.code naming codecs)) ∧
    (∀ writer place codecs, KeepsLevel (writingCode writer place codecs)) ∧
    (∀ (naming : Naming) (s : Signature),
      KeepsLevel (s.formCode naming) ∧ KeepsLevel (s.responseCode naming) ∧
      (∀ errors, KeepsLevel (ClientBranch.dispatch naming (ClientBranch.ofSignature s errors))) ∧
      (∀ call, KeepsLevel (ServiceArm.dispatch call (ServiceArm.ofSignature s))) ∧
      KeepsLevel (Handler.bodyCode naming s.body) ∧ KeepsLevel (ClientMethod.bodyCode s.body) ∧
      ∀ urlPrefix api,
        (∀ traitName, KeepsLevel (Handler.ofSignature naming traitName urlPrefix api s).code) ∧
        ∀ errors, KeepsLevel (ClientMethod.ofSignature naming urlPrefix api s errors).code) ∧
    ∀ (e : Emission) files, e.files = .ok files → ∀ path f, ⟨path, .source f⟩ ∈ files →
      ∃ w : Writer, w = Writer.empty.run (f.code e.config.modulePath).steps ∧
        e.artifact ⟨path, .source f⟩ = .ok ⟨e.pathText path, w.text, .generated⟩ ∧
        KeepsLevel (f.code e.config.modulePath) ∧ w.level = 0 := by
  refine ⟨steps_ofCalls, fun _ _ _ _ _ _ hcode => keepsLevel (paired_modelsCode hcode),
    fun group _ codecs => keepsLevel (paired_groupCode group codecs),
    fun writer place codecs => keepsLevel (paired_writingCode writer place codecs),
    fun naming s => ?_, fun e files hfiles path f hf => ?_⟩
  · exact ⟨keepsLevel (paired_formCode s), keepsLevel (paired_responseCode s),
      fun _ => keepsLevel (paired_clientDispatch _),
      fun _ => keepsLevel (paired_serviceDispatch _ _), keepsLevel (paired_handlerBody _), keepsLevel (paired_methodBody _),
      fun _ _ => ⟨fun _ => keepsLevel (paired_handlerCode _ _ _ s),
        fun _ => keepsLevel (paired_methodCode _ _ s _)⟩⟩
  · have hemitted := (mem_files_iff hfiles).1 hf
    have hfile := keepsLevel (paired_file e.config.modulePath (paired_of_emitted hemitted))
    exact ⟨_, rfl, rfl, hfile, hfile.returns .empty⟩

/-- The models of the shop are written and keep the level, and the router of its service is at the
margin where it ends. -/
theorem emission_keepsLevel_shop :
    (∃ code, modelsCode (.ofVersion shopVersion shop.httpErrors) .standard .inModels .root
      shopVersion.models = .ok code ∧ KeepsLevel code) ∧
    ∃ files path f, (Emission.mk shop .standard .standard .service).files = .ok files ∧
      ⟨path, .source f⟩ ∈ files ∧
      (Writer.empty.run (f.code "crate::spec").steps).level = 0 := by
  have hvalid : shop.validate .standard = .ok () := by decide +kernel
  obtain ⟨code, hcode⟩ : Succeeds (modelsCode (.ofVersion shopVersion shop.httpErrors) .standard
      .inModels .root shopVersion.models) :=
    succeeds_modelsCode ((SpecRules.of_validate hvalid).models shopVersion List.mem_cons_self)
  obtain ⟨files, -, hfiles, -⟩ := (EmitsAll.of_validate hvalid .standard .service).artifacts
  obtain ⟨-, hmodels, -, -, -, hsources⟩ := emission_keepsLevel
  have hrouter : (Emission.mk shop .standard .standard .service).rootRouterFile ∈ files :=
    (mem_files_iff hfiles).2 (.router rfl)
  obtain ⟨_, rfl, -, -, hlevel⟩ := hsources _ files hfiles _ _ hrouter
  exact ⟨⟨code, hcode, hmodels _ _ _ _ _ code hcode⟩, files, _, _, hfiles, hrouter, hlevel⟩

end ApiCodegen.Proofs
