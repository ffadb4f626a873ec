import ApiCodegen.Proofs.Sequencing
import ApiCodegen.Tree.Emission

/-!
# Texts and paths of files

An index is written by a template and a file of source text by the writer, and both declare the
modules of a directory on their first lines: `opening` is the text that they share. The writer only
appends, so what follows the opening does not matter. The path of a file is that of its directory
and its name.
-/

namespace ApiCodegen.Proofs

/-- The declarations of modules, one on each line. -/
def moduleLines (modules : List String) : String :=
  String.join (modules.map fun m => "pub mod " ++ m ++ ";\n")

/-- The text that a file begins with: the header of generated files, and the modules that it lists. -/
def opening (f : TreeFile) : String :=
  (if f.kind = .generated then generatedHeader ++ "\n\n" else "") ++ moduleLines f.listedModules

/-! ### Indexes -/

section Indexes

variable {i : ModuleIndex}

lemma render_seq {c : Json} {first : Bool} {s t : Template} {before after : String}
    (hs : s.render c first = .ok before) (ht : t.render c first = .ok after) :
    (Template.seq s t).render c first = .ok (before ++ after) := by
  rw [Template.render, hs, ht]
  rfl

/-- The template of one line of an index. -/
def moduleTemplate : Template := .all [.text "pub mod ", .self, .text ";\n"]

lemma render_module (m : String) (first : Bool) :
    moduleTemplate.render (.str m) first = .ok ("pub mod " ++ m ++ ";\n") := by
  have hend : "pub mod " ++ (m ++ (";\n" ++ "")) = "pub mod " ++ m ++ ";\n" := by
    rw [String.append_empty, ← String.append_assoc]
  rw [← hend]
  exact render_seq rfl (render_seq rfl rfl)

lemma render_modules {c : Json} {modules : List String}
    (hc : c.field? "modules" = some (Json.strings modules)) :
    (Template.each "modules" moduleTemplate).render c false = .ok (moduleLines modules) := by
  have hlines : ∀ ms : List String,
      (ms.map Json.str).mapM (fun item => moduleTemplate.render item false) =
        .ok (ms.map fun m => "pub mod " ++ m ++ ";\n") := by
    intro ms
    rw [mapM_eq_ok_iff, List.forall₂_map_left_iff, List.forall₂_map_right_iff, List.forall₂_same]
    exact fun m _ => render_module m false
  have hneeded : Template.needed c "modules" = .ok (Json.strings modules) := by
    rw [Template.needed, hc]
  rw [Template.render, hneeded]
  cases modules with
  | nil => rfl
  | cons m ms =>
    change (do
      let head ← moduleTemplate.render (.str m) true
      let tail ← (ms.map Json.str).mapM fun item => moduleTemplate.render item false
      return head ++ String.join tail) = _
    rw [render_module, hlines, moduleLines, List.map_cons, String.join_cons]
    rfl

/-- An index is its opening. -/
lemma index_text : i.text =
    .ok ((if i.generated then generatedHeader ++ "\n\n" else "") ++ moduleLines i.modules) := by
  have hmodules : (Template.each "modules" moduleTemplate).render i.toJson false =
      .ok (moduleLines i.modules) := render_modules rfl
  have hheader : (Template.whenHolds "generated" (.all [.field "header", .text "\n\n"])).render
      i.toJson false = .ok (if i.generated then generatedHeader ++ "\n\n" else "") := by
    obtain ⟨generated, modules⟩ := i
    cases generated with
    | true => rfl
    | false => rfl
  have hindex : Template.index.render i.toJson false = .ok
      ((if i.generated then generatedHeader ++ "\n\n" else "") ++ (moduleLines i.modules ++ "")) :=
    render_seq hheader (render_seq hmodules rfl)
  rw [String.append_empty] at hindex
  change (Template.index.render i.toJson false).mapError Fault.template = _
  rw [hindex]
  rfl

end Indexes

/-! ### Source texts -/

section Sources

lemma step_text (w : Writer) (s : Step) : ∃ rest, (w.step s).text = w.text ++ rest := by
  have hline : ∀ (w : Writer) line, ∃ rest, (w.line line).text = w.text ++ rest := by
    intro w line
    unfold Writer.line
    split
    · exact ⟨_, rfl⟩
    · exact ⟨_, by rw [String.append_assoc, String.append_assoc]⟩
  have hlines : ∀ (lines : List String) (w : Writer),
      ∃ rest, (lines.foldl Writer.line w).text = w.text ++ rest := by
    intro lines
    induction lines with
    | nil => exact fun w => ⟨"", String.append_empty.symm⟩
    | cons line lines ih =>
      intro w
      obtain ⟨first, hfirst⟩ := hline w line
      obtain ⟨rest, hrest⟩ := ih (w.line line)
      exact ⟨first ++ rest, by rw [List.foldl_cons, hrest, hfirst, String.append_assoc]⟩
  cases s with
  | line text => exact hline w text
  | blank => exact hline w ""
  | opening text => exact hline w _
  | closing text => exact hline w.dedent text
  | indent => exact ⟨"", String.append_empty.symm⟩
  | dedent => exact ⟨"", String.append_empty.symm⟩
  | doc text =>
    cases text with
    | none => exact ⟨"", String.append_empty.symm⟩
    | some text => exact hlines (docLines text) w

/-- What the writer has written stays. -/
lemma run_text (w : Writer) (steps : List Step) : ∃ rest, (w.run steps).text = w.text ++ rest := by
  induction steps generalizing w with
  | nil => exact ⟨"", String.append_empty.symm⟩
  | cons s steps ih =>
    obtain ⟨first, hfirst⟩ := step_text w s
    obtain ⟨rest, hrest⟩ := ih (w.step s)
    exact ⟨first ++ rest, by rw [Writer.run, List.foldl_cons, ← Writer.run, hrest, hfirst,
      String.append_assoc]⟩

lemma run_append (w : Writer) (before after : List Step) :
    w.run (before ++ after) = (w.run before).run after :=
  List.foldl_append

/-- Lines of fixed text at the margin. -/
lemma run_texts (written : String) (lines : List String) :
    (Writer.mk written 0).run (Code.texts lines).steps =
      ⟨written ++ String.join (lines.map (· ++ "\n")), 0⟩ := by
  have hline : ∀ written line : String,
      (Writer.mk written 0).line line = ⟨written ++ (line ++ "\n"), 0⟩ := by
    intro written line
    have hmargin : Writer.margin 0 = "" := rfl
    unfold Writer.line
    split
    · rename_i hempty
      rw [String.isEmpty_iff.1 hempty]
      rfl
    · rw [hmargin, String.append_empty, String.append_assoc]
  induction lines generalizing written with
  | nil =>
    rw [List.map_nil, String.join_nil, String.append_empty]
    rfl
  | cons line lines ih =>
    have hsteps : (Code.texts (line :: lines)).steps =
        .line (Line.render [.text line]) :: (Code.texts lines).steps := rfl
    have hrender : Line.render [.text line] = line := by
      rw [Line.render, List.map_singleton, String.join_cons, String.join_nil, String.append_empty]
      rfl
    rw [hsteps, hrender, Writer.run, List.foldl_cons, ← Writer.run, Writer.step, hline, ih,
      List.map_cons, String.join_cons, String.append_assoc]

/-- What a file of source text starts with. -/
lemma source_text (s : SourceFile) (root : String) : ∃ rest, (s.code root).render =
    generatedHeader ++ "\n\n" ++ moduleLines s.submodules ++ rest := by
  obtain ⟨more, hmore⟩ : ∃ more, (s.code root).steps =
      (Code.texts [generatedHeader] ++ .blank : Code).steps ++ (s.submodulesCode.steps ++ more) := by
    unfold SourceFile.code
    refine ⟨(if s.opensParent then Code.texts ["use super::*;"] else .nothing).steps ++
      ((Imports.ofUses root s.uses).code.steps ++ s.body.steps), ?_⟩
    simp only [← List.append_assoc]
    rfl
  have hheader : Writer.empty.run (Code.texts [generatedHeader] ++ .blank : Code).steps =
      ⟨generatedHeader ++ "\n\n", 0⟩ := by
    decide +kernel
  have hsubmodules : ∃ blank,
      ((Writer.mk (generatedHeader ++ "\n\n") 0).run s.submodulesCode.steps).text =
        generatedHeader ++ "\n\n" ++ moduleLines s.submodules ++ blank := by
    unfold SourceFile.submodulesCode
    split
    · rename_i hempty
      rw [List.isEmpty_iff.1 hempty]
      exact ⟨"", by decide +kernel⟩
    · obtain ⟨blank, hblank⟩ := run_text ((Writer.mk (generatedHeader ++ "\n\n") 0).run
        (Code.texts (s.submodules.map fun m => "pub mod " ++ m ++ ";")).steps) Code.blank.steps
      refine ⟨blank, ?_⟩
      have hlines : (s.submodules.map fun m => "pub mod " ++ m ++ ";").map (· ++ "\n") =
          s.submodules.map fun m => "pub mod " ++ m ++ ";\n" := by
        rw [List.map_map]
        refine List.map_congr_left fun m _ => ?_
        exact String.append_assoc
      change ((Writer.mk (generatedHeader ++ "\n\n") 0).run
        ((Code.texts (s.submodules.map fun m => "pub mod " ++ m ++ ";")).steps ++
          Code.blank.steps)).text = _
      rw [run_append, hblank, run_texts, hlines]
      rfl
  obtain ⟨blank, hblank⟩ := hsubmodules
  obtain ⟨rest, hrest⟩ := run_text
    ((Writer.mk (generatedHeader ++ "\n\n") 0).run s.submodulesCode.steps) more
  refine ⟨blank ++ rest, ?_⟩
  rw [Code.render, hmore, run_append, run_append, hheader, hrest, hblank, String.append_assoc]

end Sources

/-- A file begins with its opening, and an index is nothing else. -/
theorem text_opening {f : TreeFile} {root text : String} (h : f.text root = .ok text) :
    ∃ rest, text = opening f ++ rest ∧ ∀ i, f.content = .index i → rest = "" := by
  obtain ⟨path, content⟩ := f
  cases content with
  | support lines =>
    cases h
    exact ⟨String.join (lines.map (· ++ "\n")), rfl, fun i hi => by cases hi⟩
  | index i =>
    obtain ⟨generated, modules⟩ := i
    have htext : (ModuleIndex.mk generated modules).text = .ok text := h
    rw [index_text, Except.ok.injEq] at htext
    refine ⟨"", ?_, fun _ _ => rfl⟩
    rw [String.append_empty, ← htext]
    cases generated with
    | true => rfl
    | false => rfl
  | source s =>
    obtain ⟨rest, hrest⟩ := source_text s root
    cases h
    exact ⟨rest, hrest, fun i hi => by cases hi⟩
  | skeleton s =>
    have hopening : opening ⟨path, .skeleton s⟩ = "" := rfl
    refine ⟨text, ?_, fun i hi => by cases hi⟩
    rw [hopening, String.empty_append]

/-! ### Paths -/

section Paths

variable (e : Emission) (area : TreeArea) (dirs : List String) (m : String)

/-- The path of a directory, with a slash at its end unless it is the output root itself. -/
def directoryText : String :=
  (match area with
    | .generated => e.generatedPath ""
    | .services => e.scaffoldPath "") ++ String.join (dirs.map (· ++ "/"))

lemma relative_eq (p : TreePath) :
    p.relative = String.join (p.dirs.map (· ++ "/")) ++ (p.name ++ ".rs") := by
  obtain ⟨area, dirs, name⟩ := p
  unfold TreePath.relative
  induction dirs with
  | nil =>
    rw [List.nil_append, String.intercalate_singleton, List.map_nil, String.join_nil,
      String.empty_append]
  | cons d dirs ih =>
    have hstep : "/".intercalate (d :: (dirs ++ [name ++ ".rs"])) =
        d ++ "/" ++ "/".intercalate (dirs ++ [name ++ ".rs"]) := by
      cases dirs with
      | nil => exact String.intercalate_cons_cons
      | cons d' dirs => exact String.intercalate_cons_cons
    rw [List.cons_append, hstep, ih, List.map_cons, String.join_cons]
    simp only [String.append_assoc]

lemma joinPath_eq (dir relative : String) : joinPath dir relative = joinPath dir "" ++ relative := by
  unfold joinPath
  dsimp only
  split
  · rw [String.empty_append]
  · rw [String.append_empty]

lemma pathText_eq : e.pathText ⟨area, dirs, m⟩ = directoryText e area dirs ++ m ++ ".rs" := by
  have hrelative := relative_eq ⟨area, dirs, m⟩
  have hjoin : ∀ dir, joinPath dir (TreePath.relative ⟨area, dirs, m⟩) =
      joinPath dir "" ++ String.join (dirs.map (· ++ "/")) ++ m ++ ".rs" := by
    intro dir
    rw [joinPath_eq, hrelative]
    simp only [String.append_assoc]
  cases area with
  | generated => exact hjoin e.config.generatePath
  | services => exact hjoin e.config.servicesPath

lemma directoryText_append :
    directoryText e area (dirs ++ [m]) = directoryText e area dirs ++ m ++ "/" := by
  unfold directoryText
  rw [List.map_append, String.join_append, List.map_singleton, String.join_cons, String.join_nil,
    String.append_empty]
  simp only [String.append_assoc]

lemma pathText_ofDirectory : e.pathText (.ofDirectory area (dirs ++ [m])) =
    directoryText e area dirs ++ m ++ "/mod.rs" := by
  rw [TreePath.ofDirectory, pathText_eq, directoryText_append]
  simp only [String.append_assoc]
  rfl

end Paths

end ApiCodegen.Proofs
