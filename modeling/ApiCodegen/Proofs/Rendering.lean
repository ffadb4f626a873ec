import ApiCodegen.Proofs.Sequencing
import ApiCodegen.Tree.Emission

/-!
# Templates that find their variables

Rendering is strict, so a template can fail on a context that lacks a variable. `Fits` says that a
context has all that a template prints and repeats over, with contexts for the repetitions that fit
in turn; such a context is rendered. The contexts of indexes and skeletons fit their templates
whatever they hold, and so every file of a run can be written.
-/

namespace ApiCodegen.Proofs

/-- A context with every variable that a template prints or repeats over. -/
def Fits : Template → Json → Prop
  | .nothing, _ | .text _, _ | .self, _ => True
  | .field name, c => ∃ value, c.field? name = some value
  | .whenHolds _ body, c | .unlessFirst body, c => Fits body c
  | .each name body, c => ∃ value items, c.field? name = some value ∧
      Template.collection? value = some items ∧ ∀ item ∈ items, Fits body item
  | .seq a b, c => Fits a c ∧ Fits b c

/-- A context that fits is rendered, in the first repetition and in any other. -/
theorem succeeds_render {t : Template} {c : Json} {first : Bool} (h : Fits t c) :
    Succeeds (t.render c first) := by
  induction t generalizing c first with
  | nothing | text | self => exact Succeeds.ok _
  | field name =>
    obtain ⟨value, hvalue⟩ := h
    simp only [Template.render, Template.needed, hvalue]
    exact Succeeds.ok _
  | whenHolds name body ih =>
    rw [Template.render]
    split
    · exact ih h
    · exact Succeeds.ok _
  | unlessFirst body ih =>
    rw [Template.render]
    split
    · exact Succeeds.ok _
    · exact ih h
  | each name body ih =>
    obtain ⟨value, items, hvalue, hitems, hfits⟩ := h
    have hneeded : Template.needed c name = .ok value := by
      simp only [Template.needed, hvalue]
    rw [Template.render]
    refine Succeeds.bind ⟨value, hneeded⟩ fun value' hvalue' => ?_
    rw [hneeded, Except.ok.injEq] at hvalue'
    subst hvalue'
    rw [hitems]
    cases items with
    | nil => exact Succeeds.ok _
    | cons item items =>
      apply (ih (hfits item List.mem_cons_self)).bind
      intro head _
      have htail : ∀ i ∈ items, Succeeds (body.render i false) :=
        fun i hi => ih (hfits i (List.mem_cons_of_mem item hi))
      apply (Succeeds.mapM htail).bind
      intro tail _
      exact Succeeds.pure _
  | seq a b iha ihb =>
    rw [Template.render]
    apply (iha h.1).bind
    intro before _
    apply (ihb h.2).bind
    intro after _
    exact Succeeds.pure _

/-! ### Contexts that fit -/

lemma fits_text {s : String} {c : Json} : Fits (.text s) c ↔ True := Iff.rfl

lemma fits_self {c : Json} : Fits .self c ↔ True := Iff.rfl

lemma fits_whenHolds {name : String} {body : Template} {c : Json} :
    Fits (.whenHolds name body) c ↔ Fits body c := Iff.rfl

lemma fits_unlessFirst {body : Template} {c : Json} :
    Fits (.unlessFirst body) c ↔ Fits body c := Iff.rfl

lemma fits_all_nil {c : Json} : Fits (.all []) c ↔ True := Iff.rfl

lemma fits_all_cons {t : Template} {ts : List Template} {c : Json} :
    Fits (.all (t :: ts)) c ↔ Fits t c ∧ Fits (.all ts) c := Iff.rfl

lemma fits_field {name : String} {c value : Json} (h : c.field? name = some value) :
    Fits (.field name) c := ⟨value, h⟩

lemma fits_each {name : String} {body : Template} {c : Json} {items : List Json}
    (hfield : c.field? name = some (.arr items)) (h : ∀ item ∈ items, Fits body item) :
    Fits (.each name body) c :=
  ⟨.arr items, items, hfield, rfl, h⟩

lemma fits_index (i : ModuleIndex) : Fits Template.index i.toJson := by
  simp only [Template.index, fits_all_cons, fits_all_nil, fits_whenHolds, fits_text, and_true]
  have hmodules : i.toJson.field? "modules" = some (.arr (i.modules.map .str)) := rfl
  refine ⟨fits_field rfl, fits_each hmodules fun item _ => ?_⟩
  simp only [fits_all_cons, fits_all_nil, fits_text, fits_self, and_true]

lemma fits_method (m : SkeletonMethod) : Fits Template.method m.toJson := by
  simp only [Template.method, fits_all_cons, fits_all_nil, fits_unlessFirst, fits_text, and_true,
    true_and]
  refine ⟨fits_field rfl, fits_each rfl fun item hitem => ?_, fits_field rfl, fits_field rfl⟩
  obtain ⟨param, -, rfl⟩ := List.mem_map.1 hitem
  simp only [fits_all_cons, fits_all_nil, fits_text, and_true, true_and]
  exact ⟨fits_field rfl, fits_field rfl⟩

lemma fits_service (s : Skeleton) (root : String) : Fits Template.service (s.toJson root) := by
  simp only [Template.service, fits_all_cons, fits_all_nil, fits_text, and_true, true_and]
  refine ⟨fits_field rfl, fits_each rfl fun item _ => ?_, fits_field rfl, fits_field rfl,
    fits_field rfl, fits_field rfl, fits_each rfl fun item hitem => ?_⟩
  · simp only [fits_all_cons, fits_all_nil, fits_text, fits_self, and_true]
  · obtain ⟨m, -, rfl⟩ := List.mem_map.1 hitem
    exact fits_method m

/-! ### Files -/

lemma succeeds_mapError_iff {ε δ α : Type} {x : Except ε α} {f : ε → δ} :
    Succeeds (x.mapError f) ↔ Succeeds x := by
  cases x with
  | error e => simp [Succeeds, Except.mapError]
  | ok a => simp [Succeeds, Except.mapError]

/-- Every file of a run can be written, whatever it holds. -/
theorem succeeds_artifact (e : Emission) (f : TreeFile) : Succeeds (e.artifact f) := by
  unfold Emission.artifact TreeFile.text
  rw [succeeds_map_iff]
  cases f.content with
  | support lines => exact Succeeds.ok _
  | source s => exact Succeeds.ok _
  | index i => exact succeeds_mapError_iff.2 (succeeds_render (fits_index i))
  | skeleton s => exact succeeds_mapError_iff.2 (succeeds_render (fits_service s _))

end ApiCodegen.Proofs
