import ApiCodegen.Proofs.Sequencing
import ApiCodegen.Tree.Client
import ApiCodegen.Tree.Errors
import ApiCodegen.Tree.Service

/-!
# Types that code spells

The types on the lines of a piece of code, in order: those of its parts one after the other. The
code of models spells the types of their fields, the code of an operation those of its payloads and
parameters; what writes a request or reads a response adds none but the types that are read.
-/

namespace ApiCodegen.Proofs

/-! ### Types in lines and code -/

section Spellings

variable (a b : Code) (l : Line)

@[simp] lemma line_spellings_nil : Line.spellings [] = [] := rfl

@[simp] lemma line_spellings_text (s : String) : Line.spellings (.text s :: l) = l.spellings := rfl

@[simp] lemma line_spellings_quoted (s : String) :
    Line.spellings (.quoted s :: l) = l.spellings := rfl

@[simp] lemma line_spellings_declares (name : String) :
    Line.spellings (.declares name :: l) = l.spellings := rfl

@[simp] lemma line_spellings_item (name : String) :
    Line.spellings (.item name :: l) = l.spellings := rfl

@[simp] lemma line_spellings_spelled (t : Spelling) :
    Line.spellings (.spelled t :: l) = t :: l.spellings := rfl

@[simp] lemma line_spellings_binds (v : Var) :
    Line.spellings (.binds v :: l) = l.spellings := rfl

@[simp] lemma line_spellings_reads (v : Var) :
    Line.spellings (.reads v :: l) = l.spellings := rfl

@[simp] lemma line_spellings_copied (s : String) :
    Line.spellings (.copied s :: l) = l.spellings := rfl

@[simp] lemma line_spellings_newLocal (name : String) :
    Line.spellings (.newLocal name :: l) = l.spellings := rfl

@[simp] lemma line_spellings_ofLocal (name : String) :
    Line.spellings (.ofLocal name :: l) = l.spellings := rfl

@[simp] lemma line_spellings_append (k : Line) :
    Line.spellings (k ++ l) = k.spellings ++ l.spellings := List.filterMap_append

@[simp] lemma line_spellings_joined (separator : String) (ls : List Line) :
    (Line.joined separator ls).spellings = ls.flatMap Line.spellings := by
  induction ls with
  | nil => rfl
  | cons l ls ih =>
    cases ls with
    | nil => simp [Line.joined]
    | cons k ls => simp [Line.joined, ih]

@[simp] lemma line_spellings_flatMap {α : Type} (as : List α) (f : α → Line) :
    Line.spellings (as.flatMap f) = as.flatMap fun a => (f a).spellings :=
  List.filterMap_flatMap

@[simp] lemma spellings_nothing : Code.nothing.spellings = [] := rfl

@[simp] lemma spellings_blank : Code.blank.spellings = [] := rfl

@[simp] lemma spellings_doc (text : Option String) : (Code.doc text).spellings = [] := rfl

@[simp] lemma spellings_line : (Code.line l).spellings = l.spellings := List.append_nil _

@[simp] lemma spellings_arm : (Code.arm l).spellings = l.spellings := List.append_nil _

@[simp] lemma spellings_append : (a ++ b).spellings = a.spellings ++ b.spellings :=
  List.flatMap_append

@[simp] lemma spellings_all (codes : List Code) :
    (Code.all codes).spellings = codes.flatMap Code.spellings := by
  induction codes with
  | nil => rfl
  | cons code codes ih =>
    rw [List.flatMap_cons, ← ih]
    exact spellings_append code (Code.all codes)

@[simp] lemma spellings_texts (lines : List String) : (Code.texts lines).spellings = [] := by
  simp [Code.texts]

@[simp] lemma spellings_braces :
    (Code.braces l b).spellings = l.spellings ++ b.spellings := by
  have hlines : (Code.braces l b).lines = l :: (b.lines ++ [[.text "\x7d"]]) := rfl
  unfold Code.spellings
  rw [hlines, List.flatMap_cons, List.flatMap_append]
  exact congrArg (l.spellings ++ ·) (List.append_nil _)

@[simp] lemma spellings_hanging (close : Option Line) :
    (Code.hanging l b close).spellings =
      l.spellings ++ b.spellings ++ close.toList.flatMap Line.spellings := by
  have hlines : (Code.hanging l b close).lines = l :: (b.lines ++ close.toList) := rfl
  unfold Code.spellings
  rw [hlines, List.flatMap_cons, List.flatMap_append, List.append_assoc]

end Spellings

/-! ### Types in the code of models -/

section Models

variable {s : ModelScope} {here : Location} {f : Field} {m : Model} {code : Code}

lemma attributeCode_spellings (t : Spelling) (ident : String) :
    (ModelScope.attributeCode (ModelScope.fieldAttributes f ident t)).spellings = [] := by
  unfold ModelScope.attributeCode ModelScope.fieldAttributes
  split <;> split <;> split <;> rfl

lemma fieldCode_spellings (h : s.fieldCode m.name here f = .ok code) :
    ∃ t, s.fieldSpelling m.name here f = .ok t ∧ code.spellings = [t] := by
  obtain ⟨t, ht, hcode⟩ := bind_eq_ok_iff.1 h
  cases hcode
  exact ⟨t, ht, by simp [attributeCode_spellings]⟩

lemma itemCode_spellings (h : s.itemCode m.name here f = .ok code) :
    ∃ t, s.fieldSpelling m.name here f = .ok t ∧ code.spellings = [t] := by
  obtain ⟨t, ht, hcode⟩ := bind_eq_ok_iff.1 h
  cases hcode
  exact ⟨t, ht, by simp⟩

lemma forall₂_spellings {g : Field → Except Fault Code} {R : Field → Spelling → Prop}
    (hg : ∀ f code, g f = .ok code → ∃ t, R f t ∧ code.spellings = [t]) {fields : List Field}
    {codes : List Code} (h : fields.mapM g = .ok codes) :
    List.Forall₂ R fields (Code.all codes).spellings := by
  rw [spellings_all]
  refine (mapM_eq_ok_iff.1 h).rec .nil fun hfirst _ ih => ?_
  obtain ⟨t, ht, hcode⟩ := hg _ _ hfirst
  rw [List.flatMap_cons, hcode]
  exact .cons ht ih

lemma enumCode_spellings (values : List EnumValue) : (s.enumCode m values).spellings = [] := by
  simp [ModelScope.enumCode, ModelScope.enumTextCode, ModelScope.valueCode, Code.texts]

/-- The types that the code of a model spells are those of its fields, in order. -/
lemma modelCode_spellings (h : s.modelCode here m = .ok code) :
    List.Forall₂ (fun f t => s.fieldSpelling m.name (here.child m.name) f = .ok t)
      m.parts code.spellings := by
  unfold ModelScope.modelCode at h
  unfold Model.parts
  cases hkind : m.kind with
  | object fields =>
    rw [hkind] at h
    obtain ⟨body, hbody, hcode⟩ := bind_eq_ok_iff.1 h
    cases hcode
    change List.Forall₂ _ _ (Code.spellings (.doc _ ++ .line _ ++ .braces _ _))
    rw [spellings_append, spellings_braces]
    exact forall₂_spellings (fun f code => fieldCode_spellings) hbody
  | oneOf items discriminator =>
    rw [hkind] at h
    obtain ⟨body, hbody, hcode⟩ := bind_eq_ok_iff.1 h
    cases hcode
    change List.Forall₂ _ _ (Code.spellings (.doc _ ++ .line _ ++ _ ++ .braces _ _))
    rw [spellings_append, spellings_append, spellings_braces]
    cases discriminator <;> exact forall₂_spellings (fun f code => itemCode_spellings) hbody
  | enum values =>
    rw [hkind] at h
    cases h
    rw [enumCode_spellings]
    exact .nil

end Models

end ApiCodegen.Proofs
