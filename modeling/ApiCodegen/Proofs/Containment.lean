import ApiCodegen.Proofs.Emission
import ApiCodegen.Proofs.Entries
import ApiCodegen.Proofs.Spellings

/-!
# Models of finite size

A model contains another by value if the type that its code writes for a field reaches the other
without a pointer. Such a field is an edge of the graph of models, unless options are stacked on the
name: these are no edges, and they are written as they are. On a cycle, a nullable edge is boxed, so
that a cycle by value has plain edges only, and validation admits none of those.
-/

namespace ApiCodegen.Proofs

/-! ### The edges of a model -/

section Edges

variable {k : String} {models : List Model} {out : Model → List Edge}

lemma lookup_insertNode (name k : String) (edges : List Edge) (nodes : List (String × List Edge)) :
    (insertNode name edges nodes).lookup k = if k = name then some edges else nodes.lookup k := by
  induction nodes with
  | nil => rw [insertNode, lookup_cons_eq_ite]
  | cons node nodes ih =>
    obtain ⟨n, old⟩ := node
    rw [insertNode]
    by_cases hlt : name < n
    · rw [if_pos hlt, lookup_cons_eq_ite]
    · rw [if_neg hlt]
      by_cases hname : name = n
      · subst hname
        rw [if_pos rfl, lookup_cons_eq_ite, lookup_cons_eq_ite]
        by_cases hk : k = name
        · rw [if_pos hk, if_pos hk]
        · rw [if_neg hk, if_neg hk, if_neg hk]
      · rw [if_neg hname, lookup_cons_eq_ite, lookup_cons_eq_ite, ih]
        by_cases hk : k = n
        · have hne : k ≠ name := fun h => hname (h.symm.trans hk)
          rw [if_pos hk, if_neg hne, if_pos hk]
        · rw [if_neg hk, if_neg hk]

lemma lookup_foldl_of_not_mem (hk : k ∉ models.map (·.name)) (nodes : List (String × List Edge)) :
    (models.foldl (fun nodes m => insertNode m.name (out m) nodes) nodes).lookup k =
      nodes.lookup k := by
  induction models generalizing nodes with
  | nil => rfl
  | cons m models ih =>
    rw [List.map_cons, List.mem_cons, not_or] at hk
    rw [List.foldl_cons, ih hk.2, lookup_insertNode, if_neg hk.1]

lemma lookup_foldl_of_mem (hnames : (models.map (·.name)).Nodup) {m : Model} (hm : m ∈ models)
    (nodes : List (String × List Edge)) :
    (models.foldl (fun nodes m => insertNode m.name (out m) nodes) nodes).lookup m.name =
      some (out m) := by
  induction models generalizing nodes with
  | nil => cases hm
  | cons first models ih =>
    rw [List.map_cons, List.nodup_cons] at hnames
    rw [List.foldl_cons]
    rcases List.mem_cons.1 hm with rfl | hm
    · rw [lookup_foldl_of_not_mem hnames.1, lookup_insertNode, if_pos rfl]
    · exact ih hnames.2 hm _

/-- Under names without repetition every model has the edges of its own parts. -/
lemma edges_ofModels (hnames : (models.map (·.name)).Nodup) {m : Model} (hm : m ∈ models) :
    (ModelGraph.ofModels models).edges m.name =
      m.parts.filterMap (·.edge? (models.map (·.name))) := by
  unfold ModelGraph.edges ModelGraph.ofModels
  dsimp only
  rw [lookup_foldl_of_mem hnames hm]
  rfl

end Edges

/-- In a cycle, a path leads back from the end of each step to its start. -/
lemma transGen_cycle {α : Type} {R : α → α → Prop} {a : α} (h : Relation.TransGen R a a) :
    Relation.TransGen (fun x y => R x y ∧ Relation.ReflTransGen R y x) a a := by
  have hpath : ∀ y, Relation.TransGen R a y → Relation.ReflTransGen R y a →
      Relation.TransGen (fun x y => R x y ∧ Relation.ReflTransGen R y x) a y := by
    intro y hy
    induction hy with
    | single hstep => exact fun hback => .single ⟨hstep, hback⟩
    | tail hbefore hstep ih =>
      intro hback
      exact (ih (.head hstep hback)).tail ⟨hstep, hback.trans hbefore.to_reflTransGen⟩
  exact hpath a h .refl

/-! ### Containment -/

/-- What the declarations of the models of a scope depend on. -/
abbrev scopeOf (scope : Scope) (naming : Naming) (paths : TypePaths) (models : List Model) :
    ModelScope := ⟨scope, .ofModels models, naming, paths⟩

/-- A type holds the type of its innermost name without a pointer: options only are in between. -/
def heldDirectly : Spelling → Bool
  | .named _ _ => true
  | .option inner => heldDirectly inner
  | .primitive _ | .unit | .text | .vec _ | .map _ | .boxed _ | .borrowed _ => false

/-- The code of the model `a` writes a type for the field `f` that holds the model `b` directly. -/
def ContainsThrough (s : ModelScope) (here : Location) (models : List Model) (a : String)
    (f : Field) (b : String) : Prop :=
  ∃ m ∈ models, m.name = a ∧ f.type.leaf = b ∧ b ∈ models.map (·.name) ∧
    ∃ code t, s.modelCode here m = .ok code ∧ (f, t) ∈ m.parts.zip code.spellings ∧
      heldDirectly t = true

def Contains (s : ModelScope) (here : Location) (models : List Model) (a b : String) : Prop :=
  ∃ f, ContainsThrough s here models a f b

/-- A name under nullables only. -/
def nullsOfName : TypeExpr → Bool
  | .named _ => true
  | .nullable inner => nullsOfName inner
  | .array _ | .map _ => false

/-- A name under more than one nullable. -/
def stacked : TypeExpr → Bool
  | .nullable (.nullable inner) => nullsOfName inner
  | _ => false

section Containment

variable {scope : Scope} {naming : Naming} {paths : TypePaths} {here : Location}
  {models : List Model} {m : Model} {f : Field}

lemma nullsOfName_of_heldDirectly {t : TypeExpr} {type : ResolvedType}
    (hres : scope.resolve here t = .ok type)
    (hheld : heldDirectly (type.spell naming paths) = true) : nullsOfName t = true := by
  induction t generalizing type with
  | named name => rfl
  | nullable inner ih =>
    obtain ⟨inner', hinner, rfl⟩ := map_eq_ok_iff.1 hres
    exact ih hinner hheld
  | array inner _ =>
    obtain ⟨inner', -, rfl⟩ := map_eq_ok_iff.1 hres
    cases hheld
  | map inner _ =>
    obtain ⟨inner', -, rfl⟩ := map_eq_ok_iff.1 hres
    cases hheld

/-- A field that is written to hold its name directly has nothing but nullables on the name, and no
box if there are any. -/
lemma field_of_heldDirectly {s : ModelScope} {model : String} {t : Spelling}
    (ht : s.fieldSpelling model here f = .ok t) (hheld : heldDirectly t = true) :
    nullsOfName f.type = true ∧
      ∀ inner, f.type = .nullable inner → s.graph.needsBox model f.name = false := by
  obtain ⟨type, htype, hspell⟩ := bind_eq_ok_iff.1 ht
  have hplain : heldDirectly (type.spell s.naming s.paths) = true ∧
      ∀ inner, type = .option inner → s.graph.needsBox model f.name = false := by
    cases type with
    | option inner =>
      dsimp only at hspell
      by_cases hbox : s.graph.needsBox model f.name = true
      · rw [if_pos hbox] at hspell
        cases hspell
        cases hheld
      · rw [if_neg hbox] at hspell
        cases hspell
        exact ⟨hheld, fun _ _ => Bool.eq_false_iff.2 hbox⟩
    | primitive _ | model _ _ _ | «local» _ | vec _ | map _ =>
      cases hspell
      exact ⟨hheld, fun inner h => nomatch h⟩
  refine ⟨nullsOfName_of_heldDirectly htype hplain.1, fun inner hinner => ?_⟩
  rw [hinner] at htype
  obtain ⟨inner', -, hoption⟩ := map_eq_ok_iff.1 htype
  exact hplain.2 inner' hoption.symm

/-- Unless nullables are stacked, a field through which a model contains another is an edge, and a
nullable one closes no cycle. -/
lemma edge_of_containsThrough {a b : String}
    (hnames : (models.map (·.name)).Nodup)
    (h : ContainsThrough (scopeOf scope naming paths models) here models a f b)
    (hstacked : stacked f.type = false) :
    ∃ e ∈ (ModelGraph.ofModels models).edges a, e.target = b ∧
      (e.nullable = true → ¬Relation.ReflTransGen (HasEdge (.ofModels models) false) b a) := by
  obtain ⟨m, hm, rfl, hleaf, hb, code, t, hcode, hzip, hheld⟩ := h
  have ht := (List.forall₂_iff_zip.1 (modelCode_spellings hcode)).2 hzip
  obtain ⟨hnulls, hbox⟩ := field_of_heldDirectly ht hheld
  have hedge : ∀ nullable, heldByValue f.type = some (b, nullable) →
      ⟨b, f.name, nullable⟩ ∈ (ModelGraph.ofModels models).edges m.name := by
    intro nullable hvalue
    rw [edges_ofModels hnames hm]
    refine List.mem_filterMap.2 ⟨f, (List.of_mem_zip hzip).1, ?_⟩
    unfold Field.edge?
    rw [hvalue]
    exact if_pos (List.contains_iff_mem.2 hb)
  match htype : f.type with
  | .named name =>
    rw [htype] at hleaf hedge
    cases hleaf
    exact ⟨_, hedge false rfl, rfl, fun h => nomatch h⟩
  | .nullable (.named name) =>
    rw [htype] at hleaf hedge
    cases hleaf
    refine ⟨_, hedge true rfl, rfl, fun _ hback => ?_⟩
    have hneeds : (ModelGraph.ofModels models).needsBox m.name f.name = true :=
      needsBox_eq_true_iff.2 ⟨_, hedge true rfl, rfl, rfl, hback⟩
    exact absurd (hneeds.symm.trans (hbox _ htype)) (by decide)
  | .nullable (.nullable inner) =>
    rw [htype] at hnulls hstacked
    exact absurd (hnulls.symm.trans hstacked) (by decide)
  | .nullable (.array _) | .nullable (.map _) | .array _ | .map _ =>
    rw [htype] at hnulls
    cases hnulls

variable (scope naming paths here) in
/-- On a cycle a path leads back, and a nullable edge on it would be boxed. -/
lemma not_transGen_unstacked (hnames : (models.map (·.name)).Nodup)
    (hacyclic : ∀ a, ¬Path (.ofModels models) true a a) (a : String) :
    ¬Relation.TransGen (fun a b => ∃ f, stacked f.type = false ∧
      ContainsThrough (scopeOf scope naming paths models) here models a f b) a a := by
  intro hcycle
  have hedges : (fun a b => ∃ f, stacked f.type = false ∧
      ContainsThrough (scopeOf scope naming paths models) here models a f b) ≤
      HasEdge (.ofModels models) false := by
    rintro a b ⟨f, hstacked, hthrough⟩
    obtain ⟨e, he, htarget, -⟩ := edge_of_containsThrough hnames hthrough hstacked
    exact ⟨e, he, (nomatch ·), htarget⟩
  refine hacyclic a (Relation.TransGen.mono ?_ _ _ (transGen_cycle hcycle))
  rintro a b ⟨⟨f, hstacked, hthrough⟩, hback⟩
  obtain ⟨e, he, htarget, hnullable⟩ := edge_of_containsThrough hnames hthrough hstacked
  have hback : Relation.ReflTransGen (HasEdge (.ofModels models) false) b a :=
    Relation.ReflTransGen.mono hedges _ _ hback
  have hplain : e.nullable = false := Bool.eq_false_iff.2 fun h => hnullable h hback
  exact ⟨e, he, fun _ => hplain, htarget⟩

end Containment

/-- Code of validated models: the types that it spells are those of the fields, in order. No type
contains itself by value through fields without stacked nullables, and so none does if there are
only such fields. -/
theorem validated_models_finite {scope : Scope} {models : List Model} {there : Location}
    (hnames : (models.map (·.name)).Nodup)
    (h : Validation.checkModels scope there models = .ok ()) (naming : Naming) (paths : TypePaths)
    (here : Location) :
    ∃ codes, modelsCode scope naming paths here models =
        .ok (.all (codes.map fun code => code ++ .blank)) ∧
      List.Forall₂ (fun m code =>
        (scopeOf scope naming paths models).modelCode here m = .ok code ∧
        List.Forall₂ (fun f t => (scopeOf scope naming paths models).fieldSpelling m.name
          (here.child m.name) f = .ok t) m.parts code.spellings) models codes ∧
      (∀ a, ¬Relation.TransGen (fun a b => ∃ f, stacked f.type = false ∧
        ContainsThrough (scopeOf scope naming paths models) here models a f b) a a) ∧
      ((∀ m ∈ models, ∀ f ∈ m.parts, stacked f.type = false) →
        ∀ a, ¬Relation.TransGen (Contains (scopeOf scope naming paths models) here models) a a) := by
  have hrules : ModelsRules scope models := checkModels_eq_ok_iff.1 h
  have hunstacked := not_transGen_unstacked scope naming paths here hnames hrules.acyclic
  obtain ⟨code, hcode⟩ : Succeeds (modelsCode scope naming paths here models) :=
    succeeds_modelsCode hrules
  obtain ⟨codes, hcodes, heq⟩ := bind_eq_ok_iff.1 hcode
  refine ⟨codes, ?_, ?_, hunstacked, fun hstacked a hcycle => ?_⟩
  · rw [hcode, ← heq]
    rfl
  · exact (mapM_eq_ok_iff.1 hcodes).imp fun m code hm => ⟨hm, modelCode_spellings hm⟩
  · refine hunstacked a (Relation.TransGen.mono ?_ _ _ hcycle)
    rintro a b ⟨f, hthrough⟩
    obtain ⟨m, hm, -, -, -, code, t, -, hzip, -⟩ := id hthrough
    exact ⟨f, hstacked m hm f (List.of_mem_zip hzip).1, hthrough⟩

/-- The models of the shop: a cycle through a nullable field, which is boxed. -/
theorem validated_models_finite_shop :
    (shopVersion.models.map (·.name)).Nodup ∧
      Validation.checkModels (.ofVersion shopVersion shop.httpErrors) .root shopVersion.models =
        .ok () ∧
      (scopeOf (.ofVersion shopVersion shop.httpErrors) .standard .inModels
        shopVersion.models).fieldSpelling "Order" .root
          (.ofType "next" (.nullable (.named "Order"))) =
        .ok (.option (.boxed (.named "" "Order"))) ∧
      ∀ a, ¬Relation.TransGen (Contains (scopeOf (.ofVersion shopVersion shop.httpErrors) .standard
        .inModels shopVersion.models) .root shopVersion.models) a a := by
  have hnames : (shopVersion.models.map (·.name)).Nodup := by decide
  have hcheck : Validation.checkModels (.ofVersion shopVersion shop.httpErrors) .root
      shopVersion.models = .ok () := by decide +kernel
  obtain ⟨codes, -, -, -, hfinite⟩ :=
    validated_models_finite hnames hcheck .standard .inModels .root
  exact ⟨hnames, hcheck, by decide +kernel, hfinite (by decide)⟩

/-- A record that holds itself under two nullables. -/
def selfStacked : Model :=
  ⟨"A", .object [.ofType "a" (.nullable (.nullable (.named "A")))], none⟩

/-- The record is accepted, and its type contains itself: nullables that are stacked are no edge of
the graph. -/
theorem selfStacked_contains_self :
    Validation.checkModels ⟨[selfStacked], ⟨[], []⟩⟩ .root [selfStacked] = .ok () ∧
      Contains (scopeOf ⟨[selfStacked], ⟨[], []⟩⟩ .standard .inModels [selfStacked]) .root
        [selfStacked] "A" "A" := by
  have hcheck : Validation.checkModels ⟨[selfStacked], ⟨[], []⟩⟩ .root [selfStacked] = .ok () := by
    decide +kernel
  have hrules := checkModels_eq_ok_iff.1 hcheck
  obtain ⟨code, hcode⟩ : Succeeds ((scopeOf ⟨[selfStacked], ⟨[], []⟩⟩ .standard .inModels
      [selfStacked]).modelCode .root selfStacked) :=
    succeeds_modelCode (hrules.each selfStacked List.mem_cons_self)
  have hspell : (scopeOf ⟨[selfStacked], ⟨[], []⟩⟩ .standard .inModels [selfStacked]).fieldSpelling
      "A" (Location.root.child "A") (.ofType "a" (.nullable (.nullable (.named "A")))) =
      .ok (.option (.option (.named "" "A"))) := by decide +kernel
  refine ⟨hcheck, .ofType "a" (.nullable (.nullable (.named "A"))), selfStacked,
    List.mem_cons_self, rfl, rfl, List.mem_cons_self, code, .option (.option (.named "" "A")),
    hcode, ?_, rfl⟩
  obtain ⟨t, rest, ht, hrest, hcodes⟩ :=
    List.forall₂_cons_left_iff.1 (modelCode_spellings hcode)
  cases ht.symm.trans hspell
  rw [hcodes]
  exact List.mem_cons_self

end ApiCodegen.Proofs
