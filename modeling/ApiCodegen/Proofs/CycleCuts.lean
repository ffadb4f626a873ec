import ApiCodegen.Proofs.Containment
import Mathlib.Data.String.Basic
import Mathlib.Order.Bounds.Basic

/-!
# Boxes cut the cycles of models

A walk lists the edges that it takes, each with the model that the edge leaves, and a cycle is a
walk of at least one edge that ends where it starts. The search of a graph knows paths only; an edge
lies on a cycle exactly if a path, possibly empty, leads from its target back to its start. Hence a
graph without some of its edges is acyclic exactly if every cycle of the whole graph takes one of
them, and to find the cycles of plain edges is to search the graph that they make up.

A cycle that survives the boxes takes no nullable edge, as a nullable edge of it is boxed for lying
on it. Boxes are decided by the name of a field and so may cut further edges, which does no harm.
-/

namespace ApiCodegen.Proofs

/-! ### Walks and cycles -/

/-- A walk from one model to another. -/
inductive Walk (g : ModelGraph) : String → List (String × Edge) → String → Prop
  | nil (a : String) : Walk g a [] a
  | cons {a b : String} {e : Edge} {steps : List (String × Edge)} (he : e ∈ g.edges a)
      (rest : Walk g e.target steps b) : Walk g a ((a, e) :: steps) b

/-- A walk of at least one edge that ends where it starts. -/
def IsCycle (g : ModelGraph) (steps : List (String × Edge)) : Prop :=
  steps ≠ [] ∧ ∃ a, Walk g a steps a

def Acyclic (g : ModelGraph) : Prop :=
  ∀ steps, ¬IsCycle g steps

/-- The edge leaves the model on a cycle. -/
def OnCycle (g : ModelGraph) (a : String) (e : Edge) : Prop :=
  ∃ steps, IsCycle g steps ∧ (a, e) ∈ steps

section Walk

variable {g : ModelGraph} {a b : String} {e : Edge} {steps : List (String × Edge)}

lemma walk_cons_iff {m : String} :
    Walk g a ((m, e) :: steps) b ↔ m = a ∧ e ∈ g.edges a ∧ Walk g e.target steps b := by
  constructor
  · rintro (_ | ⟨he, rest⟩)
    exact ⟨rfl, he, rest⟩
  · rintro ⟨rfl, he, rest⟩
    exact .cons he rest

lemma walk_append_iff {before after : List (String × Edge)} :
    Walk g a (before ++ after) b ↔ ∃ m, Walk g a before m ∧ Walk g m after b := by
  induction before generalizing a with
  | nil =>
    constructor
    · exact fun h => ⟨a, .nil a, h⟩
    · rintro ⟨m, _ | _, h⟩
      exact h
  | cons step before ih =>
    obtain ⟨m, e⟩ := step
    simp only [List.cons_append, walk_cons_iff, ih]
    constructor
    · rintro ⟨rfl, he, m', hbefore, hafter⟩
      exact ⟨m', ⟨rfl, he, hbefore⟩, hafter⟩
    · rintro ⟨m', ⟨rfl, he, hbefore⟩, hafter⟩
      exact ⟨rfl, he, m', hbefore, hafter⟩

lemma Walk.reflTransGen (h : Walk g a steps b) : Relation.ReflTransGen (HasEdge g false) a b := by
  induction h with
  | nil a => exact .refl
  | cons he _ ih => exact .head ⟨_, he, nofun, rfl⟩ ih

lemma exists_walk_of_reflTransGen (h : Relation.ReflTransGen (HasEdge g false) a b) :
    ∃ steps, Walk g a steps b := by
  induction h using Relation.ReflTransGen.head_induction_on with
  | refl => exact ⟨[], .nil b⟩
  | @head a m hedge _ ih =>
    obtain ⟨e, he, -, rfl⟩ := hedge
    obtain ⟨steps, rest⟩ := ih
    exact ⟨(a, e) :: steps, .cons he rest⟩

/-- An edge lies on a cycle exactly if a path leads back from its target. -/
theorem onCycle_iff :
    OnCycle g a e ↔ e ∈ g.edges a ∧ Relation.ReflTransGen (HasEdge g false) e.target a := by
  constructor
  · rintro ⟨steps, ⟨-, start, hwalk⟩, hstep⟩
    obtain ⟨before, after, rfl⟩ := List.append_of_mem hstep
    obtain ⟨m, hbefore, hrest⟩ := walk_append_iff.1 hwalk
    obtain ⟨rfl, he, hafter⟩ := walk_cons_iff.1 hrest
    exact ⟨he, hafter.reflTransGen.trans hbefore.reflTransGen⟩
  · rintro ⟨he, hback⟩
    obtain ⟨steps, hwalk⟩ := exists_walk_of_reflTransGen hback
    exact ⟨(a, e) :: steps, ⟨List.cons_ne_nil _ _, a, .cons he hwalk⟩, List.mem_cons_self⟩

lemma path_self_iff_onCycle : Path g false a a ↔ ∃ e, OnCycle g a e := by
  simp only [onCycle_iff]
  refine Relation.TransGen.head'_iff.trans ⟨?_, ?_⟩
  · rintro ⟨b, ⟨e, he, -, rfl⟩, hback⟩
    exact ⟨e, he, hback⟩
  · rintro ⟨e, he, hback⟩
    exact ⟨e.target, ⟨e, he, nofun, rfl⟩, hback⟩

theorem acyclic_iff : Acyclic g ↔ ∀ a, ¬Path g false a a := by
  simp only [path_self_iff_onCycle]
  constructor
  · rintro h a ⟨e, steps, hcycle, -⟩
    exact h steps hcycle
  · intro h steps hcycle
    obtain ⟨⟨a, e⟩, hstep⟩ := List.exists_mem_of_ne_nil steps hcycle.1
    exact h a ⟨e, steps, hcycle, hstep⟩

end Walk

/-! ### Graphs with fewer edges -/

/-- The graph with those edges only that are kept. -/
def keep (kept : String → Edge → Bool) (g : ModelGraph) : ModelGraph :=
  ⟨g.nodes.map fun node => (node.1, node.2.filter (kept node.1))⟩

/-- The graph of the edges that are not nullable. -/
def plainPart : ModelGraph → ModelGraph :=
  keep fun _ e => !e.nullable

/-- The graph without the nullable edges that are boxed. -/
def unboxedPart (g : ModelGraph) : ModelGraph :=
  keep (fun m e => !(e.nullable && g.needsBox m e.field)) g

section Keep

variable {g : ModelGraph} {kept : String → Edge → Bool} {a b : String}
  {steps : List (String × Edge)}

@[simp] lemma edges_keep (m : String) : (keep kept g).edges m = (g.edges m).filter (kept m) := by
  obtain ⟨nodes⟩ := g
  unfold ModelGraph.edges keep
  dsimp only
  induction nodes with
  | nil => rfl
  | cons node nodes ih =>
    rw [List.map_cons, lookup_cons_eq_ite, lookup_cons_eq_ite]
    by_cases hm : m = node.1
    · rw [if_pos hm, if_pos hm, hm]
      rfl
    · rw [if_neg hm, if_neg hm, ih]

lemma walk_keep_iff :
    Walk (keep kept g) a steps b ↔
      Walk g a steps b ∧ ∀ step ∈ steps, kept step.1 step.2 = true := by
  induction steps generalizing a with
  | nil =>
    constructor
    · rintro (_ | _)
      exact ⟨.nil _, nofun⟩
    · rintro ⟨_ | _, -⟩
      exact .nil _
  | cons step steps ih =>
    obtain ⟨m, e⟩ := step
    simp only [walk_cons_iff, edges_keep, List.mem_filter, ih, List.forall_mem_cons]
    constructor
    · rintro ⟨rfl, ⟨he, hkept⟩, hwalk, hrest⟩
      exact ⟨⟨rfl, he, hwalk⟩, hkept, hrest⟩
    · rintro ⟨⟨rfl, he, hwalk⟩, hkept, hrest⟩
      exact ⟨rfl, ⟨he, hkept⟩, hwalk, hrest⟩

/-- The cycles of a part of a graph are those of the whole that stay in the part. -/
lemma isCycle_keep_iff :
    IsCycle (keep kept g) steps ↔
      IsCycle g steps ∧ ∀ step ∈ steps, kept step.1 step.2 = true := by
  simp only [IsCycle, walk_keep_iff]
  constructor
  · rintro ⟨hne, a, hwalk, hkept⟩
    exact ⟨⟨hne, a, hwalk⟩, hkept⟩
  · rintro ⟨⟨hne, a, hwalk⟩, hkept⟩
    exact ⟨hne, a, hwalk, hkept⟩

lemma path_plainPart_iff : Path (plainPart g) false a b ↔ Path g true a b := by
  have hedges : HasEdge (plainPart g) false = HasEdge g true := by
    funext a b
    refine propext ⟨?_, ?_⟩
    · rintro ⟨e, he, -, rfl⟩
      obtain ⟨he, hplain⟩ := List.mem_filter.1 (edges_keep a ▸ he)
      exact ⟨e, he, fun _ => by simpa using hplain, rfl⟩
    · rintro ⟨e, he, hplain, rfl⟩
      refine ⟨e, ?_, nofun, rfl⟩
      rw [plainPart, edges_keep]
      exact List.mem_filter.2 ⟨he, by simpa using hplain rfl⟩
  unfold Path
  rw [hedges]

end Keep

/-! ### The boxes -/

section Boxes

variable {g : ModelGraph} {m : String}

/-- A field is boxed exactly if one of its nullable edges lies on a cycle. -/
theorem needsBox_iff_onCycle {f : String} :
    g.needsBox m f = true ↔
      ∃ e ∈ g.edges m, e.nullable = true ∧ e.field = f ∧ OnCycle g m e := by
  rw [needsBox_eq_true_iff]
  refine exists_congr fun e => and_congr_right fun he => ?_
  rw [onCycle_iff, and_iff_right he]

/-- Of a cycle that the boxes leave, all edges are plain. -/
theorem acyclic_unboxedPart (h : Acyclic (plainPart g)) : Acyclic (unboxedPart g) := by
  intro steps hcycle
  obtain ⟨hwhole, hkept⟩ := isCycle_keep_iff.1 hcycle
  refine h steps (isCycle_keep_iff.2 ⟨hwhole, ?_⟩)
  rintro ⟨m, e⟩ hstep
  by_contra hnullable
  replace hnullable : e.nullable = true := by simpa using hnullable
  have hon : OnCycle g m e := ⟨steps, hwhole, hstep⟩
  have hbox : g.needsBox m e.field = true :=
    needsBox_iff_onCycle.2 ⟨e, (onCycle_iff.1 hon).1, hnullable, rfl, hon⟩
  have hnot := hkept (m, e) hstep
  rw [hnullable, hbox] at hnot
  cases hnot

end Boxes

/-! ### The model of a plain cycle that is found -/

/-- The first member of a sorted list with a property is the least one. -/
lemma find?_eq_some_iff_isLeast {α : Type} [LinearOrder α] {l : List α} (hl : l.Pairwise (· < ·))
    {p : α → Bool} {m : α} : l.find? p = some m ↔ IsLeast {k | k ∈ l ∧ p k = true} m := by
  induction l with
  | nil => exact ⟨nofun, fun h => nomatch h.1.1⟩
  | cons first rest ih =>
    obtain ⟨hfirst, hrest⟩ := List.pairwise_cons.1 hl
    cases hp : p first with
    | true =>
      have hleast : IsLeast {k | k ∈ first :: rest ∧ p k = true} first := by
        refine ⟨⟨List.mem_cons_self, hp⟩, ?_⟩
        rintro k ⟨hk, -⟩
        rcases List.mem_cons.1 hk with rfl | hk
        · exact le_rfl
        · exact (hfirst k hk).le
      rw [List.find?_cons_of_pos hp, Option.some_inj]
      exact ⟨fun h => h ▸ hleast, fun h => hleast.unique h⟩
    | false =>
      have hsame : {k | k ∈ first :: rest ∧ p k = true} = {k | k ∈ rest ∧ p k = true} := by
        ext k
        refine and_congr_left fun hk => List.mem_cons.trans (or_iff_right ?_)
        rintro rfl
        exact absurd (hp.symm.trans hk) (by decide)
      rw [List.find?_cons_of_neg (by rw [hp]; decide), ih hrest, hsame]

lemma mem_map_fst_insertNode {name n : String} {out : List Edge}
    {nodes : List (String × List Edge)} (h : n ∈ (insertNode name out nodes).map Prod.fst) :
    n = name ∨ n ∈ nodes.map Prod.fst := by
  induction nodes with
  | nil => exact .inl (List.mem_singleton.1 h)
  | cons node nodes ih =>
    rw [insertNode] at h
    split_ifs at h with hlt heq
    · exact List.mem_cons.1 h
    · exact (List.mem_cons.1 h).imp_right (List.mem_cons_of_mem _)
    · rcases List.mem_cons.1 h with rfl | h
      · exact .inr List.mem_cons_self
      · exact (ih h).imp_right (List.mem_cons_of_mem _)

lemma sorted_insertNode {name : String} {out : List Edge} {nodes : List (String × List Edge)}
    (h : (nodes.map Prod.fst).Pairwise (· < ·)) :
    ((insertNode name out nodes).map Prod.fst).Pairwise (· < ·) := by
  induction nodes with
  | nil => exact List.pairwise_singleton _ _
  | cons node nodes ih =>
    obtain ⟨hnode, hnodes⟩ := List.pairwise_cons.1 h
    rw [insertNode]
    split_ifs with hlt heq
    · refine List.pairwise_cons.2 ⟨?_, h⟩
      intro n hn
      rcases List.mem_cons.1 hn with rfl | hn
      · exact hlt
      · exact hlt.trans (hnode n hn)
    · subst heq
      exact List.pairwise_cons.2 ⟨hnode, hnodes⟩
    · refine List.pairwise_cons.2 ⟨?_, ih hnodes⟩
      intro n hn
      rcases mem_map_fst_insertNode hn with rfl | hn
      · exact lt_of_le_of_ne (not_lt.1 hlt) (Ne.symm heq)
      · exact hnode n hn

lemma sorted_sources (models : List Model) :
    (ModelGraph.ofModels models).sources.Pairwise (· < ·) := by
  have hfold : ∀ (out : Model → List Edge) (nodes : List (String × List Edge)),
      (nodes.map Prod.fst).Pairwise (· < ·) →
      ((models.foldl (fun nodes m => insertNode m.name (out m) nodes) nodes).map
        Prod.fst).Pairwise (· < ·) := by
    intro out
    induction models with
    | nil => exact fun _ h => h
    | cons m models ih => exact fun _ h => ih _ (sorted_insertNode h)
  exact hfold _ [] .nil

/-- The model that a search for plain cycles ends with is the least on one. -/
theorem plainCycle?_eq_some_iff {models : List Model} {m : String} :
    (ModelGraph.ofModels models).plainCycle? = some m ↔
      IsLeast {k | Path (.ofModels models) true k k} m := by
  have hset : {k | k ∈ (ModelGraph.ofModels models).sources ∧
      (ModelGraph.ofModels models).reaches k k true = true} =
      {k | Path (.ofModels models) true k k} := by
    refine Set.ext fun k => ?_
    exact (and_congr_right' reaches_eq_true_iff).trans (and_iff_right_of_imp Path.mem_sources)
  unfold ModelGraph.plainCycle?
  rw [find?_eq_some_iff_isLeast (sorted_sources models), hset]

/-- Over the edges of any models: a field is boxed exactly if one of its nullable edges lies on a
cycle. No plain cycle is found exactly if the plain edges are acyclic, and the model that is found
is otherwise the least that a plain edge leaves on a cycle of plain edges. Once there is no such
cycle, boxes leave none at all. -/
theorem boxes_cut_cycles (models : List Model) :
    (∀ m f, (ModelGraph.ofModels models).needsBox m f = true ↔
      ∃ e ∈ (ModelGraph.ofModels models).edges m,
        e.nullable = true ∧ e.field = f ∧ OnCycle (.ofModels models) m e) ∧
    ((ModelGraph.ofModels models).plainCycle? = none ↔ Acyclic (plainPart (.ofModels models))) ∧
    (∀ m, (ModelGraph.ofModels models).plainCycle? = some m ↔
      IsLeast {k | ∃ e, OnCycle (plainPart (.ofModels models)) k e} m) ∧
    ((ModelGraph.ofModels models).plainCycle? = none →
      Acyclic (unboxedPart (.ofModels models))) := by
  have hnone : (ModelGraph.ofModels models).plainCycle? = none ↔
      Acyclic (plainPart (.ofModels models)) := by
    simp only [plainCycle?_eq_none_iff, acyclic_iff, path_plainPart_iff]
  refine ⟨fun m f => needsBox_iff_onCycle, hnone, fun m => ?_, fun h => ?_⟩
  · simp only [← path_self_iff_onCycle, path_plainPart_iff]
    exact plainCycle?_eq_some_iff
  · exact acyclic_unboxedPart (hnone.1 h)

end ApiCodegen.Proofs
