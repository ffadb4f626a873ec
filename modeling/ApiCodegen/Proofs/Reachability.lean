import ApiCodegen.Types.ModelGraph
import Mathlib.Logic.Relation
import Mathlib.Tactic.Common

/-!
# Reachability in the graph of models

`HasEdge` is the relation between models that the search of a `ModelGraph` follows, and paths are
its transitive closure. The search visits each model once and takes it out of the models that are
left, so that what it finds is closed under edges only as far as models are left. With all models
left at the start this is enough: the search finds a goal exactly if a path of at least one edge
leads to it.
-/

namespace ApiCodegen.Proofs

/-- An edge from one model to another; only edges that are not nullable count under `plainOnly`. -/
def HasEdge (g : ModelGraph) (plainOnly : Bool) (a b : String) : Prop :=
  ∃ e ∈ g.edges a, (plainOnly = true → e.nullable = false) ∧ e.target = b

/-- A path of at least one edge. -/
def Path (g : ModelGraph) (plainOnly : Bool) : String → String → Prop :=
  Relation.TransGen (HasEdge g plainOnly)

lemma mem_targets_iff {g : ModelGraph} {plainOnly : Bool} {a b : String} :
    b ∈ g.targets plainOnly a ↔ HasEdge g plainOnly a b := by
  simp only [ModelGraph.targets, HasEdge, List.mem_map, List.mem_filter, and_assoc]
  cases plainOnly <;> simp

lemma HasEdge.mem_sources {g : ModelGraph} {plainOnly : Bool} {a b : String}
    (h : HasEdge g plainOnly a b) : a ∈ g.sources := by
  obtain ⟨e, he, -, -⟩ := h
  unfold ModelGraph.edges at he
  cases hl : g.nodes.lookup a with
  | none => simp [hl] at he
  | some out =>
    obtain ⟨before, after, hnodes, -⟩ := List.lookup_eq_some_iff.1 hl
    simp [ModelGraph.sources, hnodes]

/-! ### What a search comes across -/

section Search

variable {next : String → List String}

lemma searched_sound {rest stack : List String} {m : String}
    (h : m ∈ ModelGraph.searched next rest stack) :
    ∃ start ∈ stack, Relation.ReflTransGen (fun a b => b ∈ next a) start m := by
  fun_induction ModelGraph.searched next rest stack with
  | case1 => cases h
  | case2 rest stack model met ih =>
    have hmodel : model ∈ stack := List.mem_of_find?_eq_some met
    rcases List.mem_cons.1 h with rfl | h
    · exact ⟨m, hmodel, .refl⟩
    · obtain ⟨start, hstart, hpath⟩ := ih h
      rcases List.mem_append.1 hstart with hnext | hold
      · exact ⟨model, hmodel, .head hnext hpath⟩
      · exact ⟨start, hold, hpath⟩

lemma searched_start {rest stack : List String} {m : String} (hs : m ∈ stack) (hr : m ∈ rest) :
    m ∈ ModelGraph.searched next rest stack := by
  fun_induction ModelGraph.searched next rest stack with
  | case1 rest stack met =>
    have hnone := List.find?_eq_none.1 met m hs
    exact absurd (List.contains_iff_mem.2 hr) hnone
  | case2 rest stack model met ih =>
    by_cases heq : m = model
    · exact heq ▸ List.mem_cons_self
    · have hleft : m ∈ rest.erase model := (List.mem_erase_of_ne heq).2 hr
      exact List.mem_cons_of_mem _ (ih (List.mem_append_right _ hs) hleft)

/-- What a search comes across is closed under edges to models that are left. -/
lemma searched_closed {rest stack : List String} {a b : String}
    (ha : a ∈ ModelGraph.searched next rest stack) (hab : b ∈ next a) (hb : b ∈ rest) :
    b ∈ ModelGraph.searched next rest stack := by
  fun_induction ModelGraph.searched next rest stack with
  | case1 => cases ha
  | case2 rest stack model met ih =>
    by_cases heq : b = model
    · exact heq ▸ List.mem_cons_self
    · have hleft : b ∈ rest.erase model := (List.mem_erase_of_ne heq).2 hb
      refine List.mem_cons_of_mem _ ?_
      rcases List.mem_cons.1 ha with rfl | ha
      · exact searched_start (List.mem_append_left _ hab) hleft
      · exact ih ha hleft

end Search

/-! ### The search of a graph -/

/-- A search meets the ends of all paths, for edges leave models only. -/
lemma mem_searched_of_path {g : ModelGraph} {plainOnly : Bool} {start m : String}
    (h : Relation.ReflTransGen (HasEdge g plainOnly) start m) (hm : m ∈ g.sources) :
    m ∈ ModelGraph.searched (g.targets plainOnly) g.sources [start] := by
  induction h with
  | refl => exact searched_start List.mem_cons_self hm
  | tail _ hedge ih =>
    exact searched_closed (ih hedge.mem_sources) (mem_targets_iff.2 hedge) hm

/-- The search of a graph is exact. -/
theorem reaches_eq_true_iff {g : ModelGraph} {start goal : String} {plainOnly : Bool} :
    g.reaches start goal plainOnly = true ↔ Path g plainOnly start goal := by
  unfold ModelGraph.reaches Path
  rw [List.any_eq_true, Relation.TransGen.tail'_iff]
  constructor
  · rintro ⟨m, hm, hgoal⟩
    obtain ⟨s, hs, hpath⟩ := searched_sound hm
    rw [List.mem_singleton.1 hs] at hpath
    have hedges : (fun a b => b ∈ g.targets plainOnly a) ≤ HasEdge g plainOnly :=
      fun a b hab => mem_targets_iff.1 hab
    refine ⟨m, Relation.ReflTransGen.mono hedges _ _ hpath, ?_⟩
    exact mem_targets_iff.1 (List.contains_iff_mem.1 hgoal)
  · rintro ⟨m, hpath, hedge⟩
    refine ⟨m, mem_searched_of_path hpath hedge.mem_sources, ?_⟩
    exact List.contains_iff_mem.2 (mem_targets_iff.2 hedge)

lemma Path.mem_sources {g : ModelGraph} {plainOnly : Bool} {a b : String}
    (h : Path g plainOnly a b) : a ∈ g.sources := by
  obtain ⟨m, hedge, -⟩ := Relation.TransGen.head'_iff.1 h
  exact hedge.mem_sources

/-- No cycle is found exactly if there is none. -/
theorem plainCycle?_eq_none_iff {g : ModelGraph} :
    g.plainCycle? = none ↔ ∀ m, ¬Path g true m m := by
  unfold ModelGraph.plainCycle?
  rw [List.find?_eq_none]
  constructor
  · intro h m hpath
    exact h m hpath.mem_sources (reaches_eq_true_iff.2 hpath)
  · intro h m _ hreach
    exact h m (reaches_eq_true_iff.1 hreach)

/-- A field is boxed exactly if a path, possibly empty, leads back from one of its nullable edges. -/
theorem needsBox_eq_true_iff {g : ModelGraph} {m f : String} :
    g.needsBox m f = true ↔ ∃ e ∈ g.edges m, e.nullable = true ∧ e.field = f ∧
      Relation.ReflTransGen (HasEdge g false) e.target m := by
  have hcloses : ∀ e : Edge, (e.target == m || g.reaches e.target m false) = true ↔
      Relation.ReflTransGen (HasEdge g false) e.target m := by
    intro e
    rw [Bool.or_eq_true, beq_iff_eq, reaches_eq_true_iff, Relation.reflTransGen_iff_eq_or_transGen]
    exact or_congr_left eq_comm
  simp only [ModelGraph.needsBox, List.any_eq_true, Bool.and_eq_true, hcloses, beq_iff_eq, and_assoc]

end ApiCodegen.Proofs
