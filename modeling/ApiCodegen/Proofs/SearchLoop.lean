import ApiCodegen.Proofs.Containment

/-!
# The search as a loop

The search of a graph as a loop keeps a stack of models to go to and the models that it has been at.
A model may be on the stack several times, and each round takes one off: one that was met before is
dropped, and one that is new puts the targets of its edges on the stack, unless the goal is among
them. A round makes the stack shorter or uses up the edges of a model, so that the loop ends; until
then what follows a model that was met is never the goal and is met or waits on the stack. Hence the
loop answers what `ModelGraph.reaches` does.
-/

namespace ApiCodegen.Proofs

/-- The models that are still to be gone to, the next one first, and those that were met. -/
structure Search where
  stack : List String
  seen : List String

/-- Puts the targets of edges on a stack, one after the other; there is no stack if one of them is
the goal. -/
def pushTargets (plainOnly : Bool) (goal : String) : List Edge → List String → Option (List String)
  | [], stack => some stack
  | e :: edges, stack =>
    if plainOnly && e.nullable then pushTargets plainOnly goal edges stack
    else if e.target = goal then none
    else pushTargets plainOnly goal edges (e.target :: stack)

/-- A round of the loop ends it with an answer, or goes on with another search. -/
def searchRound (g : ModelGraph) (plainOnly : Bool) (goal : String) : Search → Bool ⊕ Search
  | ⟨[], _⟩ => .inl false
  | ⟨current :: stack, seen⟩ =>
    if seen.contains current then .inr ⟨stack, seen⟩
    else match pushTargets plainOnly goal (g.edges current) stack with
      | none => .inl true
      | some stack => .inr ⟨stack, current :: seen⟩

/-- The loop ends after a number of rounds, with an answer. -/
inductive Ends (g : ModelGraph) (plainOnly : Bool) (goal : String) : Search → Nat → Bool → Prop
  | done {s : Search} {answer : Bool} (h : searchRound g plainOnly goal s = .inl answer) :
      Ends g plainOnly goal s 1 answer
  | next {s t : Search} {rounds : Nat} {answer : Bool}
      (h : searchRound g plainOnly goal s = .inr t) (rest : Ends g plainOnly goal t rounds answer) :
      Ends g plainOnly goal s (rounds + 1) answer

/-! ### A round -/

section Round

variable {g : ModelGraph} {plainOnly : Bool} {start goal : String} {s t : Search} {answer : Bool}

lemma pushTargets_eq (edges : List Edge) (stack : List String) :
    pushTargets plainOnly goal edges stack =
      let targets := (edges.filter fun e => !(plainOnly && e.nullable)).map (·.target)
      if goal ∈ targets then none else some (targets.reverse ++ stack) := by
  induction edges generalizing stack with
  | nil => rfl
  | cons e edges ih =>
    rw [pushTargets]
    by_cases hskip : (plainOnly && e.nullable) = true
    · rw [if_pos hskip, List.filter_cons_of_neg (by simpa using hskip)]
      exact ih stack
    · rw [if_neg hskip, List.filter_cons_of_pos (by rwa [Bool.not_eq_true', ← Bool.not_eq_true])]
      by_cases htarget : e.target = goal
      · simp [htarget]
      · rw [if_neg htarget, ih]
        simp only [List.map_cons, List.mem_cons, Ne.symm htarget, false_or, List.reverse_cons,
          List.append_assoc, List.singleton_append]

lemma pushTargets_edges (model : String) (stack : List String) :
    pushTargets plainOnly goal (g.edges model) stack =
      if goal ∈ g.targets plainOnly model then none
      else some ((g.targets plainOnly model).reverse ++ stack) :=
  pushTargets_eq (g.edges model) stack

/-- What a round does with a search. -/
inductive RoundOf (g : ModelGraph) (plainOnly : Bool) (goal : String) :
    Search → Bool ⊕ Search → Prop
  | empty {seen : List String} : RoundOf g plainOnly goal ⟨[], seen⟩ (.inl false)
  | again {current : String} {stack seen : List String} (hseen : current ∈ seen) :
      RoundOf g plainOnly goal ⟨current :: stack, seen⟩ (.inr ⟨stack, seen⟩)
  | found {current : String} {stack seen : List String} (hseen : current ∉ seen)
      (hgoal : HasEdge g plainOnly current goal) :
      RoundOf g plainOnly goal ⟨current :: stack, seen⟩ (.inl true)
  | opened {current : String} {stack seen : List String} (hseen : current ∉ seen)
      (hgoal : ¬HasEdge g plainOnly current goal) :
      RoundOf g plainOnly goal ⟨current :: stack, seen⟩
        (.inr ⟨(g.targets plainOnly current).reverse ++ stack, current :: seen⟩)

variable (g plainOnly goal) in
lemma roundOf_searchRound (s : Search) :
    RoundOf g plainOnly goal s (searchRound g plainOnly goal s) := by
  obtain ⟨stack, seen⟩ := s
  cases stack with
  | nil => exact .empty
  | cons current stack =>
    rw [searchRound]
    by_cases hseen : current ∈ seen
    · rw [if_pos (List.contains_iff_mem.2 hseen)]
      exact .again hseen
    · rw [if_neg fun h => hseen (List.contains_iff_mem.1 h), pushTargets_edges]
      by_cases hgoal : goal ∈ g.targets plainOnly current
      · rw [if_pos hgoal]
        exact .found hseen (mem_targets_iff.1 hgoal)
      · rw [if_neg hgoal]
        exact .opened hseen fun hedge => hgoal (mem_targets_iff.2 hedge)

/-- What holds of a search before each round. -/
structure Underway (g : ModelGraph) (plainOnly : Bool) (start goal : String) (s : Search) :
    Prop where
  started : start ∈ s.stack ∨ start ∈ s.seen
  reached : ∀ m, m ∈ s.stack ∨ m ∈ s.seen → Relation.ReflTransGen (HasEdge g plainOnly) start m
  closed : ∀ a ∈ s.seen, ∀ b, HasEdge g plainOnly a b → b ≠ goal ∧ (b ∈ s.stack ∨ b ∈ s.seen)

variable (g plainOnly start goal) in
lemma underway_start : Underway g plainOnly start goal ⟨[start], []⟩ where
  started := .inl List.mem_cons_self
  reached m hm := by
    rcases hm with hm | hm
    · rw [List.mem_singleton.1 hm]
    · cases hm
  closed a ha := by cases ha

/-- What is on the stack or was met stays so: a model that is dropped was met before. -/
lemma RoundOf.stays (h : RoundOf g plainOnly goal s (.inr t)) {m : String}
    (hm : m ∈ s.stack ∨ m ∈ s.seen) : m ∈ t.stack ∨ m ∈ t.seen := by
  cases h with
  | again hseen =>
    rcases hm with hm | hm
    · rcases List.mem_cons.1 hm with rfl | hm
      · exact .inr hseen
      · exact .inl hm
    · exact .inr hm
  | opened hseen hgoal =>
    rcases hm with hm | hm
    · rcases List.mem_cons.1 hm with rfl | hm
      · exact .inr List.mem_cons_self
      · exact .inl (List.mem_append_right _ hm)
    · exact .inr (List.mem_cons_of_mem _ hm)

lemma RoundOf.underway (h : RoundOf g plainOnly goal s (.inr t))
    (hs : Underway g plainOnly start goal s) : Underway g plainOnly start goal t where
  started := h.stays hs.started
  reached m hm := by
    cases h with
    | again _ =>
      apply hs.reached
      exact hm.imp_left (List.mem_cons_of_mem _)
    | @opened current stack seen _ _ =>
      have hcurrent := hs.reached current (.inl List.mem_cons_self)
      rcases hm with hm | hm
      · rcases List.mem_append.1 hm with hm | hm
        · exact hcurrent.tail (mem_targets_iff.1 (List.mem_reverse.1 hm))
        · exact hs.reached m (.inl (List.mem_cons_of_mem _ hm))
      · rcases List.mem_cons.1 hm with rfl | hm
        · exact hcurrent
        · exact hs.reached m (.inr hm)
  closed a ha b hab := by
    have hbefore : a ∈ s.seen → b ≠ goal ∧ (b ∈ t.stack ∨ b ∈ t.seen) := by
      intro hseen
      obtain ⟨hne, hb⟩ := hs.closed a hseen b hab
      exact ⟨hne, h.stays hb⟩
    cases h with
    | again _ => exact hbefore ha
    | opened _ hgoal =>
      rcases List.mem_cons.1 ha with rfl | ha
      · have hb : b ∈ (g.targets plainOnly a).reverse :=
          List.mem_reverse.2 (mem_targets_iff.2 hab)
        refine ⟨?_, .inl (List.mem_append_left _ hb)⟩
        rintro rfl
        exact hgoal hab
      · exact hbefore ha

lemma RoundOf.answer_iff (h : RoundOf g plainOnly goal s (.inl answer))
    (hs : Underway g plainOnly start goal s) : answer = true ↔ Path g plainOnly start goal := by
  cases h with
  | @empty seen =>
    have hmet : ∀ m, Relation.ReflTransGen (HasEdge g plainOnly) start m → m ∈ seen := by
      intro m hm
      induction hm with
      | refl => exact hs.started.resolve_left List.not_mem_nil
      | tail _ hedge ih => exact (hs.closed _ ih _ hedge).2.resolve_left List.not_mem_nil
    refine iff_of_false Bool.false_ne_true fun hpath => ?_
    obtain ⟨m, hm, hedge⟩ := Relation.TransGen.tail'_iff.1 hpath
    exact (hs.closed m (hmet m hm) goal hedge).1 rfl
  | found hseen hgoal =>
    have hcurrent := hs.reached _ (.inl List.mem_cons_self)
    exact iff_of_true rfl (Relation.TransGen.tail' hcurrent hgoal)

end Round

/-! ### The number of rounds -/

section Rounds

variable {g : ModelGraph} {plainOnly : Bool} {start goal : String} {s t : Search}

/-- The number of edges in a list of nodes that leave a model that was not met. -/
def edgesLeft (seen : List String) : List (String × List Edge) → Nat
  | [] => 0
  | (model, edges) :: nodes => (if model ∈ seen then 0 else edges.length) + edgesLeft seen nodes

lemma edgesLeft_cons_le (current : String) (seen : List String)
    (nodes : List (String × List Edge)) :
    edgesLeft (current :: seen) nodes ≤ edgesLeft seen nodes := by
  induction nodes with
  | nil => exact Nat.le_refl 0
  | cons node nodes ih =>
    obtain ⟨model, edges⟩ := node
    rw [edgesLeft, edgesLeft]
    by_cases hmodel : model ∈ seen
    · rw [if_pos hmodel, if_pos (List.mem_cons_of_mem _ hmodel)]
      omega
    · rw [if_neg hmodel]
      split <;> omega

/-- With a model its edges are used up. -/
lemma edges_add_edgesLeft_le {current : String} {seen : List String} (hseen : current ∉ seen)
    (nodes : List (String × List Edge)) :
    ((nodes.lookup current).getD []).length + edgesLeft (current :: seen) nodes ≤
      edgesLeft seen nodes := by
  induction nodes with
  | nil => exact Nat.le_refl 0
  | cons node nodes ih =>
    obtain ⟨model, edges⟩ := node
    rw [lookup_cons_eq_ite, edgesLeft, edgesLeft]
    by_cases hmodel : current = model
    · subst hmodel
      have hrest := edgesLeft_cons_le current seen nodes
      rw [if_pos rfl, if_pos List.mem_cons_self, if_neg hseen, Option.getD_some]
      omega
    · have hiff : model ∈ current :: seen ↔ model ∈ seen := by
        rw [List.mem_cons]
        exact or_iff_right (Ne.symm hmodel)
      rw [if_neg hmodel]
      simp only [hiff]
      omega

/-- A bound on the rounds that are left. -/
def Search.weight (g : ModelGraph) (s : Search) : Nat :=
  s.stack.length + edgesLeft s.seen g.nodes

lemma RoundOf.weight_lt (h : RoundOf g plainOnly goal s (.inr t)) : t.weight g < s.weight g := by
  cases h with
  | again hseen => exact Nat.add_lt_add_right (Nat.lt_succ_self _) _
  | @opened current stack seen hseen hgoal =>
    have hused : (g.edges current).length + edgesLeft (current :: seen) g.nodes ≤
        edgesLeft seen g.nodes := edges_add_edgesLeft_le hseen g.nodes
    have htargets : (g.targets plainOnly current).length ≤ (g.edges current).length := by
      unfold ModelGraph.targets
      rw [List.length_map]
      exact List.length_filter_le _ _
    unfold Search.weight
    dsimp only
    rw [List.length_append, List.length_reverse, List.length_cons]
    omega

/-- A run: every round leaves less, so that the loop ends, and what holds before the last round
gives the answer. -/
lemma Underway.ends (hs : Underway g plainOnly start goal s) : ∃ rounds ≤ s.weight g + 1, ∃ answer,
    Ends g plainOnly goal s rounds answer ∧ (answer = true ↔ Path g plainOnly start goal) := by
  induction hweight : s.weight g using Nat.strongRecOn generalizing s with
  | ind weight ih =>
    have hround := roundOf_searchRound g plainOnly goal s
    cases hcase : searchRound g plainOnly goal s with
    | inl answer =>
      rw [hcase] at hround
      exact ⟨1, by omega, answer, .done hcase, hround.answer_iff hs⟩
    | inr t =>
      rw [hcase] at hround
      have hlt := hround.weight_lt
      obtain ⟨rounds, hrounds, answer, hends, hiff⟩ :=
        ih (t.weight g) (by omega) (hround.underway hs) rfl
      exact ⟨rounds + 1, by omega, answer, .next hcase hends, hiff⟩

end Rounds

/-! ### The declared fields -/

section Declared

variable {models before after : List Model} {m : Model} {plainOnly : Bool} {a b k : String}
  {out : Model → List Edge}

/-- The last model of a name has a field of the type of another model of the list. -/
def HoldsInField (models : List Model) (plainOnly : Bool) (a b : String) : Prop :=
  ∃ before m after, models = before ++ m :: after ∧ m.name = a ∧ a ∉ after.map (·.name) ∧
    b ∈ models.map (·.name) ∧
    ∃ f ∈ m.parts, f.type = .named b ∨ plainOnly = false ∧ f.type = .nullable (.named b)

lemma exists_last (hk : k ∈ models.map (·.name)) : ∃ before m after,
    models = before ++ m :: after ∧ m.name = k ∧ k ∉ after.map (·.name) := by
  induction models with
  | nil => cases hk
  | cons m models ih =>
    by_cases hrest : k ∈ models.map (·.name)
    · obtain ⟨before, last, after, rfl, hname, hlast⟩ := ih hrest
      exact ⟨m :: before, last, after, rfl, hname, hlast⟩
    · rcases List.mem_cons.1 hk with rfl | hk
      · exact ⟨[], m, models, rfl, rfl, hrest⟩
      · exact absurd hk hrest

lemma edges_of_last (hlast : m.name ∉ after.map (·.name)) :
    (ModelGraph.ofModels (before ++ m :: after)).edges m.name =
      m.parts.filterMap (·.edge? ((before ++ m :: after).map (·.name))) := by
  unfold ModelGraph.edges ModelGraph.ofModels
  dsimp only
  rw [List.foldl_append, List.foldl_cons, lookup_foldl_of_not_mem hlast, lookup_insertNode,
    if_pos rfl, Option.getD_some]

lemma heldByValue_eq_some_iff {type : TypeExpr} {nullable : Bool} :
    heldByValue type = some (b, nullable) ↔
      type = (if nullable then .nullable (.named b) else .named b) := by
  constructor
  · intro h
    unfold heldByValue at h
    split at h
    · cases h
      rfl
    · cases h
      rfl
    · cases h
  · rintro rfl
    cases nullable <;> rfl

lemma edge?_eq_some_iff {names : List String} {f : Field} {e : Edge} :
    f.edge? names = some e ↔
      heldByValue f.type = some (e.target, e.nullable) ∧ e.target ∈ names ∧ e.field = f.name := by
  unfold Field.edge?
  cases hheld : heldByValue f.type with
  | none => simp
  | some held =>
    obtain ⟨target, nullable⟩ := held
    obtain ⟨e_target, e_field, e_nullable⟩ := e
    simp only [List.contains_iff_mem, Option.ite_none_right_eq_some, Option.some.injEq,
      Edge.mk.injEq, Prod.mk.injEq]
    constructor
    · rintro ⟨hmem, rfl, rfl, rfl⟩
      exact ⟨⟨rfl, rfl⟩, hmem, rfl⟩
    · rintro ⟨⟨rfl, rfl⟩, hmem, rfl⟩
      exact ⟨hmem, rfl, rfl, rfl⟩

/-- The edges of the graph are the fields that hold a model by value. -/
lemma hasEdge_ofModels_iff :
    HasEdge (.ofModels models) plainOnly a b ↔ HoldsInField models plainOnly a b := by
  constructor
  · rintro ⟨e, he, hplain, rfl⟩
    have ha : a ∈ models.map (·.name) := by
      by_contra hnone
      unfold ModelGraph.edges ModelGraph.ofModels at he
      dsimp only at he
      rw [lookup_foldl_of_not_mem hnone] at he
      cases he
    obtain ⟨before, m, after, rfl, rfl, hlast⟩ := exists_last ha
    rw [edges_of_last hlast, List.mem_filterMap] at he
    obtain ⟨f, hf, hedge⟩ := he
    obtain ⟨hheld, hmem, -⟩ := edge?_eq_some_iff.1 hedge
    refine ⟨before, m, after, rfl, rfl, hlast, hmem, f, hf, ?_⟩
    have htype := heldByValue_eq_some_iff.1 hheld
    cases hnullable : e.nullable with
    | false => exact .inl (by rwa [hnullable] at htype)
    | true =>
      have hall : plainOnly = false := by
        by_contra hne
        rw [hplain (Bool.not_eq_false _ ▸ hne)] at hnullable
        cases hnullable
      exact .inr ⟨hall, by rwa [hnullable] at htype⟩
  · rintro ⟨before, m, after, rfl, rfl, hlast, hmem, f, hf, htype⟩
    unfold HasEdge
    rw [edges_of_last hlast]
    rcases htype with htype | ⟨rfl, htype⟩
    · refine ⟨⟨b, f.name, false⟩, List.mem_filterMap.2 ⟨f, hf, ?_⟩, fun _ => rfl, rfl⟩
      exact edge?_eq_some_iff.2 ⟨heldByValue_eq_some_iff.2 htype, hmem, rfl⟩
    · refine ⟨⟨b, f.name, true⟩, List.mem_filterMap.2 ⟨f, hf, ?_⟩, nofun, rfl⟩
      exact edge?_eq_some_iff.2 ⟨heldByValue_eq_some_iff.2 htype, hmem, rfl⟩

lemma edgesLeft_insertNode_le (name : String) (edges : List Edge)
    (nodes : List (String × List Edge)) :
    edgesLeft [] (insertNode name edges nodes) ≤ edges.length + edgesLeft [] nodes := by
  induction nodes with
  | nil => simp [insertNode, edgesLeft]
  | cons node nodes ih =>
    obtain ⟨model, old⟩ := node
    rw [insertNode]
    split
    · simp [edgesLeft]
    · split
      · simp [edgesLeft]
      · simp only [edgesLeft, List.not_mem_nil, if_false]
        omega

variable (models) in
lemma edgesLeft_foldl_le (hout : ∀ m, (out m).length ≤ m.parts.length)
    (nodes : List (String × List Edge)) :
    edgesLeft [] (models.foldl (fun nodes m => insertNode m.name (out m) nodes) nodes) ≤
      (models.flatMap (·.parts)).length + edgesLeft [] nodes := by
  induction models generalizing nodes with
  | nil => exact Nat.le_add_left _ _
  | cons m models ih =>
    have hfirst := edgesLeft_insertNode_le m.name (out m) nodes
    have hrest := ih (insertNode m.name (out m) nodes)
    have hm := hout m
    rw [List.foldl_cons, List.flatMap_cons, List.length_append]
    omega

end Declared

/-- The loop ends for all models and any two names, with the answer of the search, after at most two
rounds more than the models have fields. The answer is whether a path of at least one field leads
from the one to the other, and over fields that are not nullable if only these count. -/
theorem search_loop_exact (models : List Model) (start goal : String) (plainOnly : Bool) :
    ∃ rounds ≤ (models.flatMap (·.parts)).length + 2,
      Ends (.ofModels models) plainOnly goal ⟨[start], []⟩ rounds
        ((ModelGraph.ofModels models).reaches start goal plainOnly) ∧
      ((ModelGraph.ofModels models).reaches start goal plainOnly = true ↔
        Relation.TransGen (HoldsInField models plainOnly) start goal) := by
  have hweight : Search.weight (.ofModels models) ⟨[start], []⟩ ≤
      (models.flatMap (·.parts)).length + 1 := by
    have hedges := edgesLeft_foldl_le models
      (fun m => List.length_filterMap_le (·.edge? (models.map (·.name))) m.parts) []
    unfold Search.weight ModelGraph.ofModels
    dsimp only [List.length_singleton]
    rw [edgesLeft] at hedges
    omega
  obtain ⟨rounds, hrounds, answer, hends, hanswer⟩ :=
    (underway_start (.ofModels models) plainOnly start goal).ends
  have hsame : answer = (ModelGraph.ofModels models).reaches start goal plainOnly := by
    rw [Bool.eq_iff_iff, hanswer, reaches_eq_true_iff]
  have hfields : HasEdge (.ofModels models) plainOnly = HoldsInField models plainOnly := by
    funext a b
    exact propext hasEdge_ofModels_iff
  refine ⟨rounds, by omega, hsame ▸ hends, ?_⟩
  rw [reaches_eq_true_iff, Path, hfields]

end ApiCodegen.Proofs
