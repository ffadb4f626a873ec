import ApiCodegen.Proofs.FunctionNames
import Mathlib.Data.List.Induction

/-!
# Grouping of operations by path

Operations come one after the other and join the group of their path, or found it. What holds of the
groups after any number of operations is `GroupedByPath`: the next operation keeps it, whichever of
the two it does. The calls that make a router therefore attach every operation once, to its own path
and behind the filter of its own method.
-/

namespace ApiCodegen.Proofs

/-- The path that an operation is served at. -/
def routePath (urlPrefix : String) (s : Signature) : String :=
  urlPrefix ++ s.operation.endpoint.url

/-- The paths that operations are served at. -/
def routePaths (urlPrefix : String) (sigs : List Signature) : List String :=
  sigs.map (routePath urlPrefix)

/-- The groups are those of the operations: one for each path, in the order in which the paths first
occur, and with the operations of the path in the order of all operations. -/
structure GroupedByPath (urlPrefix : String) (sigs : List Signature) (groups : List RouteGroup) :
    Prop where
  complete : ∀ path, path ∈ groups.map (·.path) ↔ path ∈ routePaths urlPrefix sigs
  order : (groups.map (·.path)).Pairwise fun p q =>
    (routePaths urlPrefix sigs).idxOf p < (routePaths urlPrefix sigs).idxOf q
  members : ∀ g ∈ groups, g.signatures = sigs.filter fun s => routePath urlPrefix s = g.path

/-! ### One operation more -/

section Insertion

variable {urlPrefix path : String} {s : Signature} {sigs : List Signature}
  {groups : List RouteGroup}

/-- A group with another operation, if it is the group of a path. -/
def joinedBy (path : String) (s : Signature) (g : RouteGroup) : RouteGroup :=
  if g.path = path then { g with signatures := g.signatures ++ [s] } else g

lemma path_joinedBy (g : RouteGroup) : (joinedBy path s g).path = g.path := by
  unfold joinedBy
  split
  · rfl
  · rfl

lemma insert_of_notMem (h : path ∉ groups.map (·.path)) :
    RouteGroup.insert path s groups = groups ++ [⟨path, [s]⟩] := by
  induction groups with
  | nil => rfl
  | cons g groups ih =>
    rw [List.map_cons, List.mem_cons, not_or] at h
    rw [RouteGroup.insert, if_neg (Ne.symm h.1), ih h.2, List.cons_append]

lemma insert_of_mem (hnodup : (groups.map (·.path)).Nodup) (h : path ∈ groups.map (·.path)) :
    RouteGroup.insert path s groups = groups.map (joinedBy path s) := by
  induction groups with
  | nil => cases h
  | cons g groups ih =>
    rw [List.map_cons, List.nodup_cons] at hnodup
    rw [RouteGroup.insert, List.map_cons, joinedBy]
    by_cases hpath : g.path = path
    · have hother : ∀ k ∈ groups, joinedBy path s k = k := by
        intro k hk
        refine if_neg fun hsame => hnodup.1 ?_
        rw [hpath, ← hsame]
        exact List.mem_map_of_mem hk
      rw [if_pos hpath, if_pos hpath, List.map_congr_left hother, List.map_id']
    · have hmem : path ∈ groups.map (·.path) := (List.mem_cons.1 h).resolve_left (Ne.symm hpath)
      rw [if_neg hpath, if_neg hpath, ih hnodup.2 hmem]

lemma GroupedByPath.nodup (h : GroupedByPath urlPrefix sigs groups) :
    (groups.map (·.path)).Nodup := by
  refine h.order.imp fun {p q} hlt heq => ?_
  rw [heq] at hlt
  exact Nat.lt_irrefl _ hlt

lemma routePaths_append (sigs : List Signature) (s : Signature) :
    routePaths urlPrefix (sigs ++ [s]) = routePaths urlPrefix sigs ++ [routePath urlPrefix s] :=
  List.map_append

lemma GroupedByPath.order_append (h : GroupedByPath urlPrefix sigs groups) (s : Signature) :
    (groups.map (·.path)).Pairwise fun p q =>
      (routePaths urlPrefix (sigs ++ [s])).idxOf p <
        (routePaths urlPrefix (sigs ++ [s])).idxOf q := by
  refine h.order.imp_of_mem fun {p q} hp hq hlt => ?_
  rw [routePaths_append, List.idxOf_append_of_mem ((h.complete p).1 hp),
    List.idxOf_append_of_mem ((h.complete q).1 hq)]
  exact hlt

lemma filter_concat (path : String) : (sigs ++ [s]).filter (fun s => routePath urlPrefix s = path) =
    sigs.filter (fun s => routePath urlPrefix s = path) ++
      if routePath urlPrefix s = path then [s] else [] := by
  rw [List.filter_append, List.filter_singleton]
  by_cases hpath : routePath urlPrefix s = path
  · rw [if_pos hpath, decide_eq_true hpath]
    rfl
  · rw [if_neg hpath, decide_eq_false hpath]
    rfl

/-- An operation joins the group of its path. -/
lemma GroupedByPath.join (h : GroupedByPath urlPrefix sigs groups)
    (hmem : routePath urlPrefix s ∈ groups.map (·.path)) :
    GroupedByPath urlPrefix (sigs ++ [s]) (groups.map (joinedBy (routePath urlPrefix s) s)) := by
  have hpaths : (groups.map (joinedBy (routePath urlPrefix s) s)).map (·.path) =
      groups.map (·.path) := by
    rw [List.map_map]
    exact List.map_congr_left fun g _ => path_joinedBy g
  refine ⟨fun path => ?_, ?_, ?_⟩
  · rw [hpaths, h.complete, routePaths_append, List.mem_append, List.mem_singleton]
    refine ⟨Or.inl, fun hpath => hpath.elim id fun hnew => ?_⟩
    rw [hnew]
    exact (h.complete _).1 hmem
  · rw [hpaths]
    exact h.order_append s
  · rw [List.forall_mem_map]
    intro g hg
    rw [path_joinedBy, filter_concat, ← h.members g hg, joinedBy]
    by_cases hpath : g.path = routePath urlPrefix s
    · rw [if_pos hpath, if_pos hpath.symm]
    · rw [if_neg hpath, if_neg (Ne.symm hpath), List.append_nil]

/-- An operation at a new path founds the last group. -/
lemma GroupedByPath.found (h : GroupedByPath urlPrefix sigs groups)
    (hnew : routePath urlPrefix s ∉ groups.map (·.path)) :
    GroupedByPath urlPrefix (sigs ++ [s]) (groups ++ [⟨routePath urlPrefix s, [s]⟩]) := by
  have hunmet : routePath urlPrefix s ∉ routePaths urlPrefix sigs := fun hmem =>
    hnew ((h.complete _).2 hmem)
  refine ⟨fun path => ?_, ?_, ?_⟩
  · rw [routePaths_append, List.map_append, List.mem_append, List.mem_append, h.complete]
    rfl
  · rw [List.map_append, List.pairwise_append]
    refine ⟨h.order_append s, List.pairwise_singleton _ _, fun p hp q hq => ?_⟩
    have hpath := (h.complete p).1 hp
    rw [List.mem_singleton.1 hq, routePaths_append, List.idxOf_append_of_mem hpath,
      List.idxOf_append_of_notMem hunmet]
    exact Nat.lt_add_right _ (List.idxOf_lt_length_of_mem hpath)
  · rw [List.forall_mem_append, List.forall_mem_singleton]
    constructor
    · intro g hg
      have hother : routePath urlPrefix s ≠ g.path := fun hsame =>
        hnew (hsame ▸ List.mem_map_of_mem hg)
      rw [filter_concat, if_neg hother, List.append_nil, h.members g hg]
    · have hnone : sigs.filter (fun k => routePath urlPrefix k = routePath urlPrefix s) = [] := by
        rw [List.filter_eq_nil_iff]
        intro k hk hsame
        rw [decide_eq_true_eq] at hsame
        exact hunmet (hsame ▸ List.mem_map_of_mem hk)
      rw [filter_concat, hnone, if_pos rfl, List.nil_append]

lemma GroupedByPath.insert (h : GroupedByPath urlPrefix sigs groups) (s : Signature) :
    GroupedByPath urlPrefix (sigs ++ [s])
      (RouteGroup.insert (routePath urlPrefix s) s groups) := by
  by_cases hmem : routePath urlPrefix s ∈ groups.map (·.path)
  · rw [insert_of_mem h.nodup hmem]
    exact h.join hmem
  · rw [insert_of_notMem hmem]
    exact h.found hmem

end Insertion

/-! ### All operations -/

theorem groupedByPath_ofSignatures (urlPrefix : String) (sigs : List Signature) :
    GroupedByPath urlPrefix sigs (RouteGroup.ofSignatures urlPrefix sigs) := by
  induction sigs using List.reverseRecOn with
  | nil => exact ⟨fun _ => Iff.rfl, .nil, fun _ hg => nomatch hg⟩
  | append_singleton sigs s ih =>
    unfold RouteGroup.ofSignatures at ih ⊢
    rw [List.foldl_append]
    exact ih.insert s

lemma GroupedByPath.signatures_ne_nil {urlPrefix : String} {sigs : List Signature}
    {groups : List RouteGroup} (h : GroupedByPath urlPrefix sigs groups) {g : RouteGroup}
    (hg : g ∈ groups) : g.signatures ≠ [] := by
  obtain ⟨s, hs, hpath⟩ := List.mem_map.1 ((h.complete g.path).1 (List.mem_map_of_mem hg))
  refine List.ne_nil_of_mem (a := s) ?_
  rw [h.members g hg, List.mem_filter]
  exact ⟨hs, decide_eq_true hpath⟩

/-- Groups of operations as a router takes them. -/
structure RouteGrouping (urlPrefix : String) (sigs : List Signature) (groups : List RouteGroup) :
    Prop extends GroupedByPath urlPrefix sigs groups where
  distinct : (groups.map (·.path)).Nodup
  nonempty : ∀ g ∈ groups, g.signatures ≠ []

/-! ### What a router serves -/

/-- A function behind the filter of a method, at a path. -/
structure Attachment where
  path : String
  method : HttpMethod
  handler : String
deriving DecidableEq, Repr

/-- The functions on a line, each with the method that it is filtered by. -/
def handlersOf : Line → List (HttpMethod × String)
  | [] => []
  | p :: rest =>
    match methodOf? p, rest with
    | some m, .item name :: _ => (m, name) :: handlersOf rest
    | _, _ => handlersOf rest

/-- What a call on a router attaches. -/
def attachmentsOf : Line → List Attachment
  | .text ".route(" :: .quoted path :: rest => (handlersOf rest).map fun h => ⟨path, h.1, h.2⟩
  | _ => []

/-- What the calls that make a router attach. -/
def attached (code : Code) : List Attachment := (routerCalls code.lines).flatMap attachmentsOf

/-- An operation at a path. -/
def attachment (path : String) (s : Signature) : Attachment :=
  ⟨path, s.operation.endpoint.method, s.fnName⟩

lemma handlersOf_cons {p : Piece} (h : methodOf? p = none) (rest : Line) :
    handlersOf (p :: rest) = handlersOf rest := by
  conv_lhs => unfold handlersOf
  rw [h]

lemma handlersOf_filter {p : Piece} {m : HttpMethod} (h : methodOf? p = some m) (name : String)
    (rest : Line) : handlersOf (p :: .item name :: rest) = (m, name) :: handlersOf rest := by
  have hitem : handlersOf (.item name :: rest) = handlersOf rest := handlersOf_cons rfl rest
  rw [← hitem]
  conv_lhs => unfold handlersOf
  rw [h]

lemma handlersOf_methodLine (s : Signature) (rest : Line) :
    handlersOf (RouteGroup.methodLine s ++ rest) =
      (s.operation.endpoint.method, s.fnName) :: handlersOf rest := by
  have hline : RouteGroup.methodLine s ++ rest =
      .text ("on(MethodFilter::" ++ s.operation.endpoint.method.name ++ ", ") :: .item s.fnName ::
        .text ")" :: rest := rfl
  rw [hline, handlersOf_filter (methodOf?_filter _), handlersOf_cons (by decide)]

lemma handlersOf_joined (sigs : List Signature) :
    handlersOf (Line.joined "." (sigs.map RouteGroup.methodLine) ++ [.text ")"]) =
      sigs.map fun s => (s.operation.endpoint.method, s.fnName) := by
  induction sigs with
  | nil => rfl
  | cons s sigs ih =>
    cases sigs with
    | nil =>
      have hsingle := handlersOf_methodLine s [.text ")"]
      rwa [handlersOf_cons (by decide)] at hsingle
    | cons next sigs =>
      have hjoined :
          Line.joined "." ((s :: next :: sigs).map RouteGroup.methodLine) ++ [.text ")"] =
          RouteGroup.methodLine s ++ (.text "." ::
            (Line.joined "." ((next :: sigs).map RouteGroup.methodLine) ++ [.text ")"])) := by
        simp [Line.joined]
      rw [hjoined, handlersOf_methodLine, handlersOf_cons (by decide), ih]
      rfl

lemma attachmentsOf_code (g : RouteGroup) :
    g.code.lines.flatMap attachmentsOf = g.signatures.map (attachment g.path) := by
  have hline : g.code.lines.flatMap attachmentsOf = (handlersOf (.text ", " :: (Line.joined "."
      (g.signatures.map RouteGroup.methodLine) ++ [.text ")"]))).map fun h => ⟨g.path, h.1, h.2⟩ :=
    List.append_nil _
  rw [hline, handlersOf_cons (by decide), handlersOf_joined, List.map_map]
  rfl

/-- What the routing of an API serves. -/
structure ServesOnce (e : Emission) (v : Version) (a : Api) (sigs : List Signature)
    (routing : Code) : Prop where
  /-- The calls follow the groups. -/
  calls : attached routing =
    (RouteGroup.ofSignatures v.urlPrefix sigs).flatMap fun g => g.signatures.map (attachment g.path)
  /-- Every operation is attached once, and nothing else is. -/
  once : (attached routing).Perm (sigs.map fun s => attachment (routePath v.urlPrefix s) s)
  /-- What is attached stands beside the function that makes the router. -/
  handlers : functions routing = "routes" :: sigs.map (·.fnName)

lemma servesOnce_routing (e : Emission) (v : Version) (a : Api) (sigs : List Signature) :
    ServesOnce e v a sigs (e.routerCode v a sigs ++
      .all ((e.handlers v a sigs).map fun h => .blank ++ h.code)) := by
  have hcalls : attached (e.routerCode v a sigs ++
      .all ((e.handlers v a sigs).map fun h => .blank ++ h.code)) =
      (RouteGroup.ofSignatures v.urlPrefix sigs).flatMap fun g =>
        g.signatures.map (attachment g.path) := by
    unfold attached
    rw [lines_append, routerCalls_routerCode, List.flatMap_append, List.flatMap_assoc,
      List.flatMap_congr fun g _ => attachmentsOf_code g]
    exact List.append_nil _
  refine ⟨hcalls, ?_, ?_⟩
  · have hgroups : (grouped (RouteGroup.ofSignatures v.urlPrefix sigs)).map
        (fun x => attachment x.1 x.2) =
        (RouteGroup.ofSignatures v.urlPrefix sigs).flatMap fun g =>
          g.signatures.map (attachment g.path) := by
      unfold grouped
      rw [List.map_flatMap]
      exact List.flatMap_congr fun g _ => List.map_map
    have hgrouped := (grouped_ofSignatures v.urlPrefix sigs).map fun x => attachment x.1 x.2
    rw [hcalls, ← hgroups]
    exact hgrouped.trans (.of_eq List.map_map)
  · rw [functions_append, functions_router, functions_handlers]
    rfl

/-- The operations of an API are grouped by their paths, in the order in which these first occur,
and every operation is served once, at its own path, for its own method and by its own handler. -/
theorem operations_grouped_by_path :
    (∀ (urlPrefix : String) (sigs : List Signature),
      RouteGrouping urlPrefix sigs (RouteGroup.ofSignatures urlPrefix sigs)) ∧
      ∀ (e : Emission) (v : Version) (a : Api) (sigs : List Signature),
        ServesOnce e v a sigs (e.routerCode v a sigs ++
          .all ((e.handlers v a sigs).map fun h => .blank ++ h.code)) := by
  constructor
  · intro urlPrefix sigs
    have hgrouped := groupedByPath_ofSignatures urlPrefix sigs
    exact ⟨hgrouped, hgrouped.nodup, fun g hg => hgrouped.signatures_ne_nil hg⟩
  · exact servesOnce_routing

end ApiCodegen.Proofs
