import ApiCodegen.Proofs.Usage
import Mathlib.Data.List.Lex

/-!
# The order of a walk

A place in a description is the list of positions on the way down to it. A walk that reports all
parts meets the part at every place exactly once, in the lexicographic order of the places: a part
before the parts inside it, and these in the order of their declaration. A walk that reports some
kinds of part meets the same parts and leaves out the others.
-/

namespace ApiCodegen.Proofs

/-! ### Places -/

/-- The parts right inside a part, in the order of declaration. -/
def partsInside : Visit → List Visit
  | .version v => v.apis.map .api ++ v.models.map .model
  | .api a => a.operations.map .operation
  | .operation o =>
    ((o.body.formParams?.getD []).map (.param .form) ++ o.queryParams.map (.param .query) ++
      o.headerParams.map (.param .header) ++ o.endpoint.params.map (.param .url)) ++
    (requestTypes o.body).map .type ++ o.responses.map (.response o)
  | .param _ p => [.type p.type]
  | .response _ r => (responseTypes r.body).map .type
  | .model m => m.parts.map fun f => .type f.type
  | .type (.named _) => []
  | .type (.nullable inner) | .type (.array inner) | .type (.map inner) => [.type inner]

/-- The part at a place inside a part. -/
def partWithin (v : Visit) : List Nat → Option Visit
  | [] => some v
  | i :: place => (partsInside v)[i]?.bind fun inner => partWithin inner place

/-- The part at a place, whose first position is one among the given parts. -/
def partAt (parts : List Visit) : List Nat → Option Visit
  | [] => none
  | i :: place => parts[i]?.bind fun v => partWithin v place

/-- The events are the parts at all places, each once and in the order of the places. The order is
lexicographic, so that a place comes before its extensions. -/
structure Enumerates (parts events : List Visit) (places : List (List Nat)) : Prop where
  ascending : places.Pairwise (List.Lex (· < ·))
  complete : ∀ place, place ∈ places ↔ (partAt parts place).isSome = true
  events : places.map (partAt parts) = events.map some

/-- The walk with all reports enumerates the places below the given parts, and what is reported has
no influence on what is visited. -/
structure Faithful (walk : Interest → List Visit) (parts : List Visit) : Prop where
  preorder : ∃ places, Enumerates parts (walk .all) places
  filtered : ∀ i, walk i = (walk .all).filter i.includes

section Places

variable {v : Visit} {parts parts' events events' : List Visit} {places places' : List (List Nat)}

lemma partAt_inside {place : List Nat} (h : place ≠ []) :
    partWithin v place = partAt (partsInside v) place := by
  cases place with
  | nil => exact absurd rfl h
  | cons i place => rfl

/-- A place whose first position is moved behind the parts that come first. -/
def shift (n : Nat) : List Nat → List Nat
  | [] => []
  | i :: place => (n + i) :: place

lemma partAt_shift (place : List Nat) :
    partAt (parts ++ parts') (shift parts.length place) = partAt parts' place := by
  cases place with
  | nil => rfl
  | cons i place =>
    rw [shift, partAt, partAt, List.getElem?_append_right (Nat.le_add_right ..),
      Nat.add_sub_cancel_left]

lemma partAt_append {i : Nat} (hi : i < parts.length) (place : List Nat) :
    partAt (parts ++ parts') (i :: place) = partAt parts (i :: place) := by
  rw [partAt, partAt, List.getElem?_append_left hi]

/-- A place among two lists of parts is one among the first or one among the second, moved. -/
lemma exists_of_partAt_append {place : List Nat}
    (h : (partAt (parts ++ parts') place).isSome = true) :
    (partAt parts place).isSome = true ∨
      ∃ below, (partAt parts' below).isSome = true ∧ shift parts.length below = place := by
  cases place with
  | nil => exact Bool.noConfusion h
  | cons i rest =>
    rcases Nat.lt_or_ge i parts.length with hi | hi
    · rw [partAt_append hi] at h
      exact Or.inl h
    · obtain ⟨j, rfl⟩ := Nat.exists_eq_add_of_le hi
      have hshift : partAt (parts ++ parts') ((parts.length + j) :: rest) =
          partAt parts' (j :: rest) := partAt_shift (j :: rest)
      rw [hshift] at h
      exact Or.inr ⟨j :: rest, h, rfl⟩

lemma lt_of_partAt {i : Nat} {place : List Nat} (h : (partAt parts (i :: place)).isSome = true) :
    i < parts.length := by
  obtain ⟨inner, hinner⟩ := Option.isSome_iff_exists.1 h
  obtain ⟨v, hv, -⟩ := Option.bind_eq_some_iff.1 hinner
  exact (List.getElem?_eq_some_iff.1 hv).1

lemma lex_shift (n : Nat) {place place' : List Nat} (h : List.Lex (· < ·) place place') :
    List.Lex (· < ·) (shift n place) (shift n place') := by
  cases h with
  | nil => exact .nil
  | cons h => exact .cons h
  | rel h => exact .rel (Nat.add_lt_add_left h n)

lemma Enumerates.nil : Enumerates [] [] [] := by
  refine ⟨.nil, fun place => ?_, rfl⟩
  cases place with
  | nil => simp [partAt]
  | cons i place => simp [partAt]

lemma Enumerates.ne_nil (h : Enumerates parts events places) {place : List Nat}
    (hplace : place ∈ places) : place ≠ [] := by
  rintro rfl
  exact Bool.noConfusion ((h.complete []).1 hplace)

/-- A part comes before the parts inside it. -/
lemma Enumerates.node (h : Enumerates (partsInside v) events places) :
    Enumerates [v] (v :: events) ([0] :: places.map (0 :: ·)) := by
  have hbelow : ∀ place ∈ places, partAt [v] (0 :: place) = partAt (partsInside v) place :=
    fun place hplace => partAt_inside (h.ne_nil hplace)
  constructor
  · rw [List.pairwise_cons, List.pairwise_map]
    constructor
    · intro place hplace
      obtain ⟨below, hbelow, rfl⟩ := List.mem_map.1 hplace
      obtain ⟨i, rest, rfl⟩ := List.exists_cons_of_ne_nil (h.ne_nil hbelow)
      exact .cons .nil
    · exact h.ascending.imp .cons
  · intro place
    rw [List.mem_cons, List.mem_map]
    constructor
    · rintro (rfl | ⟨below, hplace, rfl⟩)
      · rfl
      · rw [hbelow below hplace]
        exact (h.complete below).1 hplace
    · intro hsome
      match place with
      | [] => exact Bool.noConfusion hsome
      | [0] => exact Or.inl rfl
      | 0 :: i :: rest => exact Or.inr ⟨i :: rest, (h.complete _).2 hsome, rfl⟩
      | (i + 1) :: rest => exact Bool.noConfusion hsome
  · rw [List.map_cons, List.map_cons, List.map_map, ← h.events]
    congr 1
    exact List.map_congr_left hbelow

/-- Parts come in the order of declaration, each with all that is inside it. -/
lemma Enumerates.append (h : Enumerates parts events places)
    (h' : Enumerates parts' events' places') :
    Enumerates (parts ++ parts') (events ++ events')
      (places ++ places'.map (shift parts.length)) := by
  have hfirst : ∀ place ∈ places, ∃ i rest, place = i :: rest ∧ i < parts.length := by
    intro place hplace
    obtain ⟨i, rest, rfl⟩ := List.exists_cons_of_ne_nil (h.ne_nil hplace)
    exact ⟨i, rest, rfl, lt_of_partAt ((h.complete _).1 hplace)⟩
  have hleft : ∀ place ∈ places, partAt (parts ++ parts') place = partAt parts place := by
    intro place hplace
    obtain ⟨i, rest, rfl, hi⟩ := hfirst place hplace
    exact partAt_append hi rest
  constructor
  · rw [List.pairwise_append, List.pairwise_map]
    refine ⟨h.ascending, h'.ascending.imp (lex_shift _), fun place hplace place' hplace' => ?_⟩
    obtain ⟨i, rest, rfl, hi⟩ := hfirst place hplace
    obtain ⟨below, hbelow, rfl⟩ := List.mem_map.1 hplace'
    obtain ⟨j, rest', rfl⟩ := List.exists_cons_of_ne_nil (h'.ne_nil hbelow)
    exact .rel (Nat.lt_add_right j hi)
  · intro place
    rw [List.mem_append, List.mem_map]
    constructor
    · rintro (hplace | ⟨below, hbelow, rfl⟩)
      · rw [hleft place hplace]
        exact (h.complete place).1 hplace
      · rw [partAt_shift]
        exact (h'.complete below).1 hbelow
    · intro hsome
      rcases exists_of_partAt_append hsome with hfront | ⟨below, hbelow, rfl⟩
      · exact Or.inl ((h.complete place).2 hfront)
      · exact Or.inr ⟨below, (h'.complete below).2 hbelow, rfl⟩
  · rw [List.map_append, List.map_append, List.map_map, ← h.events, ← h'.events]
    congr 1
    · exact List.map_congr_left hleft
    · exact List.map_congr_left fun place _ => partAt_shift place

end Places

/-! ### Walks put together -/

section Walks

variable {v : Visit} {walk walk' : Interest → List Visit} {parts parts' : List Visit}

lemma report_all (v : Visit) : Interest.all.report v = [v] := by
  cases v <;> rfl

lemma filter_report (i : Interest) (v : Visit) : [v].filter i.includes = i.report v := by
  rw [List.filter_singleton, Interest.report, Bool.cond_eq_ite]

lemma Faithful.nil : Faithful (fun _ => []) [] := ⟨⟨[], .nil⟩, fun _ => rfl⟩

/-- A walk of a part reports it and goes on with the parts inside it. -/
lemma Faithful.node (h : Faithful walk (partsInside v))
    (hwalk : ∀ i, walk' i = i.report v ++ walk i) : Faithful walk' [v] := by
  obtain ⟨⟨places, hplaces⟩, hfilter⟩ := h
  constructor
  · rw [hwalk, report_all]
    exact ⟨_, hplaces.node⟩
  · intro i
    rw [hwalk, hwalk, List.filter_append, report_all, filter_report, ← hfilter]

lemma Faithful.append (h : Faithful walk parts) (h' : Faithful walk' parts') :
    Faithful (fun i => walk i ++ walk' i) (parts ++ parts') := by
  obtain ⟨⟨places, hplaces⟩, hfilter⟩ := h
  obtain ⟨⟨places', hplaces'⟩, hfilter'⟩ := h'
  constructor
  · exact ⟨_, hplaces.append hplaces'⟩
  · intro i
    rw [List.filter_append, ← hfilter, ← hfilter']

lemma Faithful.each {α : Type} {walk : α → Interest → List Visit} {part : α → Visit}
    (h : ∀ a, Faithful (walk a) [part a]) (as : List α) :
    Faithful (fun i => as.flatMap fun a => walk a i) (as.map part) := by
  induction as with
  | nil => exact .nil
  | cons a as ih => exact (h a).append ih

/-! ### The walks of a description -/

lemma faithful_type (t : TypeExpr) : Faithful (TypeExpr.walk · t) [.type t] := by
  induction t with
  | named name => exact Faithful.nil.node fun i => (List.append_nil _).symm
  | nullable inner ih | array inner ih | map inner ih => exact ih.node fun i => rfl

lemma faithful_model (m : Model) : Faithful (Model.walk · m) [.model m] :=
  (Faithful.each (fun f => faithful_type f.type) m.parts).node fun _ => rfl

lemma faithful_models (models : List Model) :
    Faithful (walkModels · models) (models.map .model) :=
  Faithful.each faithful_model models

lemma faithful_param (lp : ParamLocation × Param) :
    Faithful (Operation.walkParam · lp) [.param lp.1 lp.2] :=
  (faithful_type lp.2.type).node fun _ => rfl

lemma faithful_body (body : RequestBody) :
    Faithful (Operation.walkBody · body) ((requestTypes body).map .type) := by
  cases body with
  | json type description => exact faithful_type type
  | empty | rawString _ | formData _ | formUrlEncoded _ => exact .nil

lemma faithful_response (o : Operation) (r : Response) :
    Faithful (Operation.walkResponse · o r) [.response o r] := by
  obtain ⟨status, body, description⟩ := r
  cases body with
  | json type => exact (faithful_type type).node fun _ => rfl
  | empty | rawString => exact Faithful.nil.node fun _ => rfl

lemma faithful_operation (o : Operation) : Faithful (Operation.walk · o) [.operation o] := by
  have hparams : o.params.map (fun lp => Visit.param lp.1 lp.2) =
      (o.body.formParams?.getD []).map (.param .form) ++ o.queryParams.map (.param .query) ++
        o.headerParams.map (.param .header) ++ o.endpoint.params.map (.param .url) := by
    simp only [Operation.params, List.map_append, List.map_map, Function.comp_def]
  have hinside := ((Faithful.each faithful_param o.params).append (faithful_body o.body)).append
    (Faithful.each (faithful_response o) o.responses)
  rw [hparams] at hinside
  refine hinside.node fun i => ?_
  simp only [Operation.walk, List.append_assoc]

lemma faithful_api (a : Api) : Faithful (Api.walk · a) [.api a] :=
  (Faithful.each faithful_operation a.operations).node fun _ => rfl

lemma faithful_version (v : Version) : Faithful (Version.walk · v) [.version v] := by
  refine ((Faithful.each faithful_api v.apis).append (faithful_models v.models)).node fun i => ?_
  simp only [Version.walk, List.append_assoc]

/-- The outermost parts of an error taxonomy. -/
def errorParts (e : HttpErrors) : List Visit :=
  e.allResponses.map (fun r => .type r.type) ++ e.models.map .model

/-- The outermost parts of a description. -/
def specParts (s : Spec) : List Visit :=
  s.versions.map .version ++ errorParts s.httpErrors

lemma faithful_errors (e : HttpErrors) : Faithful (HttpErrors.walk · e) (errorParts e) := by
  have hresponse : ∀ r : ErrorResponse, Faithful (TypeExpr.walk · r.type) [.type r.type] :=
    fun r => faithful_type r.type
  exact (Faithful.each hresponse e.allResponses).append (faithful_models e.models)

lemma faithful_spec (s : Spec) : Faithful (Spec.walk · s) (specParts s) :=
  (Faithful.each faithful_version s.versions).append (faithful_errors s.httpErrors)

/-- From wherever a walk starts, it meets every part below once, outer parts first and the others in
the order of declaration, whichever kinds of part are reported. -/
theorem walks_faithful :
    (∀ s : Spec, Faithful (Spec.walk · s) (specParts s)) ∧
      (∀ e : HttpErrors, Faithful (HttpErrors.walk · e) (errorParts e)) ∧
        (∀ v : Version, Faithful (Version.walk · v) [.version v]) ∧
          (∀ a : Api, Faithful (Api.walk · a) [.api a]) ∧
            ∀ models : List Model, Faithful (walkModels · models) (models.map .model) :=
  ⟨faithful_spec, faithful_errors, faithful_version, faithful_api, faithful_models⟩

end Walks

end ApiCodegen.Proofs
