import ApiCodegen.Proofs.Sequencing
import ApiCodegen.Types.Resolver

/-!
# Which types resolve

A type resolves exactly if its innermost name is known in the scope, whatever the suffixes and
whatever place the failure would be reported at.
-/

namespace ApiCodegen.Proofs

/-- A name that a scope knows: a primitive, a model, an error model or a standard error model. -/
def Known (s : Scope) (name : String) : Prop :=
  (∃ p, Primitive.ofName? name = some p) ∨ (∃ m ∈ s.models, m.name = name) ∨
    (∃ m ∈ s.errors.models, m.name = name) ∨ name ∈ standardErrorModels

/-- A type whose innermost name a scope knows. -/
def Resolves (s : Scope) (t : TypeExpr) : Prop := Known s t.leaf

lemma mem_of_findModel {models : List Model} {name : String} {m : Model}
    (h : findModel models name = some m) : m ∈ models ∧ m.name = name := by
  refine ⟨List.mem_of_find?_eq_some h, ?_⟩
  simpa using List.find?_some h

lemma not_mem_of_findModel {models : List Model} {name : String}
    (h : findModel models name = none) : ¬∃ m ∈ models, m.name = name := by
  rintro ⟨m, hm, hname⟩
  have hnone := List.find?_eq_none.1 h m hm
  exact hnone (by simpa using hname)

lemma exists_lookup_iff {s : Scope} {name : String} :
    (∃ found, s.lookup name = some found) ↔ (∃ m ∈ s.models, m.name = name) ∨
      (∃ m ∈ s.errors.models, m.name = name) ∨ name ∈ standardErrorModels := by
  unfold Scope.lookup HttpErrors.model?
  cases hv : findModel s.models name with
  | some m =>
    have hm := mem_of_findModel hv
    exact ⟨fun _ => Or.inl ⟨m, hm⟩, fun _ => ⟨_, rfl⟩⟩
  | none =>
    have hnone := not_mem_of_findModel hv
    cases he : findModel s.errors.models name with
    | some m =>
      have hm := mem_of_findModel he
      exact ⟨fun _ => Or.inr (Or.inl ⟨m, hm⟩), fun _ => ⟨_, rfl⟩⟩
    | none =>
      have herr := not_mem_of_findModel he
      by_cases hs : name ∈ standardErrorModels
      · simp [hs]
      · simp only [List.contains_iff_mem, hs, ite_false, reduceCtorEq, exists_false, hnone, herr,
          or_false]

lemma origin_of_lookup {s : Scope} {name : String} {origin : ModelOrigin} {m : Model}
    (h : s.lookup name = some (origin, some m)) : origin = .version ∨ origin = .error := by
  unfold Scope.lookup at h
  split at h
  · cases h
    exact Or.inl rfl
  · split at h
    · cases h
      exact Or.inr rfl
    · split at h
      · cases h
      · cases h

/-- A model is looked for in the version, then in the error taxonomy, then among the standard error
models; where it is found tells where it is not. -/
lemma lookup_eq_some {s : Scope} {name : String} {origin : ModelOrigin} {m : Option Model}
    (h : s.lookup name = some (origin, m)) :
    match origin with
    | .version => (findModel s.models name).isSome = true
    | .error => findModel s.models name = none ∧ (s.errors.model? name).isSome = true
    | .standard => findModel s.models name = none ∧ s.errors.model? name = none ∧
      standardErrorModels.contains name = true := by
  unfold Scope.lookup at h
  split at h
  · rename_i found hversion
    cases h
    exact Option.isSome_iff_exists.2 ⟨found, hversion⟩
  · rename_i hversion
    split at h
    · rename_i found herror
      cases h
      exact ⟨hversion, Option.isSome_iff_exists.2 ⟨found, herror⟩⟩
    · rename_i herror
      split at h
      · rename_i hstandard
        cases h
        exact ⟨hversion, herror, hstandard⟩
      · cases h

/-- A resolved name is a primitive, or else a model of the origin at which it is found. -/
lemma resolveName_eq_ok_iff {s : Scope} {name : String} {here : Location} {type : ResolvedType} :
    s.resolveName name here = .ok type ↔
      (∃ p, Primitive.ofName? name = some p ∧ type = .primitive p) ∨
        Primitive.ofName? name = none ∧ ∃ origin m, s.lookup name = some (origin, m) ∧
          type = .model name origin (m.any Model.isEnum) := by
  unfold Scope.resolveName
  cases hp : Primitive.ofName? name with
  | some p => simp [eq_comm]
  | none =>
    cases hl : s.lookup name with
    | none => simp
    | some found => simp [Prod.ext_iff, eq_comm]

lemma succeeds_resolveName_iff {s : Scope} {name : String} {here : Location} :
    Succeeds (s.resolveName name here) ↔ Known s name := by
  unfold Scope.resolveName Known
  cases hp : Primitive.ofName? name with
  | some p => exact ⟨fun _ => Or.inl ⟨p, rfl⟩, fun _ => Succeeds.ok _⟩
  | none =>
    rw [← exists_lookup_iff]
    cases hl : s.lookup name with
    | some found => exact ⟨fun _ => Or.inr ⟨found, rfl⟩, fun _ => Succeeds.ok _⟩
    | none => simp [Succeeds]

/-- The innermost type of a resolved type is what its innermost name resolves to. -/
lemma resolveName_leaf {s : Scope} {t : TypeExpr} {here : Location} {type : ResolvedType}
    (h : s.resolve here t = .ok type) : s.resolveName t.leaf here = .ok type.leaf := by
  induction t generalizing type with
  | named name =>
    have hleaf : type.leaf = type := by
      rcases resolveName_eq_ok_iff.1 h with ⟨p, -, rfl⟩ | ⟨-, origin, m, -, rfl⟩ <;> rfl
    rw [hleaf]
    exact h
  | nullable inner ih | array inner ih | map inner ih =>
    obtain ⟨inner', hinner, rfl⟩ := map_eq_ok_iff.1 h
    have hleaf := ih hinner
    exact hleaf

/-- A type resolves exactly if its innermost name is known. -/
theorem succeeds_resolve_iff {s : Scope} {t : TypeExpr} {here : Location} :
    Succeeds (s.resolve here t) ↔ Resolves s t := by
  induction t with
  | named name => exact succeeds_resolveName_iff
  | nullable inner ih => rw [Scope.resolve, succeeds_map_iff, ih]; rfl
  | array inner ih => rw [Scope.resolve, succeeds_map_iff, ih]; rfl
  | map inner ih => rw [Scope.resolve, succeeds_map_iff, ih]; rfl

end ApiCodegen.Proofs
