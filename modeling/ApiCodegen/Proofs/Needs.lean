import ApiCodegen.Proofs.Resolution
import ApiCodegen.Proofs.Usage
import ApiCodegen.Tree.Emission

/-!
# Imports that types need

A type is spelled with names that the file has to import: some primitives, maps, and the modules
that models are reached through. `needs` lists these imports. The imports of a file are texts, but
each path that a type may need can be told from the others by the last segment of its text.
-/

namespace ApiCodegen.Proofs

/-- The import of a primitive. -/
def primitiveUse? : Primitive → Option UsePath
  | .decimal => some (.external "rust_decimal::Decimal")
  | .date => some (.external "chrono::NaiveDate")
  | .datetime => some (.external "chrono::NaiveDateTime")
  | .uuid => some (.external "uuid::Uuid")
  | .empty => some (.internal ["empty"] (.name "Empty"))
  | .string | .int32 | .int64 | .float | .double | .boolean | .json => none

/-- The import of maps. -/
def mapUse : UsePath := .external "std::collections::BTreeMap"

/-- The import of the models of a version. -/
def modelsUse (version : String) : UsePath := .internal [version, "models"] .module

/-- The import of the error models. -/
def errorsUse : UsePath := .internal ["errors"] .module

/-- The import of the standard error models. -/
def standardUse : UsePath := .internal ["errmodels"] .module

/-- The import of the module that stands before a name. -/
def qualifierUse? (version qualifier : String) : Option UsePath :=
  if qualifier = "models::" then some (modelsUse version)
  else if qualifier = "errors::" then some errorsUse
  else if qualifier = "errmodels::" then some standardUse
  else none

/-- The imports that a type needs in a file of a version. -/
def needs (version : String) : Spelling → List UsePath
  | .primitive p => (primitiveUse? p).toList
  | .named path _ => (qualifierUse? version path).toList
  | .unit | .text => []
  | .option inner | .vec inner | .boxed inner | .borrowed inner => needs version inner
  | .map inner => mapUse :: needs version inner

/-- What stands before the innermost name of a type. -/
def qualifier : Spelling → String
  | .named path _ => path
  | .primitive _ | .unit | .text => ""
  | .option inner | .vec inner | .boxed inner | .borrowed inner | .map inner => qualifier inner

/-! ### The texts of imports -/

section Texts

variable {root version path text : String} {uses : List UsePath} {u : UsePath}

lemma mem_insertPath {paths : List String} :
    text ∈ Imports.insertPath path paths ↔ text = path ∨ text ∈ paths := by
  induction paths with
  | nil => simp [Imports.insertPath]
  | cons p paths ih =>
    rw [Imports.insertPath]
    split
    · simp
    · split
      · rename_i heq
        simp [heq]
      · rw [List.mem_cons, List.mem_cons, ih]
        tauto

lemma mem_ofList {paths : List String} : text ∈ (Imports.ofList paths).paths ↔ text ∈ paths := by
  have hfold : ∀ i : Imports, text ∈ (paths.foldl Imports.insert i).paths ↔
      text ∈ i.paths ∨ text ∈ paths := by
    induction paths with
    | nil => simp
    | cons p paths ih =>
      intro i
      rw [List.foldl_cons, ih, Imports.insert, mem_insertPath, List.mem_cons]
      tauto
  rw [Imports.ofList, hfold]
  simp [Imports.empty]

/-- The import is among those that a file writes. -/
def Imported (root : String) (uses : List UsePath) (u : UsePath) : Prop :=
  u.render root ∈ (Imports.ofUses root uses).paths

lemma imported_iff : Imported root uses u ↔ ∃ w ∈ uses, w.render root = u.render root := by
  rw [Imported, Imports.ofUses, mem_ofList, List.mem_map]

lemma imported_of_mem (h : u ∈ uses) : Imported root uses u := imported_iff.2 ⟨u, h, rfl⟩

/-- The last segment of a path. -/
def lastSegment (path : String) : String :=
  String.ofList (path.toList.reverse.takeWhile (· != ':')).reverse

lemma lastSegment_append (front : String) {last : String} (h : ':' ∉ last.toList) :
    lastSegment (front ++ "::" ++ last) = last := by
  have hall : ∀ c ∈ last.toList.reverse, (c != ':') = true := by
    intro c hc
    rw [bne_iff_ne]
    rintro rfl
    exact h (List.mem_reverse.1 hc)
  have htake : (front ++ "::" ++ last).toList.reverse.takeWhile (· != ':') =
      last.toList.reverse := by
    rw [String.toList_append, String.toList_append, List.reverse_append, List.reverse_append,
      List.takeWhile_append_of_pos hall]
    exact List.append_nil _
  rw [lastSegment, htake, List.reverse_reverse, String.ofList_toList]

/-- The import that a type may need, by the last segment of its path. -/
def useOfLast? (version : String) : String → Option UsePath
  | "Decimal" => primitiveUse? .decimal
  | "NaiveDate" => primitiveUse? .date
  | "NaiveDateTime" => primitiveUse? .datetime
  | "Uuid" => primitiveUse? .uuid
  | "Empty" => primitiveUse? .empty
  | "BTreeMap" => some mapUse
  | "models" => some (modelsUse version)
  | "errors" => some errorsUse
  | "errmodels" => some standardUse
  | _ => none

/-- What the text of an import tells, if it is one that types need, is the import itself. -/
def Told (root version : String) (u : UsePath) : Prop :=
  ∀ w, useOfLast? version (lastSegment (u.render root)) = some w → w = u

lemma lastSegment_render (front : String) {last : String}
    (htext : u.render root = front ++ "::" ++ last) (h : ':' ∉ last.toList) :
    lastSegment (u.render root) = last := by
  rw [htext, lastSegment_append front h]

lemma lastSegment_module {m : String} (h : ':' ∉ m.toList) :
    lastSegment ((UsePath.internal [m] .module).render root) = m :=
  lastSegment_render root (String.append_empty ..) h

lemma lastSegment_inner {m : String} (h : ':' ∉ m.toList) :
    lastSegment ((UsePath.internal [version, m] .module).render root) = m :=
  lastSegment_render (root ++ "::" ++ version) (String.append_empty ..) h

lemma lastSegment_name {m name : String} (h : ':' ∉ name.toList) :
    lastSegment ((UsePath.internal [m] (.name name)).render root) = name :=
  lastSegment_render (root ++ "::" ++ m) String.append_assoc.symm h

lemma lastSegment_everything {a : String} :
    lastSegment ((UsePath.internal [version, a] .everything).render root) = "*" := by
  have htext : (UsePath.internal [version, a] .everything).render root =
      root ++ "::" ++ version ++ "::" ++ a ++ ("::" ++ "*") := rfl
  exact lastSegment_render (root ++ "::" ++ version ++ "::" ++ a)
    (htext.trans String.append_assoc.symm) (by decide)

lemma useOfLast?_primitive {p : Primitive} (h : primitiveUse? p = some u) :
    useOfLast? version (lastSegment (u.render root)) = some u := by
  cases p with
  | decimal =>
    cases h
    have hlast : lastSegment "rust_decimal::Decimal" = "Decimal" := by decide
    exact congrArg (useOfLast? version) hlast
  | date =>
    cases h
    have hlast : lastSegment "chrono::NaiveDate" = "NaiveDate" := by decide
    exact congrArg (useOfLast? version) hlast
  | datetime =>
    cases h
    have hlast : lastSegment "chrono::NaiveDateTime" = "NaiveDateTime" := by decide
    exact congrArg (useOfLast? version) hlast
  | uuid =>
    cases h
    have hlast : lastSegment "uuid::Uuid" = "Uuid" := by decide
    exact congrArg (useOfLast? version) hlast
  | empty =>
    cases h
    rw [lastSegment_name (by decide)]
    rfl
  | string | int32 | int64 | float | double | boolean | json => cases h

lemma useOfLast?_modelsUse :
    useOfLast? version (lastSegment ((modelsUse version).render root)) =
      some (modelsUse version) := by
  rw [modelsUse, lastSegment_inner (by decide)]
  rfl

lemma useOfLast?_errorsUse :
    useOfLast? version (lastSegment (errorsUse.render root)) = some errorsUse := by
  rw [errorsUse, lastSegment_module (by decide)]
  rfl

lemma useOfLast?_standardUse :
    useOfLast? version (lastSegment (standardUse.render root)) = some standardUse := by
  rw [standardUse, lastSegment_module (by decide)]
  rfl

lemma useOfLast?_qualifier {q : String} (h : qualifierUse? version q = some u) :
    useOfLast? version (lastSegment (u.render root)) = some u := by
  unfold qualifierUse? at h
  split_ifs at h
  · cases h
    exact useOfLast?_modelsUse
  · cases h
    exact useOfLast?_errorsUse
  · cases h
    exact useOfLast?_standardUse

lemma useOfLast?_mapUse : useOfLast? version (lastSegment (mapUse.render root)) = some mapUse := by
  have hlast : lastSegment "std::collections::BTreeMap" = "BTreeMap" := by decide
  exact congrArg (useOfLast? version) hlast

lemma useOfLast?_needs {t : Spelling} (h : u ∈ needs version t) :
    useOfLast? version (lastSegment (u.render root)) = some u := by
  induction t with
  | primitive p => exact useOfLast?_primitive (Option.mem_toList.1 h)
  | named path name => exact useOfLast?_qualifier (Option.mem_toList.1 h)
  | unit | text => cases h
  | option inner ih | vec inner ih | boxed inner ih | borrowed inner ih => exact ih h
  | map inner ih =>
    rcases List.mem_cons.1 h with rfl | h
    · exact useOfLast?_mapUse
    · exact ih h

lemma told_of_useOfLast? (h : useOfLast? version (lastSegment (u.render root)) = some u) :
    Told root version u := by
  intro w hw
  exact Option.some.inj (hw.symm.trans h)

lemma told_of_last {last : String} (hlast : lastSegment (u.render root) = last)
    (hnone : useOfLast? version last = none) : Told root version u := by
  intro w hw
  rw [hlast, hnone] at hw
  cases hw

lemma not_mem_needs_of_last (root : String) {t : Spelling} {last : String}
    (hlast : lastSegment (u.render root) = last) (hnone : useOfLast? version last = none) :
    u ∉ needs version t := by
  intro hu
  have hsome : useOfLast? version last = some u := hlast ▸ useOfLast?_needs hu
  rw [hnone] at hsome
  cases hsome

/-- Among paths whose texts tell what they are, an import that a type needs stands itself if its
text does. -/
lemma imported_iff_mem {t : Spelling} (hu : u ∈ needs version t)
    (huses : ∀ w ∈ uses, Told root version w) : Imported root uses u ↔ u ∈ uses := by
  refine ⟨fun h => ?_, imported_of_mem⟩
  obtain ⟨w, hw, htext⟩ := imported_iff.1 h
  have hsame : u = w := huses w hw u (htext ▸ useOfLast?_needs hu)
  rwa [hsame]

end Texts

/-! ### Imports under conditions -/

section Conditions

variable {u w : UsePath} {c m : Bool} {uses : Primitive → Bool}

lemma primitiveUse?_inj {p q : Primitive} (hp : primitiveUse? p = some u)
    (hq : primitiveUse? q = some u) : p = q := by
  cases p <;> cases hp <;> cases q <;> simp [primitiveUse?] at hq ⊢

lemma mem_useIf_iff : u ∈ useIf c w ↔ c = true ∧ u = w := by
  unfold useIf
  cases c with
  | true => simp
  | false => simp

lemma mem_typeUses_iff : u ∈ typeUses uses m ↔
    (∃ p, uses p = true ∧ primitiveUse? p = some u) ∨ m = true ∧ u = mapUse := by
  have hmap : ∀ v, v = UsePath.external "std::collections::BTreeMap" ↔ v = mapUse := fun _ => Iff.rfl
  simp only [typeUses, List.mem_append, mem_useIf_iff, hmap]
  constructor
  · rintro (((((⟨h, rfl⟩ | ⟨h, rfl⟩) | ⟨h, rfl⟩) | ⟨h, rfl⟩) | ⟨h, rfl⟩) | h)
    · exact Or.inl ⟨_, h, rfl⟩
    · exact Or.inl ⟨_, h, rfl⟩
    · exact Or.inl ⟨_, h, rfl⟩
    · exact Or.inl ⟨_, h, rfl⟩
    · exact Or.inl ⟨_, h, rfl⟩
    · exact Or.inr h
  · rintro (⟨p, hp, hu⟩ | h)
    · cases p <;> cases hu <;> simp [hp]
    · exact Or.inr h

/-- Imports of modules with models, and of primitives and maps, each under its own condition. -/
lemma mem_pathUses_iff {version : String} {d s : Bool} :
    u ∈ useIf c (modelsUse version) ++ useIf d errorsUse ++ useIf s standardUse ++
        typeUses uses m ↔
      c = true ∧ u = modelsUse version ∨ d = true ∧ u = errorsUse ∨ s = true ∧ u = standardUse ∨
        (∃ p, uses p = true ∧ primitiveUse? p = some u) ∨ m = true ∧ u = mapUse := by
  simp only [List.mem_append, mem_useIf_iff, mem_typeUses_iff, or_assoc]

/-- Among them, a primitive is imported exactly under its own condition. -/
lemma mem_pathUses_primitive {version : String} {d s : Bool} {p : Primitive}
    (hp : primitiveUse? p = some u) :
    u ∈ useIf c (modelsUse version) ++ useIf d errorsUse ++ useIf s standardUse ++
      typeUses uses m ↔ uses p = true := by
  have hmodule : ∀ modules, u ≠ .internal modules .module := by
    rintro modules rfl
    cases p <;> simp [primitiveUse?] at hp
  have hmap : u ≠ mapUse := by
    rintro rfl
    cases p <;> simp [primitiveUse?, mapUse] at hp
  rw [mem_pathUses_iff]
  constructor
  · rintro (⟨-, h⟩ | ⟨-, h⟩ | ⟨-, h⟩ | ⟨q, hq, hqu⟩ | ⟨-, h⟩)
    · exact absurd h (hmodule _)
    · exact absurd h (hmodule _)
    · exact absurd h (hmodule _)
    · rwa [primitiveUse?_inj hp hqu]
    · exact absurd h hmap
  · exact fun h => Or.inr (Or.inr (Or.inr (Or.inl ⟨p, h, hp⟩)))

/-- Among them, maps are imported exactly under their own condition. -/
lemma mem_pathUses_map {version : String} {d s : Bool} :
    mapUse ∈ useIf c (modelsUse version) ++ useIf d errorsUse ++ useIf s standardUse ++
      typeUses uses m ↔ m = true := by
  have hmodule : ∀ modules, mapUse ≠ .internal modules .module := fun _ => nofun
  rw [mem_pathUses_iff]
  constructor
  · rintro (⟨-, h⟩ | ⟨-, h⟩ | ⟨-, h⟩ | ⟨q, -, hq⟩ | ⟨h, -⟩)
    · exact absurd h (hmodule _)
    · exact absurd h (hmodule _)
    · exact absurd h (hmodule _)
    · cases q <;> simp [primitiveUse?, mapUse] at hq
    · exact h
  · exact fun h => Or.inr (Or.inr (Or.inr (Or.inr ⟨h, rfl⟩)))

lemma told_of_mem_typeUses {root version : String} (h : u ∈ typeUses uses m) :
    Told root version u := by
  rcases mem_typeUses_iff.1 h with ⟨p, -, hp⟩ | ⟨-, rfl⟩
  · exact told_of_useOfLast? (useOfLast?_primitive hp)
  · exact told_of_useOfLast? useOfLast?_mapUse

lemma told_of_mem_pathUses {root version : String} {d s : Bool}
    (h : u ∈ useIf c (modelsUse version) ++ useIf d errorsUse ++ useIf s standardUse ++
      typeUses uses m) : Told root version u := by
  rcases mem_pathUses_iff.1 h with ⟨-, rfl⟩ | ⟨-, rfl⟩ | ⟨-, rfl⟩ | huse
  · exact told_of_useOfLast? useOfLast?_modelsUse
  · exact told_of_useOfLast? useOfLast?_errorsUse
  · exact told_of_useOfLast? useOfLast?_standardUse
  · exact told_of_mem_typeUses (mem_typeUses_iff.2 huse)

end Conditions

/-! ### What resolved types need -/

section Resolved

variable {version : String} {naming : Naming} {paths : TypePaths} {type : ResolvedType}
  {u : UsePath}

/-- A type needs the import of its innermost type, and that of maps where it has one. -/
lemma mem_needs_spell_iff : u ∈ needs version (type.spell naming paths) ↔
    (∃ p, type.leaf = .primitive p ∧ primitiveUse? p = some u) ∨
      (∃ name origin isEnum, type.leaf = .model name origin isEnum ∧
        qualifierUse? version (ResolvedType.modelPath paths origin) = some u) ∨
      type.hasMap = true ∧ u = mapUse := by
  induction type with
  | primitive p =>
    simp [ResolvedType.spell, needs, ResolvedType.leaf, ResolvedType.hasMap]
  | model name origin isEnum =>
    simp [ResolvedType.spell, needs, ResolvedType.leaf, ResolvedType.hasMap]
  | «local» name =>
    simp [ResolvedType.spell, needs, ResolvedType.leaf, ResolvedType.hasMap, qualifierUse?]
  | option inner ih | vec inner ih => exact ih
  | map inner ih =>
    rw [ResolvedType.spell, needs, List.mem_cons, ih]
    simp only [ResolvedType.leaf, ResolvedType.hasMap, true_and]
    constructor
    · rintro (h | h | h | ⟨-, h⟩)
      · exact Or.inr (Or.inr h)
      · exact Or.inl h
      · exact Or.inr (Or.inl h)
      · exact Or.inr (Or.inr h)
    · rintro (h | h | h)
      · exact Or.inr (Or.inl h)
      · exact Or.inr (Or.inr (Or.inl h))
      · exact Or.inl h

lemma hasMap_of_resolve {s : Scope} {t : TypeExpr} {here : Location}
    (h : s.resolve here t = .ok type) : type.hasMap = hasMap t := by
  induction t generalizing type with
  | named name =>
    rcases resolveName_eq_ok_iff.1 h with ⟨p, -, rfl⟩ | ⟨-, origin, m, -, rfl⟩ <;> rfl
  | nullable inner ih | array inner ih =>
    obtain ⟨inner', hinner, rfl⟩ := map_eq_ok_iff.1 h
    have hmap := ih hinner
    exact hmap
  | map inner _ =>
    obtain ⟨inner', -, rfl⟩ := map_eq_ok_iff.1 h
    rfl

/-- What a type needs, by its innermost name. -/
theorem mem_needs_iff {s : Scope} {t : TypeExpr} {here : Location}
    (h : s.resolve here t = .ok type) : u ∈ needs version (type.spell naming paths) ↔
      (∃ p, Primitive.ofName? t.leaf = some p ∧ primitiveUse? p = some u) ∨
        (∃ origin m, Primitive.ofName? t.leaf = none ∧ s.lookup t.leaf = some (origin, m) ∧
          qualifierUse? version (ResolvedType.modelPath paths origin) = some u) ∨
        hasMap t = true ∧ u = mapUse := by
  rw [mem_needs_spell_iff, hasMap_of_resolve h]
  rcases resolveName_eq_ok_iff.1 (resolveName_leaf h) with ⟨p, hp, hleaf⟩ | ⟨hp, origin, m, hm, hleaf⟩
  · simp [hp, hleaf]
  · simp [hp, hm, hleaf]

end Resolved

end ApiCodegen.Proofs
