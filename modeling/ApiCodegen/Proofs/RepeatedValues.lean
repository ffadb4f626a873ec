import ApiCodegen.Wire.Params
import Mathlib.Data.List.Forall2
import Mathlib.Tactic.Common

/-!
# Repeated values

An access to all values of a name visits the texts that stand under it in the order of the pairs,
and a text that stands for no element does not end the visit. `Visits` says of a list of texts which
elements and which faults come of it; a step of the reader adds to one of the two, and a run over
all texts ends with both. Faults leave no result, and without a fault there is an element for every
text.
-/

namespace ApiCodegen.Proofs

/-! ### The texts of a name -/

/-- The key of a pair is the name of a parameter; the case of the letters in the name of a header
does not matter. -/
def SameName : ParamLocation → String → String → Prop
  | .header, key, name => List.Forall₂ (fun c d => c.toLower = d.toLower) key.toList name.toList
  | .url, key, name | .query, key, name | .form, key, name => key = name

/-- The texts of the pairs with a name, in the order of the pairs. -/
inductive Occurrences (location : ParamLocation) (name : String) :
    List WirePair → List String → Prop
  | nil : Occurrences location name [] []
  | found {key text : String} {pairs : List WirePair} {texts : List String}
      (h : SameName location key name) (rest : Occurrences location name pairs texts) :
      Occurrences location name ((key, text) :: pairs) (text :: texts)
  | other {key text : String} {pairs : List WirePair} {texts : List String}
      (h : ¬SameName location key name) (rest : Occurrences location name pairs texts) :
      Occurrences location name ((key, text) :: pairs) texts

lemma eqIgnoringAsciiCase_iff {a b : String} : Text.eqIgnoringAsciiCase a b = true ↔
    List.Forall₂ (fun c d => c.toLower = d.toLower) a.toList b.toList := by
  unfold Text.eqIgnoringAsciiCase Text.asciiLower
  rw [beq_iff_eq, String.ofList_inj, ← List.forall₂_eq_eq_eq, List.forall₂_map_left_iff,
    List.forall₂_map_right_iff]

lemma keyMatches_iff {location : ParamLocation} {key name : String} :
    ParamReader.keyMatches location key name = true ↔ SameName location key name := by
  cases location with
  | header => exact eqIgnoringAsciiCase_iff
  | url => exact beq_iff_eq
  | query => exact beq_iff_eq
  | form => exact beq_iff_eq

lemma occurrences_values (r : ParamReader) (name : String) :
    Occurrences r.location name r.pairs (r.values name) := by
  unfold ParamReader.values
  induction r.pairs with
  | nil => exact .nil
  | cons pair pairs ih =>
    by_cases h : ParamReader.keyMatches r.location pair.1 name = true
    · rw [List.filter_cons_of_pos (by exact h), List.map_cons]
      exact .found (keyMatches_iff.1 h) ih
    · rw [List.filter_cons_of_neg (by exact h)]
      exact .other (fun hsame => h (keyMatches_iff.2 hsame)) ih

/-! ### Elements and faults -/

section Visits

variable {α : Type} (parse : String → Option α) (allowed : Option (List String))
  (location : ParamLocation) (name : String)

/-- A text that is allowed, if there are allowed texts, and parses. -/
def IsElement (text : String) (a : α) : Prop :=
  (∀ texts, allowed = some texts → text ∈ texts) ∧ parse text = some a

/-- Why a text stands for no element; whether it is allowed comes first. -/
inductive NoElement : String → ParamProblem → Prop
  | notAllowed {text : String} {texts : List String} (hallowed : allowed = some texts)
      (h : text ∉ texts) : NoElement text (.notAllowed text texts)
  | unreadable {text : String} (hallowed : ∀ texts, allowed = some texts → text ∈ texts)
      (h : parse text = none) : NoElement text (.unreadable name text)

/-- The elements and the faults of texts that are visited in order. -/
inductive Visits : List String → List α → List ParamFault → Prop
  | nil : Visits [] [] []
  | element {text : String} {a : α} {texts : List String} {as : List α} {faults : List ParamFault}
      (h : IsElement parse allowed text a) (rest : Visits texts as faults) :
      Visits (text :: texts) (a :: as) faults
  | refused {text : String} {problem : ParamProblem} {texts : List String} {as : List α}
      {faults : List ParamFault} (h : NoElement parse allowed name text problem)
      (rest : Visits texts as faults) :
      Visits (text :: texts) as (⟨ParamReader.path location name, problem⟩ :: faults)

variable {parse allowed location name} {text : String} {texts : List String} {as : List α}
  {problem : ParamProblem} {faults : List ParamFault}

lemma NoElement.code (h : NoElement parse allowed name text problem) :
    problem.code = "parsing_failed" := by
  cases h with
  | notAllowed _ _ => rfl
  | unreadable _ _ => rfl

lemma NoElement.not_isElement (h : NoElement parse allowed name text problem) (a : α) :
    ¬IsElement parse allowed text a := by
  rintro ⟨hmem, hparse⟩
  cases h with
  | notAllowed hallowed hnot => exact hnot (hmem _ hallowed)
  | unreadable _ hnone => exact absurd (hnone.symm.trans hparse) (Option.some_ne_none a).symm

lemma check_of_allowed (hallowed : ∀ texts, allowed = some texts → text ∈ texts) :
    ParamReader.check parse allowed name text =
      (parse text).elim (.error (.unreadable name text)) .ok := by
  unfold ParamReader.check
  cases allowed with
  | none => cases parse text <;> rfl
  | some texts =>
    dsimp only
    rw [if_pos (List.contains_iff_mem.2 (hallowed texts rfl))]
    cases parse text <;> rfl

variable (parse allowed name) in
/-- Checking a text finds the element that it stands for, or why there is none. -/
lemma check_spec (text : String) :
    (∃ a, ParamReader.check parse allowed name text = .ok a ∧ IsElement parse allowed text a) ∨
      ∃ problem, ParamReader.check parse allowed name text = .error problem ∧
        NoElement parse allowed name text problem := by
  by_cases hallowed : ∀ texts, allowed = some texts → text ∈ texts
  · rw [check_of_allowed hallowed]
    cases hparse : parse text with
    | some a => exact .inl ⟨a, rfl, hallowed, hparse⟩
    | none => exact .inr ⟨_, rfl, .unreadable hallowed hparse⟩
  · push Not at hallowed
    obtain ⟨texts, hcase, hnot⟩ := hallowed
    refine .inr ⟨_, ?_, .notAllowed hcase hnot⟩
    rw [hcase]
    exact if_neg fun hmem => hnot (List.contains_iff_mem.1 hmem)

variable (parse allowed name) in
/-- A step: a text either gives an element and leaves the reader as it is, or gives none and adds
one fault. -/
lemma decode_spec (r : ParamReader) (text : String) :
    (∃ a, r.decode parse allowed name text = (some a, r) ∧ IsElement parse allowed text a) ∨
      ∃ problem, r.decode parse allowed name text = (none, r.fail name problem) ∧
        NoElement parse allowed name text problem := by
  unfold ParamReader.decode
  rcases check_spec parse allowed name text with
    ⟨a, hcheck, helement⟩ | ⟨problem, hcheck, hrefused⟩
  · exact .inl ⟨a, by rw [hcheck], helement⟩
  · exact .inr ⟨problem, by rw [hcheck], hrefused⟩

variable (parse allowed name) in
/-- A run: the visit of all texts adds its faults behind those that are there, and its elements are
the result if it adds none. -/
lemma exists_visits (r : ParamReader) (texts : List String) :
    ∃ as faults, Visits parse allowed r.location name texts as faults ∧
      r.decodeAll parse allowed name texts =
        (if faults = [] then some as else none, { r with faults := r.faults ++ faults }) := by
  induction texts generalizing r with
  | nil => exact ⟨[], [], .nil, by simp [ParamReader.decodeAll]⟩
  | cons text texts ih =>
    rw [ParamReader.decodeAll]
    rcases decode_spec parse allowed name r text with
      ⟨a, hdecode, helement⟩ | ⟨problem, hdecode, hrefused⟩
    · obtain ⟨as, faults, hvisits, hrest⟩ := ih r
      refine ⟨a :: as, faults, .element helement hvisits, ?_⟩
      rw [hdecode]
      dsimp only
      rw [hrest]
      by_cases hfaults : faults = []
      · simp [hfaults]
      · simp [hfaults]
    · obtain ⟨as, faults, hvisits, hrest⟩ := ih (r.fail name problem)
      refine ⟨as, _, .refused hrefused hvisits, ?_⟩
      rw [hdecode]
      dsimp only
      rw [hrest]
      simp [ParamReader.fail]

lemma Visits.forall₂_iff (h : Visits parse allowed location name texts as faults) {bs : List α} :
    List.Forall₂ (IsElement parse allowed) texts bs ↔ faults = [] ∧ as = bs := by
  induction h generalizing bs with
  | nil => simp [eq_comm]
  | @element text a texts as faults helement _ ih =>
    cases bs with
    | nil => simp
    | cons b bs =>
      have hsame : IsElement parse allowed text b ↔ a = b := by
        constructor
        · exact fun hb => Option.some.inj (helement.2.symm.trans hb.2)
        · exact fun heq => heq ▸ helement
      rw [List.forall₂_cons, ih, hsame, List.cons.injEq]
      exact and_left_comm
  | refused hrefused _ _ =>
    cases bs with
    | nil => simp
    | cons b bs =>
      rw [List.forall₂_cons]
      simp [hrefused.not_isElement b]

lemma Visits.faults_eq_nil_iff (h : Visits parse allowed location name texts as faults) :
    faults = [] ↔ ∀ text ∈ texts, ∃ a, IsElement parse allowed text a := by
  induction h with
  | nil => simp
  | element helement _ ih =>
    rw [List.forall_mem_cons, ih]
    exact (and_iff_right ⟨_, helement⟩).symm
  | refused hrefused _ _ =>
    rw [List.forall_mem_cons]
    refine iff_of_false (List.cons_ne_nil _ _) ?_
    rintro ⟨⟨a, ha⟩, -⟩
    exact hrefused.not_isElement a ha

lemma Visits.of_mem_faults (h : Visits parse allowed location name texts as faults)
    {fault : ParamFault} (hfault : fault ∈ faults) :
    fault.path = ParamReader.path location name ∧ fault.problem.code = "parsing_failed" := by
  induction h with
  | nil => cases hfault
  | element _ _ ih => exact ih hfault
  | refused hrefused _ ih =>
    rcases List.mem_cons.1 hfault with rfl | hfault
    · exact ⟨rfl, hrefused.code⟩
    · exact ih hfault

end Visits

/-- All values of a name are read one by one, in the order of the pairs: the elements are the result
if every text stands for one, and otherwise there is no result and one fault for each text that does
not, in that order and under the path of the parameter. A name without texts has the empty list. -/
theorem repeated_values_read {α : Type} (parse : String → Option α)
    (allowed : Option (List String)) (r : ParamReader) (name : String) :
    ∃ texts as faults, Occurrences r.location name r.pairs texts ∧
      Visits parse allowed r.location name texts as faults ∧
      (r.array parse allowed name).2 = { r with faults := r.faults ++ faults } ∧
      (∀ bs, (r.array parse allowed name).1 = some bs ↔
        List.Forall₂ (IsElement parse allowed) texts bs) ∧
      ((r.array parse allowed name).1 = none ↔
        ¬∀ text ∈ texts, ∃ a, IsElement parse allowed text a) ∧
      (∀ fault ∈ faults, fault.path = ParamReader.path r.location name ∧
        fault.problem.code = "parsing_failed") ∧
      (texts = [] → r.array parse allowed name = (some [], r)) := by
  obtain ⟨as, faults, hvisits, harray⟩ :=
    exists_visits parse allowed name r (r.values name)
  refine ⟨r.values name, as, faults, occurrences_values r name, hvisits, ?_, fun bs => ?_, ?_,
    fun fault => hvisits.of_mem_faults, fun hnone => ?_⟩
  · exact congrArg Prod.snd harray
  · rw [ParamReader.array, harray, hvisits.forall₂_iff]
    by_cases hfaults : faults = []
    · simp [hfaults]
    · simp [hfaults]
  · rw [ParamReader.array, harray, ← hvisits.faults_eq_nil_iff]
    by_cases hfaults : faults = []
    · simp [hfaults]
    · simp [hfaults]
  · rw [ParamReader.array, hnone]
    rfl

end ApiCodegen.Proofs
