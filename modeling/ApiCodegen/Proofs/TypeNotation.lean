import ApiCodegen.Description.TypeExpr
import Mathlib.Tactic.Common

/-!
# The notation of types

The notation is a word and suffixes after it. The parser applies suffixes from left to right, so
that the type grows outwards, while the printer goes inwards. Both meet in `ofSuffixes`, the type
that a word and a list of suffixes stand for: the parser accepts the texts of these and no others,
and every type over a word is one of them.
-/

namespace ApiCodegen.Proofs
open TypeExpr

/-- A non-empty run of ASCII letters, digits and underscores. -/
def IsWord (name : String) : Prop :=
  name ≠ "" ∧ ∀ c ∈ name.toList, c.isAlphanum = true ∨ c = '_'

instance (name : String) : Decidable (IsWord name) :=
  decidable_of_iff (name ≠ "" ∧ name.toList.all isNameChar = true) <| by
    unfold IsWord isNameChar
    simp only [List.all_eq_true, Bool.or_eq_true, beq_iff_eq]

/-- A suffix of the notation. -/
inductive Suffix where
  | nullable
  | array
  | map
deriving DecidableEq, Repr

namespace Suffix

def chars : Suffix → List Char
  | nullable => ['?']
  | array => ['[', ']']
  | map => ['\x7b', '\x7d']

def apply : Suffix → TypeExpr → TypeExpr
  | nullable => .nullable
  | array => .array
  | map => .map

end Suffix

/-- The text of a word with suffixes. -/
def withSuffixes (base : String) (suffixes : List Suffix) : String :=
  String.ofList (base.toList ++ suffixes.flatMap Suffix.chars)

/-- The type that a word with suffixes stands for. -/
def ofSuffixes (base : String) (suffixes : List Suffix) : TypeExpr :=
  suffixes.foldl (fun t suffix => suffix.apply t) (.named base)

/-! ### Printing -/

section Printing

variable {t : TypeExpr} {base : String} {suffixes : List Suffix} {suffix : Suffix}

lemma notateChars_apply : (suffix.apply t).notateChars = t.notateChars ++ suffix.chars := by
  cases suffix <;> rfl

lemma leaf_apply : (suffix.apply t).leaf = t.leaf := by
  cases suffix <;> rfl

lemma notateChars_foldl : (suffixes.foldl (fun t suffix => suffix.apply t) t).notateChars =
    t.notateChars ++ suffixes.flatMap Suffix.chars := by
  induction suffixes generalizing t with
  | nil => exact (List.append_nil _).symm
  | cons suffix suffixes ih =>
    rw [List.foldl_cons, ih, notateChars_apply, List.flatMap_cons, List.append_assoc]

lemma leaf_foldl : (suffixes.foldl (fun t suffix => suffix.apply t) t).leaf = t.leaf := by
  induction suffixes generalizing t with
  | nil => rfl
  | cons suffix suffixes ih => rw [List.foldl_cons, ih, leaf_apply]

lemma notate_ofSuffixes : (ofSuffixes base suffixes).notate = withSuffixes base suffixes := by
  unfold TypeExpr.notate withSuffixes ofSuffixes
  rw [notateChars_foldl]
  rfl

lemma leaf_ofSuffixes : (ofSuffixes base suffixes).leaf = base := leaf_foldl

/-- Every type is its innermost name with suffixes. -/
lemma exists_ofSuffixes (t : TypeExpr) : ∃ suffixes, t = ofSuffixes t.leaf suffixes := by
  have hsnoc : ∀ inner (suffix : Suffix), (∃ suffixes, inner = ofSuffixes inner.leaf suffixes) →
      ∃ suffixes, suffix.apply inner = ofSuffixes inner.leaf suffixes := by
    rintro inner suffix ⟨suffixes, hinner⟩
    refine ⟨suffixes ++ [suffix], ?_⟩
    have hlast : ofSuffixes inner.leaf (suffixes ++ [suffix]) =
        suffix.apply (ofSuffixes inner.leaf suffixes) := List.foldl_append
    rw [hlast, ← hinner]
  induction t with
  | named name => exact ⟨[], rfl⟩
  | nullable inner ih => exact hsnoc inner .nullable ih
  | array inner ih => exact hsnoc inner .array ih
  | map inner ih => exact hsnoc inner .map ih

end Printing

/-! ### Parsing -/

section Parsing

variable {t u : TypeExpr} {cs : List Char} {base s : String} {suffixes : List Suffix}

/-- The suffixes that the parser applies are those that the characters spell. -/
lemma applySuffixes_eq_some_iff : applySuffixes t cs = some u ↔
    ∃ suffixes : List Suffix, cs = suffixes.flatMap Suffix.chars ∧
      u = suffixes.foldl (fun t suffix => suffix.apply t) t := by
  constructor
  · intro h
    induction t, cs using applySuffixes.induct with
    | case1 t =>
      rw [applySuffixes, Option.some.injEq] at h
      exact ⟨[], rfl, h.symm⟩
    | case2 t rest ih =>
      rw [applySuffixes] at h
      obtain ⟨suffixes, rfl, rfl⟩ := ih h
      exact ⟨.nullable :: suffixes, rfl, rfl⟩
    | case3 t rest ih =>
      rw [applySuffixes] at h
      obtain ⟨suffixes, rfl, rfl⟩ := ih h
      exact ⟨.array :: suffixes, rfl, rfl⟩
    | case4 t rest ih =>
      rw [applySuffixes] at h
      obtain ⟨suffixes, rfl, rfl⟩ := ih h
      exact ⟨.map :: suffixes, rfl, rfl⟩
    | case5 t cs hnil hnullable harray hmap =>
      rw [applySuffixes] at h
      · cases h
      · exact hnil
      · exact hnullable
      · exact harray
      · exact hmap
  · rintro ⟨suffixes, rfl, rfl⟩
    induction suffixes generalizing t with
    | nil => rfl
    | cons suffix suffixes ih =>
      have hstep : applySuffixes t (suffix.chars ++ suffixes.flatMap Suffix.chars) =
          applySuffixes (suffix.apply t) (suffixes.flatMap Suffix.chars) := by
        cases suffix <;> rfl
      rw [List.flatMap_cons, hstep, ih, List.foldl_cons]

lemma isNameChar_iff {c : Char} : isNameChar c = true ↔ c.isAlphanum = true ∨ c = '_' := by
  unfold isNameChar
  rw [Bool.or_eq_true, beq_iff_eq]

lemma isWord_iff : IsWord base ↔ base.toList ≠ [] ∧ ∀ c ∈ base.toList, isNameChar c = true := by
  unfold IsWord
  simp only [isNameChar_iff, ne_eq, String.toList_eq_nil_iff]

lemma not_startsSuffix {c : Char} (h : isNameChar c = true) : startsSuffix c = false := by
  unfold startsSuffix
  rw [Bool.eq_false_iff]
  intro hstarts
  simp only [Bool.or_eq_true, beq_iff_eq] at hstarts
  rcases hstarts with (rfl | rfl) | rfl
  · exact absurd h (by decide)
  · exact absurd h (by decide)
  · exact absurd h (by decide)

lemma takeWhile_suffixes : (suffixes.flatMap Suffix.chars).takeWhile (!startsSuffix ·) = [] := by
  cases suffixes with
  | nil => rfl
  | cons suffix suffixes => cases suffix <;> rfl

variable (suffixes) in
lemma cut_withSuffixes (h : IsWord base) :
    (base.toList ++ suffixes.flatMap Suffix.chars).takeWhile (!startsSuffix ·) = base.toList ∧
      (base.toList ++ suffixes.flatMap Suffix.chars).dropWhile (!startsSuffix ·) =
        suffixes.flatMap Suffix.chars := by
  have hbase : ∀ c ∈ base.toList, (!startsSuffix c) = true := by
    intro c hc
    rw [not_startsSuffix ((isWord_iff.1 h).2 c hc)]
    rfl
  have hrest : (suffixes.flatMap Suffix.chars).dropWhile (!startsSuffix ·) =
      suffixes.flatMap Suffix.chars := by
    have hcut := List.takeWhile_append_dropWhile (p := (!startsSuffix ·))
      (l := suffixes.flatMap Suffix.chars)
    rwa [takeWhile_suffixes, List.nil_append] at hcut
  constructor
  · rw [List.takeWhile_append_of_pos hbase, takeWhile_suffixes, List.append_nil]
  · rw [List.dropWhile_append_of_pos hbase, hrest]

/-- The parser reads a text as a type exactly if it is a word with suffixes that stand for it. -/
theorem parseChars_eq_some_iff : parseChars s.toList = some t ↔
    ∃ base suffixes, IsWord base ∧ s = withSuffixes base suffixes ∧ t = ofSuffixes base suffixes := by
  unfold parseChars
  dsimp only
  constructor
  · intro h
    split at h
    · rename_i hbase
      rw [Bool.and_eq_true, List.all_eq_true] at hbase
      obtain ⟨suffixes, hsuffixes, rfl⟩ := applySuffixes_eq_some_iff.1 h
      refine ⟨_, suffixes, isWord_iff.2 ?_, ?_, rfl⟩
      · rw [String.toList_ofList]
        exact ⟨by simpa using hbase.1, hbase.2⟩
      · rw [← String.toList_inj, withSuffixes, String.toList_ofList, String.toList_ofList,
          ← hsuffixes, List.takeWhile_append_dropWhile]
    · cases h
  · rintro ⟨base, suffixes, hbase, rfl, rfl⟩
    obtain ⟨htake, hdrop⟩ := cut_withSuffixes suffixes hbase
    obtain ⟨hne, hall⟩ := isWord_iff.1 hbase
    have hvalid : (!base.toList.isEmpty && base.toList.all isNameChar) = true := by
      rw [Bool.and_eq_true, List.all_eq_true]
      exact ⟨by simpa using hne, hall⟩
    rw [withSuffixes, String.toList_ofList, htake, hdrop, if_pos hvalid, String.ofList_toList]
    exact applySuffixes_eq_some_iff.2 ⟨suffixes, rfl, rfl⟩

lemma parse_eq_ok_iff : parse s = .ok t ↔ parseChars s.toList = some t := by
  unfold parse
  cases parseChars s.toList with
  | none => simp
  | some u => simp

lemma parseChars_notate (h : IsWord t.leaf) : parseChars t.notate.toList = some t := by
  obtain ⟨suffixes, hsuffixes⟩ := exists_ofSuffixes t
  refine parseChars_eq_some_iff.2 ⟨t.leaf, suffixes, h, ?_, hsuffixes⟩
  exact (congrArg TypeExpr.notate hsuffixes).trans notate_ofSuffixes

lemma isWord_of_parseChars (h : parseChars s.toList = some t) : IsWord t.leaf := by
  obtain ⟨base, suffixes, hbase, -, rfl⟩ := parseChars_eq_some_iff.1 h
  exact leaf_ofSuffixes ▸ hbase

end Parsing

/-- The parser accepts exactly the words with suffixes, and it and the printer are inverse: what it
reads is written as the text was, and every type over a word is read from what is written. The
failure carries the text. -/
theorem notation_exact :
    (∀ s, (∃ t, parse s = .ok t) ↔ ∃ base suffixes, IsWord base ∧ s = withSuffixes base suffixes) ∧
      (∀ base suffixes, IsWord base → ∃ t, parse (withSuffixes base suffixes) = .ok t ∧
        t.notate = withSuffixes base suffixes ∧ t.leaf = base) ∧
      (∀ s t, parse s = .ok t → t.notate = s ∧ IsWord t.leaf) ∧
      (∀ s e, parse s = .error e → e.input = s) ∧
      ∀ t : TypeExpr, IsWord t.leaf → parse t.notate = .ok t := by
  refine ⟨fun s => ?_, fun base suffixes hbase => ?_, fun s t h => ?_, fun s e h => ?_,
    fun t ht => parse_eq_ok_iff.2 (parseChars_notate ht)⟩
  · constructor
    · rintro ⟨t, h⟩
      obtain ⟨base, suffixes, hbase, hs, -⟩ := parseChars_eq_some_iff.1 (parse_eq_ok_iff.1 h)
      exact ⟨base, suffixes, hbase, hs⟩
    · rintro ⟨base, suffixes, hbase, hs⟩
      exact ⟨_, parse_eq_ok_iff.2 (parseChars_eq_some_iff.2 ⟨base, suffixes, hbase, hs, rfl⟩)⟩
  · have hread := parseChars_eq_some_iff.2 ⟨base, suffixes, hbase, rfl, rfl⟩
    exact ⟨_, parse_eq_ok_iff.2 hread, notate_ofSuffixes, leaf_ofSuffixes⟩
  · have hread := parse_eq_ok_iff.1 h
    obtain ⟨base, suffixes, hbase, rfl, rfl⟩ := parseChars_eq_some_iff.1 hread
    exact ⟨notate_ofSuffixes, isWord_of_parseChars hread⟩
  · unfold parse at h
    split at h
    · cases h
    · cases h
      rfl

/-- A list of maps: its notation is read, and written as it was. -/
theorem notation_exact_orders :
    IsWord "Order" ∧ parse "Order\x7b\x7d[]" = .ok (.array (.map (.named "Order"))) ∧
      (TypeExpr.array (.map (.named "Order"))).notate = "Order\x7b\x7d[]" := by
  have hword : IsWord "Order" := by decide
  have hread := notation_exact.2.2.2.2 (.array (.map (.named "Order"))) hword
  exact ⟨hword, hread, (notation_exact.2.2.1 _ _ hread).1⟩

end ApiCodegen.Proofs
