import ApiCodegen.Naming.Policy
import Mathlib.Tactic.Common

/-!
# Identifiers without their marks

The mark of a raw identifier is no part of its name: two identifiers are the same variable if their
names without marks are equal. A policy marks exactly the keywords that may be marked, and no cased
word has a mark of its own, so that names in snake case differ without their marks if they differ at
all.
-/

namespace ApiCodegen.Proofs
open Naming

/-- The identifier of a word. -/
def marked (word : String) : String :=
  if keywords.contains word && !neverRaw.contains word then rawMark ++ word else word

lemma unraw_rawMark (word : String) : unraw (rawMark ++ word) = word := by
  have hchars : (rawMark ++ word).toList = 'r' :: '#' :: word.toList := by
    rw [String.toList_append]
    rfl
  unfold unraw
  rw [hchars]
  exact String.ofList_toList

lemma unraw_of_not_mem {word : String} (h : '#' ∉ word.toList) : unraw word = word := by
  unfold unraw
  split
  · rename_i rest hchars
    rw [hchars] at h
    simp at h
  · rfl

/-- Without its mark a name has its other characters. -/
lemma mem_unraw_or_mem_rawMark {name : String} {c : Char} (h : c ∈ name.toList) :
    c ∈ (unraw name).toList ∨ c ∈ rawMark.toList := by
  unfold unraw
  split
  · rename_i rest hchars
    have hmark : name.toList = rawMark.toList ++ rest := hchars
    rw [hmark, List.mem_append] at h
    rw [String.toList_ofList]
    exact h.symm
  · exact Or.inl h

lemma marked_unraw_identifier {cs : List Char} (h : '#' ∉ cs) :
    marked (unraw (identifier cs)) = identifier cs := by
  unfold identifier
  by_cases hempty : cs.isEmpty = true
  · rw [if_pos hempty]
    decide
  · rw [if_neg hempty]
    have hword : '#' ∉ (String.ofList (if startsWithDigit cs then '_' :: cs else cs)).toList := by
      rw [String.toList_ofList]
      split
      · exact List.not_mem_cons_of_ne_of_not_mem (by decide) h
      · exact h
    generalize String.ofList (if startsWithDigit cs then '_' :: cs else cs) = word at hword ⊢
    dsimp only
    by_cases hnever : neverRaw.contains word = true
    · have hall : ∀ w ∈ neverRaw, marked (unraw (w ++ "_")) = w ++ "_" := by decide
      rw [if_pos hnever]
      exact hall word (List.contains_iff_mem.1 hnever)
    · rw [if_neg hnever]
      have hplain : (!neverRaw.contains word) = true := by simpa using hnever
      by_cases hkeyword : keywords.contains word = true
      · rw [if_pos hkeyword, unraw_rawMark, marked, hkeyword, hplain]
        rfl
      · rw [if_neg hkeyword, unraw_of_not_mem hword, marked, Bool.eq_false_iff.2 hkeyword]
        rfl

/-! ### Characters of identifiers -/

/-- A name that is an identifier as it stands, keywords included. -/
structure IsPlain (name : String) : Prop where
  ne_empty : name ≠ ""
  start : startsWithDigit name.toList = false
  chars : ∀ c ∈ name.toList, c.isAlphanum = true ∨ c = '_'

section Plain

variable {name more : String} {cs : List Char}

lemma isIdentifier_iff : isIdentifier name = true ↔ IsPlain (unraw name) := by
  simp only [isIdentifier, Bool.and_eq_true, Bool.not_eq_true', List.all_eq_true, Bool.or_eq_true,
    beq_iff_eq, List.isEmpty_eq_false_iff, ne_eq, String.toList_eq_nil_iff]
  exact ⟨fun h => ⟨h.1.1, h.1.2, h.2⟩, fun h => ⟨⟨h.ne_empty, h.start⟩, h.chars⟩⟩

lemma IsPlain.notMem (h : IsPlain name) {c : Char} (hc : ¬(c.isAlphanum = true ∨ c = '_')) :
    c ∉ name.toList :=
  fun hmem => hc (h.chars c hmem)

lemma IsPlain.isIdentifier (h : IsPlain name) : isIdentifier name = true := by
  rwa [isIdentifier_iff, unraw_of_not_mem (h.notMem (by decide))]

lemma IsPlain.append (h : IsPlain name) (hmore : ∀ c ∈ more.toList, c.isAlphanum = true ∨ c = '_') :
    IsPlain (name ++ more) where
  ne_empty hempty := h.ne_empty (String.append_eq_empty_iff.1 hempty).1
  start := by
    obtain ⟨c, cs, hcs⟩ := List.exists_cons_of_ne_nil
      fun hnil => h.ne_empty (String.toList_eq_nil_iff.1 hnil)
    have hstart := h.start
    rw [hcs] at hstart
    rwa [String.toList_append, hcs]
  chars := by
    rw [String.toList_append]
    exact List.forall_mem_append.2 ⟨h.chars, hmore⟩

lemma isPlain_word (hne : cs ≠ []) (h : ∀ c ∈ cs, c.isAlphanum = true ∨ c = '_') :
    IsPlain (String.ofList (if startsWithDigit cs then '_' :: cs else cs)) := by
  split
  · refine ⟨by simp, ?_, ?_⟩
    · rw [String.toList_ofList]
      rfl
    · rw [String.toList_ofList]
      exact List.forall_mem_cons.2 ⟨Or.inr rfl, h⟩
  · rename_i hstart
    refine ⟨by simpa using hne, ?_, ?_⟩
    · rw [String.toList_ofList]
      exact Bool.eq_false_iff.2 hstart
    · rwa [String.toList_ofList]

lemma isIdentifier_identifier (h : ∀ c ∈ cs, c.isAlphanum = true ∨ c = '_') :
    isIdentifier (identifier cs) = true := by
  unfold identifier
  by_cases hempty : cs.isEmpty = true
  · rw [if_pos hempty]
    decide
  rw [if_neg hempty]
  have hword := isPlain_word (fun hnil => hempty (List.isEmpty_iff.2 hnil)) h
  generalize String.ofList (if startsWithDigit cs then '_' :: cs else cs) = word at hword ⊢
  dsimp only
  split_ifs
  · exact (hword.append (by simp)).isIdentifier
  · rwa [isIdentifier_iff, unraw_rawMark]
  · exact hword.isIdentifier

end Plain

/-! ### Characters of cased words -/

lemma subset_of_mem_pieces {cs piece : List Char} (h : piece ∈ pieces cs) : piece ⊆ cs := by
  induction cs generalizing piece with
  | nil =>
    rw [pieces, List.mem_singleton] at h
    rw [h]
    exact List.nil_subset []
  | cons d cs ih =>
    rw [pieces] at h
    cases hpieces : pieces cs with
    | nil =>
      rw [hpieces, List.mem_singleton] at h
      exact h ▸ List.cons_subset_cons d (List.nil_subset cs)
    | cons first rest =>
      rw [hpieces] at h ih
      dsimp only at h
      have hfirst : first ⊆ cs := ih List.mem_cons_self
      have hrest : ∀ piece ∈ rest, piece ⊆ d :: cs := fun piece hp =>
        List.subset_cons_of_subset d (ih (List.mem_cons_of_mem first hp))
      split_ifs at h
      · rcases List.mem_cons.1 h with rfl | h
        · exact List.nil_subset _
        · rcases List.mem_cons.1 h with rfl | h
          · exact List.subset_cons_of_subset d hfirst
          · exact hrest piece h
      · rcases List.mem_cons.1 h with rfl | h
        · exact List.cons_subset_cons d (List.nil_subset cs)
        · rcases List.mem_cons.1 h with rfl | h
          · exact List.subset_cons_of_subset d hfirst
          · exact hrest piece h
      · rcases List.mem_cons.1 h with rfl | h
        · exact List.cons_subset_cons d hfirst
        · exact hrest piece h

lemma clean_ne_hash (c : Char) : clean c ≠ '#' := by
  unfold clean
  by_cases hc : c.isAlphanum = true
  · rw [if_pos hc]
    rintro rfl
    exact absurd hc (by decide)
  · rw [if_neg hc]
    decide

lemma toLower_ne_hash {c : Char} (h : c ≠ '#') : c.toLower ≠ '#' := by
  unfold Char.toLower
  split
  · rename_i hupper
    intro heq
    have hval := congrArg (fun c => c.val.toNat) heq
    have hlow : 65 ≤ c.val.toNat := UInt32.le_iff_toNat_le.1 hupper.1
    have hhigh : c.val.toNat ≤ 90 := UInt32.le_iff_toNat_le.1 hupper.2
    have hshift : ('a'.val - 'A'.val).toNat = 32 := rfl
    have hhash : '#'.val.toNat = 35 := rfl
    dsimp only at hval
    rw [UInt32.toNat_add, hshift, hhash] at hval
    omega
  · exact h

lemma not_mem_intercalate {c : Char} {separator : List Char} (hseparator : c ∉ separator)
    {ls : List (List Char)} (h : ∀ l ∈ ls, c ∉ l) : c ∉ separator.intercalate ls := by
  match ls with
  | [] => exact List.not_mem_nil
  | [l] =>
    rw [List.intercalate_singleton]
    exact h l List.mem_cons_self
  | l :: k :: ls =>
    obtain ⟨hl, hrest⟩ := List.forall_mem_cons.1 h
    rw [List.intercalate_cons_cons, List.mem_append, List.mem_append, not_or, not_or]
    exact ⟨⟨hl, hseparator⟩, not_mem_intercalate hseparator hrest⟩

lemma hash_not_mem_snake (name : String) : '#' ∉ snake (words name) := by
  refine not_mem_intercalate (by decide) ?_
  rw [List.forall_mem_map]
  intro word hword hmem
  obtain ⟨c, hc, heq⟩ := List.mem_map.1 hmem
  have hcleaned : c ∈ name.toList.map clean := subset_of_mem_pieces (List.mem_filter.1 hword).1 hc
  obtain ⟨d, -, rfl⟩ := List.mem_map.1 hcleaned
  exact toLower_ne_hash (clean_ne_hash d) heq

lemma marked_unraw_snakeName (name : String) :
    marked (unraw (snakeName name)) = snakeName name :=
  marked_unraw_identifier (hash_not_mem_snake name)

lemma marked_unraw_moduleName (name : String) :
    marked (unraw (standard.moduleName name)) = standard.moduleName name := by
  change marked (unraw (if name.isEmpty then "root" else snakeName name)) =
    if name.isEmpty then "root" else snakeName name
  split
  · decide
  · exact marked_unraw_snakeName name

/-- Names in snake case that are the same variable are equal. -/
theorem unraw_snakeName_inj {a b : String}
    (h : unraw (snakeName a) = unraw (snakeName b)) : snakeName a = snakeName b := by
  rw [← marked_unraw_snakeName a, h, marked_unraw_snakeName]

/-- Modules of the standard policy with one name are one module. -/
lemma unraw_moduleName_inj {a b : String}
    (h : unraw (standard.moduleName a) = unraw (standard.moduleName b)) :
    standard.moduleName a = standard.moduleName b := by
  rw [← marked_unraw_moduleName a, h, marked_unraw_moduleName]

end ApiCodegen.Proofs
