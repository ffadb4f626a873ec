import ApiCodegen.Proofs.ModuleLookup
import Mathlib.Data.List.Chain

/-!
# Legal names

The standard policy gives a legal identifier for every text: letters and digits are all that is left
of it, and each of the forms that a cased word is given (another name for no word at all, an
underscore before a digit or behind a word that may not be raw, a mark before other keywords) makes
what was illegal legal, and nothing illegal again. Names in snake case have no capitals and no gap
in their underscores.
-/

namespace ApiCodegen.Proofs
open Naming

/-- A name that may stand for an item of its own. -/
structure IsLegal (ident : String) : Prop where
  /-- Without its mark it is a word of letters, digits and underscores. -/
  plain : IsPlain (unraw ident)
  word : unraw ident ≠ "_"
  mark : rawMark.toList <+: ident.toList ↔ TakesMark (unraw ident)
  bare : ident ∉ keywords
  special : unraw ident ∉ neverRaw

/-- Neither capitals nor an underscore behind another one. -/
structure IsQuiet (cs : List Char) : Prop where
  lower : ∀ c ∈ cs, ¬c.isUpper = true
  gaps : cs.IsChain fun c d => ¬(c = '_' ∧ d = '_')

/-! ### Forms of a cased word -/

section Forms

variable {cs ds : List Char} {word : String}

lemma hash_notMem (h : ∀ c ∈ cs, c.isAlphanum = true ∨ c = '_') : '#' ∉ cs := fun hmem =>
  absurd (h '#' hmem) (by decide)

/-- The identifier of a word that is none of those which may not even be raw. -/
lemma isLegal_marked (hplain : IsPlain word) (hspecial : word ∉ neverRaw) :
    IsLegal (marked word) := by
  have hhash : '#' ∉ word.toList := hplain.notMem (by decide)
  by_cases hmark : TakesMark word
  · have hkeywords : ∀ k ∈ keywords, '#' ∉ k.toList := by decide
    rw [marked_of_takesMark hmark]
    refine ⟨?_, ?_, ?_, ?_, ?_⟩
    · rwa [unraw_rawMark]
    · rw [unraw_rawMark]
      exact fun h => hspecial (by rw [h]; decide)
    · rw [unraw_rawMark, String.toList_append]
      exact iff_of_true (List.prefix_append _ _) hmark
    · intro hmem
      refine hkeywords _ hmem ?_
      rw [String.toList_append]
      exact List.mem_append_left _ (by decide)
    · rwa [unraw_rawMark]
  · rw [marked_eq_self_iff.2 hmark]
    have hunraw : unraw word = word := unraw_of_not_mem hhash
    refine ⟨?_, ?_, ?_, ?_, ?_⟩
    · rwa [hunraw]
    · rw [hunraw]
      exact fun h => hspecial (by rw [h]; decide)
    · rw [hunraw]
      exact iff_of_false (fun h => hhash (h.subset (by decide))) hmark
    · exact fun hmem => hmark ⟨hmem, hspecial⟩
    · rwa [hunraw]

lemma unraw_identifier_notMem (h : '#' ∉ cs) : unraw (identifier cs) ∉ neverRaw := by
  unfold identifier
  by_cases hempty : cs.isEmpty = true
  · rw [if_pos hempty]
    decide
  · rw [if_neg hempty]
    have hword : '#' ∉ (String.ofList (if startsWithDigit cs then '_' :: cs else cs)).toList := by
      rw [String.toList_ofList]
      split
      · exact List.not_mem_cons_of_ne_of_not_mem (by decide) h
      · exact h
    generalize String.ofList (if startsWithDigit cs then '_' :: cs else cs) = word at hword ⊢
    dsimp only
    by_cases hnever : neverRaw.contains word = true
    · have hall : ∀ w ∈ neverRaw, unraw (w ++ "_") ∉ neverRaw := by decide
      rw [if_pos hnever]
      exact hall word (List.contains_iff_mem.1 hnever)
    · rw [if_neg hnever]
      have hother : word ∉ neverRaw := fun hmem => hnever (List.contains_iff_mem.2 hmem)
      split
      · rwa [unraw_rawMark]
      · rwa [unraw_of_not_mem hword]

/-- Every word of letters, digits and underscores is given a legal form. -/
theorem isLegal_identifier (h : ∀ c ∈ cs, c.isAlphanum = true ∨ c = '_') :
    IsLegal (identifier cs) := by
  have hplain : IsPlain (unraw (identifier cs)) := isIdentifier_iff.1 (isIdentifier_identifier h)
  have hlegal := isLegal_marked hplain (unraw_identifier_notMem (hash_notMem h))
  rwa [marked_unraw_identifier (hash_notMem h)] at hlegal

lemma isQuiet_nil : IsQuiet [] := ⟨nofun, List.isChain_nil⟩

lemma isQuiet_underscore : IsQuiet ['_'] :=
  ⟨List.forall_mem_singleton.2 (by decide), List.isChain_singleton _⟩

lemma IsQuiet.append (hcs : IsQuiet cs) (hds : IsQuiet ds)
    (hgap : cs.getLast? ≠ some '_' ∨ ds.head? ≠ some '_') : IsQuiet (cs ++ ds) where
  lower := List.forall_mem_append.2 ⟨hcs.lower, hds.lower⟩
  gaps := by
    refine List.isChain_append.2 ⟨hcs.gaps, hds.gaps, ?_⟩
    rintro c hc d hd ⟨rfl, rfl⟩
    exact hgap.elim (fun h => h hc) fun h => h hd

/-- No form brings in a capital, or an underscore beside another one. -/
lemma isQuiet_identifier (h : IsQuiet cs) (hcased : IsCased cs) :
    IsQuiet (identifier cs).toList := by
  have hempty : cs.isEmpty = false := by simpa using hcased.ne_nil
  have hword : IsQuiet (if startsWithDigit cs then '_' :: cs else cs) := by
    split
    · exact isQuiet_underscore.append h (Or.inr hcased.head)
    · exact h
  have hlone : (if startsWithDigit cs then '_' :: cs else cs) ≠ ['_'] := by
    split
    · exact fun heq => hcased.ne_nil (List.cons.inj heq).2
    · exact fun heq => hcased.head (by rw [heq]; rfl)
  unfold identifier
  simp only [hempty, Bool.false_eq_true, if_false]
  generalize (if startsWithDigit cs then '_' :: cs else cs) = ds at hword hlone ⊢
  split
  · rename_i hnever
    have hall : ∀ w ∈ neverRaw, w.toList ≠ ['_'] → w.toList.getLast? ≠ some '_' := by decide
    have hlast := hall _ (List.contains_iff_mem.1 hnever) (by rwa [String.toList_ofList])
    rw [String.toList_ofList] at hlast
    rw [String.toList_append, String.toList_ofList]
    exact hword.append isQuiet_underscore (Or.inl hlast)
  · split
    · have hmark : IsQuiet rawMark.toList :=
        ⟨List.forall_mem_cons.2 ⟨by decide, List.forall_mem_singleton.2 (by decide)⟩,
          List.isChain_pair.2 (by decide)⟩
      rw [String.toList_append, String.toList_ofList]
      exact hmark.append hword (Or.inl (by decide))
    · rwa [String.toList_ofList]

end Forms

/-! ### Cased words -/

section Words

variable {ls : List (List Char)} {word : List Char}

lemma IsLowerWord.isQuiet (h : IsLowerWord word) : IsQuiet word where
  lower c hc := not_isUpper (h.chars c hc)
  gaps := by
    refine (List.pairwise_of_forall_mem_list fun c hc d _ hboth => ?_).isChain
    exact h.underscore_notMem (hboth.1 ▸ hc)

lemma isQuiet_intercalate (h : ∀ word ∈ ls, IsLowerWord word) :
    IsQuiet (['_'].intercalate ls) := by
  induction ls with
  | nil => exact isQuiet_nil
  | cons word ls ih =>
    obtain ⟨hword, hrest⟩ := List.forall_mem_cons.1 h
    cases ls with
    | nil =>
      rw [List.intercalate_singleton]
      exact hword.isQuiet
    | cons next ls =>
      have hlater := isCased_intercalate (List.cons_ne_nil next ls) hrest
      rw [List.intercalate_cons_cons, List.append_assoc]
      refine hword.isQuiet.append ?_ (Or.inl hword.isCased.last)
      exact isQuiet_underscore.append (ih hrest) (Or.inr hlater.head)

lemma isLegal_snakeName (name : String) : IsLegal (snakeName name) := by
  rw [snakeName_eq]
  exact isLegal_identifier (chars_snakeKey name)

lemma isQuiet_snakeName (name : String) : IsQuiet (snakeName name).toList := by
  rw [snakeName_eq]
  exact isQuiet_identifier (isQuiet_intercalate fun _ => of_mem_snakeKey) (isCased_snakeKey name)

lemma isLegal_pascalName (name : String) : IsLegal (pascalName name) := by
  unfold pascalName
  rw [← pascal_lowerWords]
  exact isLegal_identifier fun c hc =>
    Or.inl (isAlphanum_of_mem_pascal (fun _ => of_mem_lowerWords) hc)

end Words

/-- The standard policy gives legal identifiers for all names, and quiet ones for names of values,
functions and modules. -/
theorem standard_names_legal (name : String) :
    IsLegal (standard.typeName name) ∧ IsLegal (standard.variantName name) ∧
      (IsLegal (standard.fieldName name) ∧ IsQuiet (standard.fieldName name).toList) ∧
      (IsLegal (standard.fnName name) ∧ IsQuiet (standard.fnName name).toList) ∧
      IsLegal (standard.moduleName name) ∧ IsQuiet (standard.moduleName name).toList := by
  have htype : IsLegal (pascalName name) := isLegal_pascalName name
  have hvalue : IsLegal (snakeName name) ∧ IsQuiet (snakeName name).toList :=
    ⟨isLegal_snakeName name, isQuiet_snakeName name⟩
  have hmodule :
      IsLegal (standard.moduleName name) ∧ IsQuiet (standard.moduleName name).toList := by
    change IsLegal (if name.isEmpty then "root" else snakeName name) ∧
      IsQuiet (if name.isEmpty then "root" else snakeName name).toList
    split
    · have hroot : snakeName "root" = "root" := by decide +kernel
      rw [← hroot]
      exact ⟨isLegal_snakeName "root", isQuiet_snakeName "root"⟩
    · exact hvalue
  exact ⟨htype, htype, hvalue, hvalue, hmodule⟩

example : (standard.fieldName "crate", standard.fieldName "2 Types", standard.fieldName "match",
    standard.typeName "self") = ("crate_", "_2_types", "r#match", "Self_") := by
  decide +kernel

end ApiCodegen.Proofs
