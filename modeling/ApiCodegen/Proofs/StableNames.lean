import ApiCodegen.Proofs.CasedNames

/-!
# Names that are converted again

The forms that make a cased word an identifier put a mark before it or underscores at its ends. The
mark is off when a name is converted again, and underscores at the ends of a name bound no word, so
that an identifier has the words that it was made of. A conversion that finds the same words gives
the same identifier.
-/

namespace ApiCodegen.Proofs
open Naming

/-! ### Separators at the ends -/

section Separators

lemma pieces_separator_cons (cs : List Char) : pieces ('_' :: cs) = [] :: pieces cs := by
  rw [pieces]
  cases hpieces : pieces cs with
  | nil => exact absurd hpieces (pieces_ne_nil cs)
  | cons piece rest => rfl

lemma pieces_append_separator (cs : List Char) : pieces (cs ++ ['_']) = pieces cs ++ [[]] := by
  induction cs with
  | nil => rfl
  | cons c cs ih =>
    rw [List.cons_append, pieces, ih, pieces]
    cases hpieces : pieces cs with
    | nil => exact absurd hpieces (pieces_ne_nil cs)
    | cons piece rest =>
      dsimp only [List.cons_append]
      split_ifs
      · rfl
      · rfl
      · rfl

lemma words_separator_cons (cs : List Char) :
    words (String.ofList ('_' :: cs)) = words (String.ofList cs) := by
  have hclean : clean '_' = '_' := rfl
  unfold words
  rw [String.toList_ofList, String.toList_ofList, List.map_cons, hclean, pieces_separator_cons]
  rfl

lemma words_append_separator (cs : List Char) :
    words (String.ofList (cs ++ ['_'])) = words (String.ofList cs) := by
  have hclean : ['_'].map clean = ['_'] := rfl
  unfold words
  rw [String.toList_ofList, String.toList_ofList, List.map_append, hclean,
    pieces_append_separator, List.filter_append]
  exact List.append_nil _

/-- What is taken off an identifier bounds no word. -/
lemma words_unmarked (ident : String) :
    words (String.ofList (unmarked ident)) = words (unraw ident) := by
  have hhead : ∀ cs : List Char,
      words (String.ofList (if cs.head? = some '_' then cs.tail else cs)) =
        words (String.ofList cs) := by
    intro cs
    split
    · rename_i h
      rw [← words_separator_cons cs.tail, List.cons_head?_tail h]
    · rfl
  have hlast : ∀ cs : List Char,
      words (String.ofList (if cs.getLast? = some '_' then cs.dropLast else cs)) =
        words (String.ofList cs) := by
    intro cs
    split
    · rename_i h
      rw [← words_append_separator cs.dropLast, List.dropLast_append_getLast? _ h]
    · rfl
  unfold unmarked
  dsimp only
  rw [hlast, hhead, String.ofList_toList]

end Separators

/-! ### The second conversion -/

/-- A name in snake case keeps its words. -/
lemma snakeKey_unraw_snakeName (name : String) :
    snakeKey (unraw (snakeName name)) = snakeKey name := by
  have hwords : words (unraw (snakeName name)) =
      words (String.ofList (['_'].intercalate (snakeKey name))) := by
    rw [← words_unmarked, snakeName_eq, unmarked_identifier (isCased_snakeKey name)]
  have hsnake : IsSnake (String.ofList (['_'].intercalate (snakeKey name))) := by
    intro word hword
    rw [String.toList_ofList, splitOn_snakeKey] at hword
    exact of_mem_snakeKey hword
  calc snakeKey (unraw (snakeName name))
      = snakeKey (String.ofList (['_'].intercalate (snakeKey name))) := by
        unfold snakeKey lowerWords
        rw [hwords]
        rfl
    _ = snakeKey name := by
        rw [snakeKey_of_isSnake hsnake, String.toList_ofList, splitOn_snakeKey]

lemma snakeName_unraw_snakeName (name : String) :
    snakeName (unraw (snakeName name)) = snakeName name :=
  snakeName_eq_iff.2 (snakeKey_unraw_snakeName name)

lemma moduleName_of_ne_empty {name : String} (h : name ≠ "") :
    standard.moduleName name = snakeName name :=
  if_neg fun hempty => h (String.isEmpty_iff.1 hempty)

lemma unraw_snakeName_ne_empty (name : String) : unraw (snakeName name) ≠ "" := by
  rw [snakeName_eq]
  exact (isIdentifier_iff.1 (isIdentifier_identifier (chars_snakeKey name))).ne_empty

/-- A name in snake case is its own name in snake case, once its mark is off: of a field, of a
function and of a module, also of the one that stands for no name. -/
theorem snake_names_stable (name : String) :
    standard.fieldName (unraw (standard.fieldName name)) = standard.fieldName name ∧
      standard.fnName (unraw (standard.fnName name)) = standard.fnName name ∧
      standard.moduleName (unraw (standard.moduleName name)) = standard.moduleName name := by
  have hvalue := snakeName_unraw_snakeName name
  have hfield : standard.fieldName = snakeName := rfl
  have hfn : standard.fnName = snakeName := rfl
  rw [hfield, hfn]
  refine ⟨hvalue, hvalue, ?_⟩
  by_cases hname : name = ""
  · subst hname
    decide +kernel
  · rw [moduleName_of_ne_empty hname, moduleName_of_ne_empty (unraw_snakeName_ne_empty name)]
    exact hvalue

example : (["crate", "2 Types", "match", "--"].map fun name => unraw (standard.fieldName name)) =
    ["crate_", "_2_types", "match", "unnamed"] := by
  decide +kernel

end ApiCodegen.Proofs
