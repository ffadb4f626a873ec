import ApiCodegen.Proofs.Identifiers
import ApiCodegen.Proofs.LetterCase
import Mathlib.Data.List.Nodup

/-!
# When two names become one identifier

The standard policy loses the case of letters and the characters between words, and nothing else in
names of values: `snakeKey` is what it keeps of them. In names of types it also loses the gap before
a word that starts with a digit, as `typeKey` says. Two names become the same identifier exactly if
their keys are equal. The forms that make a cased word an identifier lose nothing, for `unmarked`
takes them back.
-/

namespace ApiCodegen.Proofs
open Naming

/-! ### Words -/

section Words

variable {name : String} {cs word : List Char} {c : Char}

lemma pieces_ne_nil (cs : List Char) : pieces cs ≠ [] := by
  cases cs with
  | nil => exact List.cons_ne_nil _ _
  | cons c cs =>
    rw [pieces]
    split
    · exact List.cons_ne_nil _ _
    · split_ifs
      · exact List.cons_ne_nil _ _
      · exact List.cons_ne_nil _ _
      · exact List.cons_ne_nil _ _

/-- Nothing but separators is lost between the pieces. -/
lemma flatten_pieces (cs : List Char) : (pieces cs).flatten = cs.filter (· ≠ '_') := by
  induction cs with
  | nil => rfl
  | cons c cs ih =>
    rw [pieces]
    cases hpieces : pieces cs with
    | nil => exact absurd hpieces (pieces_ne_nil cs)
    | cons piece rest =>
      rw [hpieces] at ih
      dsimp only
      by_cases hc : c = '_'
      · rw [if_pos hc, List.filter_cons_of_neg (by simp [hc]), ← ih]
        rfl
      · rw [if_neg hc, List.filter_cons_of_pos (by simp [hc]), ← ih]
        split
        · rfl
        · rfl

lemma of_mem_words (h : word ∈ words name) : word ≠ [] ∧ ∀ c ∈ word, c.isAlphanum = true := by
  obtain ⟨hpiece, hne⟩ := List.mem_filter.1 h
  refine ⟨by simpa using hne, fun c hc => ?_⟩
  have hflat : c ∈ (pieces (name.toList.map clean)).flatten := List.mem_flatten.2 ⟨word, hpiece, hc⟩
  rw [flatten_pieces, List.mem_filter] at hflat
  obtain ⟨hmem, hseparator⟩ := hflat
  obtain ⟨d, -, rfl⟩ := List.mem_map.1 hmem
  unfold clean at hseparator ⊢
  split
  · assumption
  · rename_i hclean
    rw [if_neg hclean] at hseparator
    exact absurd hseparator (by decide)

/-- A word in lower case. -/
structure IsLowerWord (word : List Char) : Prop where
  ne_nil : word ≠ []
  chars : ∀ c ∈ word, c.isLower = true ∨ c.isDigit = true

lemma isLower_or_isDigit (h : c.isAlphanum = true) :
    c.toLower.isLower = true ∨ c.toLower.isDigit = true := by
  rw [isLower_toLower]
  rcases Bool.or_eq_true_iff.1 h with halpha | hdigit
  · exact Or.inl halpha
  · by_cases hupper : c.isUpper = true
    · exact Or.inl (isAlpha_of_isUpper hupper)
    · exact Or.inr (by rwa [toLower_eq_self hupper])

/-- The words of a name in lower case. -/
def lowerWords (name : String) : List (List Char) :=
  (words name).map (·.map Char.toLower)

lemma of_mem_lowerWords (h : word ∈ lowerWords name) : IsLowerWord word := by
  obtain ⟨w, hw, rfl⟩ := List.mem_map.1 h
  obtain ⟨hne, hchars⟩ := of_mem_words hw
  refine ⟨by simpa using hne, ?_⟩
  rw [List.forall_mem_map]
  exact fun c hc => isLower_or_isDigit (hchars c hc)

lemma isAlpha_eq_false (h : c.isDigit = true) : c.isAlpha = false := by
  rw [Bool.eq_false_iff]
  intro halpha
  rw [isAlpha_iff, isUpper_iff, isLower_iff] at halpha
  rw [isDigit_iff] at h
  omega

lemma not_isUpper (h : c.isLower = true ∨ c.isDigit = true) : ¬c.isUpper = true := by
  rcases h with h | h
  · exact not_isUpper_of_isLower h
  · intro hupper
    exact Bool.eq_false_iff.1 (isAlpha_eq_false h) (isAlpha_of_isUpper hupper)

lemma toUpper_of_isDigit (h : c.isDigit = true) : c.toUpper = c := by
  refine toUpper_eq_self fun hlower => ?_
  exact Bool.eq_false_iff.1 (isAlpha_eq_false h) (isAlpha_of_isLower hlower)

lemma IsLowerWord.underscore_notMem (h : IsLowerWord word) : '_' ∉ word := by
  intro hmem
  rcases h.chars _ hmem with h | h
  · exact absurd h (by decide)
  · exact absurd h (by decide)

lemma IsLowerWord.hash_notMem (h : IsLowerWord word) : '#' ∉ word := by
  intro hmem
  rcases h.chars _ hmem with h | h
  · exact absurd h (by decide)
  · exact absurd h (by decide)

lemma IsLowerWord.map_toLower (h : IsLowerWord word) : word.map Char.toLower = word := by
  have hsame : ∀ c ∈ word, c.toLower = id c := fun c hc =>
    toLower_eq_self (not_isUpper (h.chars c hc))
  rw [List.map_congr_left hsame, List.map_id]

end Words

/-! ### Identifiers of cased words -/

/-- Letters, digits and underscores, none of these at either end. -/
structure IsCased (cs : List Char) : Prop where
  ne_nil : cs ≠ []
  hash : '#' ∉ cs
  head : cs.head? ≠ some '_'
  last : cs.getLast? ≠ some '_'

lemma isCased_of_isAlphanum {cs : List Char} (hne : cs ≠ []) (h : ∀ c ∈ cs, c.isAlphanum = true) :
    IsCased cs where
  ne_nil := hne
  hash hmem := absurd (h _ hmem) (by decide)
  head hhead := absurd (h _ (List.mem_of_mem_head? hhead)) (by decide)
  last hlast := absurd (h _ (List.mem_of_mem_getLast? hlast)) (by decide)

lemma IsLowerWord.isAlphanum {word : List Char} (h : IsLowerWord word) :
    ∀ c ∈ word, c.isAlphanum = true := by
  intro c hc
  exact isAlphanum_iff.2 ((h.chars c hc).imp_left isAlpha_of_isLower)

lemma IsLowerWord.isCased {word : List Char} (h : IsLowerWord word) : IsCased word :=
  isCased_of_isAlphanum h.ne_nil h.isAlphanum

/-- The cased word that an identifier was made of. -/
def unmarked (ident : String) : List Char :=
  let cs := (unraw ident).toList
  let cs := if cs.head? = some '_' then cs.tail else cs
  if cs.getLast? = some '_' then cs.dropLast else cs

section Identifiers

variable {cs ds : List Char}

lemma unmarked_identifier (h : IsCased cs) : unmarked (identifier cs) = cs := by
  have hempty : cs.isEmpty = false := by simpa using h.ne_nil
  generalize hword : String.ofList (if startsWithDigit cs then '_' :: cs else cs) = word
  have hchars : word.toList = if startsWithDigit cs then '_' :: cs else cs := by
    rw [← hword, String.toList_ofList]
  have hplain : ∀ ident, unraw ident = word → unmarked ident = cs := by
    intro ident hident
    unfold unmarked
    rw [hident, hchars]
    split
    · simp [h.last]
    · simp [h.head, h.last]
  have hhash : '#' ∉ word.toList := by
    rw [hchars]
    split
    · exact List.not_mem_cons_of_ne_of_not_mem (by decide) h.hash
    · exact h.hash
  simp only [identifier, hempty, Bool.false_eq_true, if_false, hword]
  by_cases hnever : neverRaw.contains word = true
  · rw [if_pos hnever]
    have hmem : word ∈ neverRaw := List.contains_iff_mem.1 hnever
    have hdigit : ∀ w ∈ neverRaw, w.toList.head? = some '_' → w.toList.tail = [] := by decide
    have hall : ∀ w ∈ neverRaw, w.toList.head? ≠ some '_' → unmarked (w ++ "_") = w.toList := by
      decide
    split at hchars
    · have htail := hdigit word hmem (by rw [hchars]; rfl)
      rw [hchars] at htail
      exact absurd htail h.ne_nil
    · rw [hall word hmem (by rw [hchars]; exact h.head), hchars]
  · rw [if_neg hnever]
    by_cases hkeyword : keywords.contains word = true
    · rw [if_pos hkeyword]
      exact hplain _ (unraw_rawMark word)
    · rw [if_neg hkeyword]
      exact hplain _ (unraw_of_not_mem hhash)

lemma identifier_inj (hcs : IsCased cs) (hds : IsCased ds) :
    identifier cs = identifier ds ↔ cs = ds := by
  refine ⟨fun h => ?_, congrArg identifier⟩
  rw [← unmarked_identifier hcs, h, unmarked_identifier hds]

lemma identifier_nil : identifier [] = identifier "unnamed".toList := rfl

end Identifiers

/-! ### Names of values -/

section Values

variable {ls : List (List Char)} {a b : String}

/-- What the name of a value keeps. -/
def snakeKey (name : String) : List (List Char) :=
  if (lowerWords name).isEmpty then ["unnamed".toList] else lowerWords name

lemma of_mem_snakeKey {name : String} {word : List Char} (h : word ∈ snakeKey name) :
    IsLowerWord word := by
  unfold snakeKey at h
  split at h
  · rw [List.mem_singleton] at h
    rw [h]
    exact ⟨by simp, by simp⟩
  · exact of_mem_lowerWords h

lemma snakeKey_ne_nil (name : String) : snakeKey name ≠ [] := by
  unfold snakeKey
  split
  · exact List.cons_ne_nil _ _
  · rename_i hwords
    simpa using hwords

lemma snakeName_eq (name : String) :
    snakeName name = identifier (['_'].intercalate (snakeKey name)) := by
  unfold snakeName snakeKey snake
  change identifier (['_'].intercalate (lowerWords name)) = _
  split
  · rename_i hwords
    rw [List.isEmpty_iff.1 hwords]
    exact identifier_nil
  · rfl

lemma isCased_intercalate (hne : ls ≠ []) (h : ∀ word ∈ ls, IsLowerWord word) :
    IsCased (['_'].intercalate ls) := by
  induction ls with
  | nil => exact absurd rfl hne
  | cons word ls ih =>
    obtain ⟨hword, hrest⟩ := List.forall_mem_cons.1 h
    cases ls with
    | nil =>
      rw [List.intercalate_singleton]
      exact hword.isCased
    | cons next ls =>
      have hlater := ih (List.cons_ne_nil _ _) hrest
      rw [List.intercalate_cons_cons]
      refine ⟨by simp, ?_, ?_, ?_⟩
      · simp [hword.hash_notMem, hlater.hash]
      · rw [List.append_assoc, List.head?_append_of_ne_nil _ hword.ne_nil]
        exact hword.isCased.head
      · rw [List.getLast?_append_of_ne_nil _ hlater.ne_nil]
        exact hlater.last

lemma isCased_snakeKey (name : String) : IsCased (['_'].intercalate (snakeKey name)) :=
  isCased_intercalate (snakeKey_ne_nil name) fun _ => of_mem_snakeKey

lemma splitOn_snakeKey (name : String) :
    (['_'].intercalate (snakeKey name)).splitOn '_' = snakeKey name :=
  List.splitOn_intercalate _ (fun _ hword => (of_mem_snakeKey hword).underscore_notMem)
    (snakeKey_ne_nil name)

/-- Two names are the same value exactly if they have the same words but for their case. -/
theorem snakeName_eq_iff : snakeName a = snakeName b ↔ snakeKey a = snakeKey b := by
  rw [snakeName_eq, snakeName_eq, identifier_inj (isCased_snakeKey a) (isCased_snakeKey b)]
  refine ⟨fun h => ?_, congrArg _⟩
  rw [← splitOn_snakeKey a, h, splitOn_snakeKey b]

lemma chars_snakeKey (name : String) :
    ∀ c ∈ ['_'].intercalate (snakeKey name), c.isAlphanum = true ∨ c = '_' := by
  intro c hc
  by_contra hother
  have hseparator : c ∉ ['_'] := fun hmem => hother (Or.inr (List.mem_singleton.1 hmem))
  refine not_mem_intercalate hseparator (fun word hword hmem => hother (Or.inl ?_)) hc
  exact (of_mem_snakeKey hword).isAlphanum c hmem

lemma isIdentifier_moduleName (name : String) : isIdentifier (standard.moduleName name) = true := by
  change isIdentifier (if name.isEmpty then "root" else snakeName name) = true
  split
  · decide
  · rw [snakeName_eq]
    exact isIdentifier_identifier (chars_snakeKey name)

end Values

/-! ### Names of types -/

section Types

variable {ls : List (List Char)} {word next cs : List Char} {a b : String}

/-- Joins words that start with a digit to the words before them. -/
def joinDigits : List (List Char) → List (List Char)
  | [] => []
  | word :: words =>
    match joinDigits words with
    | [] => [word]
    | next :: rest => if startsWithDigit next then (word ++ next) :: rest else word :: next :: rest

/-- What the name of a type keeps. -/
def typeKey (name : String) : List (List Char) :=
  joinDigits (lowerWords name)

lemma capitalize_toLower (word : List Char) :
    capitalize (word.map Char.toLower) = capitalize word := by
  cases word with
  | nil => rfl
  | cons c cs => simp [capitalize]

lemma pascal_lowerWords (name : String) : pascal (lowerWords name) = pascal (words name) := by
  unfold pascal lowerWords
  rw [List.flatMap_map]
  exact congrArg (List.flatMap · _) (funext capitalize_toLower)

lemma IsLowerWord.append (hword : IsLowerWord word) (hnext : IsLowerWord next) :
    IsLowerWord (word ++ next) where
  ne_nil := List.append_ne_nil_of_left_ne_nil hword.ne_nil _
  chars c hc := (List.mem_append.1 hc).elim (hword.chars c) (hnext.chars c)

lemma capitalize_append (hword : IsLowerWord word) (hdigit : startsWithDigit next = true) :
    capitalize (word ++ next) = capitalize word ++ capitalize next := by
  obtain ⟨c, cs, rfl⟩ := List.exists_cons_of_ne_nil hword.ne_nil
  cases next with
  | nil => cases hdigit
  | cons d ds =>
    have hd : d.isDigit = true := by simpa [startsWithDigit] using hdigit
    have hlower : d.toLower = d := toLower_eq_self (not_isUpper (Or.inr hd))
    simp [capitalize, hlower, toUpper_of_isDigit hd]

lemma joinDigits_eq_nil_iff : joinDigits ls = [] ↔ ls = [] := by
  cases ls with
  | nil => exact iff_of_true rfl rfl
  | cons word words =>
    rw [joinDigits]
    split
    · simp
    · split_ifs
      · simp
      · simp

lemma of_mem_joinDigits (h : ∀ word ∈ ls, IsLowerWord word) :
    ∀ word ∈ joinDigits ls, IsLowerWord word := by
  induction ls with
  | nil => exact fun word hword => nomatch hword
  | cons word words ih =>
    obtain ⟨hword, hwords⟩ := List.forall_mem_cons.1 h
    have hjoined := ih hwords
    rw [joinDigits]
    cases hrest : joinDigits words with
    | nil => exact List.forall_mem_cons.2 ⟨hword, fun word hword => nomatch hword⟩
    | cons next rest =>
      rw [hrest] at hjoined
      obtain ⟨hnext, hrest⟩ := List.forall_mem_cons.1 hjoined
      dsimp only
      split_ifs
      · exact List.forall_mem_cons.2 ⟨hword.append hnext, hrest⟩
      · exact List.forall_mem_cons.2 ⟨hword, hjoined⟩

/-- Only the first word may still start with a digit. -/
lemma startsWithDigit_of_mem_tail :
    ∀ word ∈ (joinDigits ls).tail, startsWithDigit word = false := by
  induction ls with
  | nil => exact fun word hword => nomatch hword
  | cons word words ih =>
    rw [joinDigits]
    cases hrest : joinDigits words with
    | nil => exact fun word hword => nomatch hword
    | cons next rest =>
      rw [hrest] at ih
      dsimp only
      split_ifs with hdigit
      · exact ih
      · exact List.forall_mem_cons.2 ⟨Bool.eq_false_iff.2 hdigit, ih⟩

lemma pascal_joinDigits (h : ∀ word ∈ ls, IsLowerWord word) : pascal (joinDigits ls) = pascal ls := by
  induction ls with
  | nil => rfl
  | cons word words ih =>
    obtain ⟨hword, hwords⟩ := List.forall_mem_cons.1 h
    have hsame := ih hwords
    have hcons : pascal (word :: words) = capitalize word ++ pascal words := List.flatMap_cons
    rw [joinDigits, hcons, ← hsame]
    cases hrest : joinDigits words with
    | nil => rfl
    | cons next rest =>
      dsimp only
      split_ifs with hdigit
      · unfold pascal
        rw [List.flatMap_cons, List.flatMap_cons, capitalize_append hword hdigit, List.append_assoc]
      · rfl

/-- Cuts a text before its capitals. -/
def cutCapitals : List Char → List (List Char)
  | [] => []
  | c :: cs =>
    match cutCapitals cs with
    | [] => [[c]]
    | piece :: rest =>
      if piece.head?.any Char.isUpper then [c] :: piece :: rest else (c :: piece) :: rest

lemma exists_cutCapitals (c : Char) (cs : List Char) :
    ∃ piece rest, cutCapitals (c :: cs) = (c :: piece) :: rest := by
  rw [cutCapitals]
  split
  · exact ⟨_, _, rfl⟩
  · split_ifs
    · exact ⟨_, _, rfl⟩
    · exact ⟨_, _, rfl⟩

lemma cutCapitals_append {c : Char} {rest : List Char} (hcs : ∀ d ∈ cs, ¬d.isUpper = true)
    (hrest : ∀ d ∈ rest.head?, d.isUpper = true) :
    cutCapitals (c :: (cs ++ rest)) = (c :: cs) :: cutCapitals rest := by
  induction cs generalizing c with
  | nil =>
    cases rest with
    | nil => rfl
    | cons d ds =>
      obtain ⟨piece, pieces, hcut⟩ := exists_cutCapitals d ds
      have hupper : d.isUpper = true := hrest d rfl
      rw [List.nil_append, cutCapitals, hcut]
      exact if_pos hupper
  | cons d ds ih =>
    obtain ⟨hd, hds⟩ := List.forall_mem_cons.1 hcs
    rw [List.cons_append, cutCapitals, ih hds]
    exact if_neg hd

lemma cutCapitals_pascal (h : ∀ word ∈ ls, IsLowerWord word)
    (hdigit : ∀ word ∈ ls.tail, startsWithDigit word = false) :
    cutCapitals (pascal ls) = ls.map capitalize := by
  induction ls with
  | nil => rfl
  | cons word words ih =>
    obtain ⟨hword, hwords⟩ := List.forall_mem_cons.1 h
    have hlater := ih hwords fun word hmem => hdigit word (List.mem_of_mem_tail hmem)
    obtain ⟨c, cs, rfl⟩ := List.exists_cons_of_ne_nil hword.ne_nil
    have hcons : pascal ((c :: cs) :: words) =
        c.toUpper :: (cs.map Char.toLower ++ pascal words) := List.flatMap_cons
    have hlower : ∀ d ∈ cs.map Char.toLower, ¬d.isUpper = true := by
      simp
    have hcapital : ∀ d ∈ (pascal words).head?, d.isUpper = true := by
      intro d hd
      cases words with
      | nil => cases hd
      | cons next words =>
        have hnext := hwords next List.mem_cons_self
        have hfirst : startsWithDigit next = false := hdigit next List.mem_cons_self
        obtain ⟨k, ks, rfl⟩ := List.exists_cons_of_ne_nil hnext.ne_nil
        obtain rfl : k.toUpper = d := Option.some.inj hd
        have hletter : k.isLower = true :=
          (hnext.chars k List.mem_cons_self).resolve_right (Bool.eq_false_iff.1 hfirst)
        rw [isUpper_toUpper, isAlpha_of_isLower hletter]
    rw [hcons, cutCapitals_append hlower hcapital, hlater]
    rfl

lemma map_toLower_capitalize (h : IsLowerWord word) : (capitalize word).map Char.toLower = word := by
  conv_rhs => rw [← h.map_toLower]
  cases word with
  | nil => rfl
  | cons c cs => simp [capitalize]

lemma pascal_inj {ks : List (List Char)} (hls : ∀ word ∈ ls, IsLowerWord word)
    (hks : ∀ word ∈ ks, IsLowerWord word) :
    pascal ls = pascal ks ↔ joinDigits ls = joinDigits ks := by
  have hback : ∀ {ws : List (List Char)}, (∀ word ∈ ws, IsLowerWord word) →
      (cutCapitals (pascal ws)).map (·.map Char.toLower) = joinDigits ws := by
    intro ws hws
    rw [← pascal_joinDigits hws,
      cutCapitals_pascal (of_mem_joinDigits hws) startsWithDigit_of_mem_tail, List.map_map]
    refine (List.map_congr_left fun word hword => ?_).trans (List.map_id _)
    exact map_toLower_capitalize (of_mem_joinDigits hws word hword)
  constructor
  · intro h
    rw [← hback hls, h, hback hks]
  · intro h
    rw [← pascal_joinDigits hls, h, pascal_joinDigits hks]

lemma isAlphanum_of_mem_pascal (h : ∀ word ∈ ls, IsLowerWord word) {c : Char}
    (hc : c ∈ pascal ls) : c.isAlphanum = true := by
  obtain ⟨word, hword, hc⟩ := List.mem_flatMap.1 hc
  obtain ⟨d, ds, rfl⟩ := List.exists_cons_of_ne_nil (h word hword).ne_nil
  obtain ⟨hd, hds⟩ := List.forall_mem_cons.1 (h _ hword).isAlphanum
  rcases List.mem_cons.1 hc with rfl | hc
  · rcases Bool.or_eq_true_iff.1 hd with halpha | hdigit
    · exact isAlphanum_iff.2 (Or.inl ((isAlpha_toUpper d).trans halpha))
    · rwa [toUpper_of_isDigit hdigit]
  · obtain ⟨k, hk, rfl⟩ := List.mem_map.1 hc
    exact isAlphanum_iff.2 ((isLower_or_isDigit (hds k hk)).imp_left isAlpha_of_isLower)

lemma isCased_pascal (hne : ls ≠ []) (h : ∀ word ∈ ls, IsLowerWord word) : IsCased (pascal ls) := by
  refine isCased_of_isAlphanum ?_ fun c => isAlphanum_of_mem_pascal h
  obtain ⟨word, words, rfl⟩ := List.exists_cons_of_ne_nil hne
  obtain ⟨c, cs, rfl⟩ := List.exists_cons_of_ne_nil (h word List.mem_cons_self).ne_nil
  exact List.cons_ne_nil _ _

lemma pascal_ne_unnamed (h : ∀ word ∈ ls, IsLowerWord word) : pascal ls ≠ "unnamed".toList := by
  intro hname
  cases ls with
  | nil => exact absurd hname (by decide)
  | cons word words =>
    obtain ⟨c, cs, rfl⟩ := List.exists_cons_of_ne_nil (h word List.mem_cons_self).ne_nil
    have hfirst : c.toUpper = 'u' := Option.some.inj (congrArg List.head? hname)
    have hlower := isLower_toUpper c
    rw [hfirst] at hlower
    exact absurd hlower (by decide)

/-- Two names are the same type exactly if they have the same words but for their case and for gaps
before digits. -/
theorem pascalName_eq_iff : pascalName a = pascalName b ↔ typeKey a = typeKey b := by
  have hlower : ∀ name, ∀ word ∈ lowerWords name, IsLowerWord word := fun _ _ => of_mem_lowerWords
  have hcased : ∀ {name}, lowerWords name ≠ [] → IsCased (pascal (lowerWords name)) :=
    fun hne => isCased_pascal hne (hlower _)
  have hunnamed : ∀ {name}, lowerWords name ≠ [] →
      identifier (pascal (lowerWords name)) ≠ identifier [] := by
    intro name hne heq
    rw [identifier_nil, identifier_inj (hcased hne) (isCased_of_isAlphanum (by simp) (by simp))] at heq
    exact pascal_ne_unnamed (hlower name) heq
  unfold pascalName typeKey
  rw [← pascal_lowerWords, ← pascal_lowerWords]
  by_cases ha : lowerWords a = []
  · by_cases hb : lowerWords b = []
    · rw [ha, hb]
      exact iff_of_true rfl rfl
    · rw [ha]
      exact iff_of_false (hunnamed hb).symm fun h => hb (joinDigits_eq_nil_iff.1 h.symm)
  · by_cases hb : lowerWords b = []
    · rw [hb]
      exact iff_of_false (hunnamed ha) fun h => ha (joinDigits_eq_nil_iff.1 h)
    · rw [identifier_inj (hcased ha) (hcased hb), pascal_inj (hlower a) (hlower b)]

end Types

/-! ### Names in snake case -/

/-- Words of small letters and digits, with an underscore between one and the next. -/
def IsSnake (name : String) : Prop :=
  ∀ word ∈ name.toList.splitOn '_', IsLowerWord word

instance (name : String) : Decidable (IsSnake name) :=
  decidable_of_iff ((name.toList.splitOn '_').all fun word =>
      !word.isEmpty && word.all fun c => c.isLower || c.isDigit) <| by
    simp only [List.all_eq_true, Bool.and_eq_true, Bool.or_eq_true, Bool.not_eq_true',
      List.isEmpty_eq_false_iff]
    exact forall₂_congr fun word _ => ⟨fun h => ⟨h.1, h.2⟩, fun h => ⟨h.ne_nil, h.chars⟩⟩

section SnakeCase

variable {name a b : String} {cs : List Char}

lemma pieces_eq_splitOn (h : ∀ c ∈ cs, ¬c.isUpper = true) : pieces cs = cs.splitOn '_' := by
  induction cs with
  | nil => rfl
  | cons c cs ih =>
    obtain ⟨hc, hcs⟩ := List.forall_mem_cons.1 h
    have hpieces := ih hcs
    rw [pieces]
    cases hsplit : pieces cs with
    | nil => exact absurd hsplit (pieces_ne_nil cs)
    | cons piece rest =>
      have hpiece : piece ⊆ cs := subset_of_mem_pieces (hsplit ▸ List.mem_cons_self)
      have hcapital : ¬(c.isLower && piece.head?.any Char.isUpper) = true := by
        rw [Bool.and_eq_true, Option.any_eq_true]
        rintro ⟨-, d, hd, hupper⟩
        exact hcs d (hpiece (List.mem_of_mem_head? hd)) hupper
      rw [List.splitOn, List.splitOnP_cons_eq_if_modifyHead, ← List.splitOn, ← hpieces, hsplit]
      dsimp only
      by_cases hseparator : c = '_'
      · rw [if_pos hseparator, if_pos (beq_iff_eq.2 hseparator)]
      · rw [if_neg hseparator, if_neg hcapital, if_neg fun heq => hseparator (beq_iff_eq.1 heq),
          List.modifyHead_cons]

lemma chars_of_isSnake (h : IsSnake name) :
    ∀ c ∈ name.toList, clean c = c ∧ ¬c.isUpper = true := by
  intro c hc
  have hjoin : ['_'].intercalate (name.toList.splitOn '_') = name.toList :=
    List.intercalate_splitOn '_'
  rw [← hjoin] at hc
  by_cases hseparator : c = '_'
  · subst hseparator
    decide
  · by_cases hword : ∃ word ∈ name.toList.splitOn '_', c ∈ word
    · obtain ⟨word, hword, hmem⟩ := hword
      refine ⟨?_, not_isUpper ((h word hword).chars c hmem)⟩
      rw [clean, if_pos ((h word hword).isAlphanum c hmem)]
    · refine absurd hc (not_mem_intercalate (by simpa using hseparator) fun word hmem hc => ?_)
      exact hword ⟨word, hmem, hc⟩

lemma snakeKey_of_isSnake (h : IsSnake name) : snakeKey name = name.toList.splitOn '_' := by
  have hclean : name.toList.map clean = name.toList := by
    rw [List.map_congr_left fun c hc => (chars_of_isSnake h c hc).1, List.map_id']
  have hwords : words name = name.toList.splitOn '_' := by
    unfold words
    rw [hclean, pieces_eq_splitOn fun c hc => (chars_of_isSnake h c hc).2, List.filter_eq_self]
    exact fun word hword => by simp [(h word hword).ne_nil]
  have hlower : lowerWords name = name.toList.splitOn '_' := by
    unfold lowerWords
    rw [hwords, List.map_congr_left fun word hword => (h word hword).map_toLower, List.map_id']
  have hne : name.toList.splitOn '_' ≠ [] := List.splitOnP_ne_nil _ _
  unfold snakeKey
  rw [hlower, if_neg fun hempty => hne (List.isEmpty_iff.1 hempty)]

lemma snakeName_of_isSnake (h : IsSnake name) : snakeName name = identifier name.toList := by
  rw [snakeName_eq, snakeKey_of_isSnake h, List.intercalate_splitOn]

lemma isCased_of_isSnake (h : IsSnake name) : IsCased name.toList := by
  have hcased := isCased_snakeKey name
  rwa [snakeKey_of_isSnake h, List.intercalate_splitOn] at hcased

theorem snakeName_inj (ha : IsSnake a) (hb : IsSnake b) : snakeName a = snakeName b ↔ a = b := by
  rw [snakeName_of_isSnake ha, snakeName_of_isSnake hb,
    identifier_inj (isCased_of_isSnake ha) (isCased_of_isSnake hb), String.toList_inj]

lemma nodup_map_snakeName {α : Type} {as : List α} {name : α → String}
    (hnames : (as.map name).Nodup) (hsnake : ∀ a ∈ as, IsSnake (name a)) :
    (as.map fun a => snakeName (name a)).Nodup := by
  refine hnames.of_map.map_on fun a ha b hb h => ?_
  rw [snakeName_inj (hsnake a ha) (hsnake b hb)] at h
  exact List.inj_on_of_nodup_map hnames ha hb h

end SnakeCase

end ApiCodegen.Proofs
