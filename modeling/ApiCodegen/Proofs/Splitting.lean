import ApiCodegen.Text.Chars
import Mathlib.Data.List.DropRight
import Mathlib.Data.String.Basic
import Mathlib.Tactic.Common

/-!
# Pieces of text

`Text.split` cuts a text at its separators and keeps all else. A text that is cut at more separators
is cut into its pieces at fewer of them and these are cut further.
-/

namespace ApiCodegen.Proofs

variable {sep : Char → Bool} {cs : List Char}

lemma split_eq_splitOnP (sep : Char → Bool) (cs : List Char) :
    Text.split sep cs = cs.splitOnP sep := by
  induction cs with
  | nil => rfl
  | cons c cs ih =>
    obtain ⟨piece, pieces, hpieces⟩ := List.exists_cons_of_ne_nil (Text.split_ne_nil sep cs)
    rw [List.splitOnP_cons_eq_if_modifyHead, ← ih, Text.split, hpieces]
    cases sep c with
    | true => rfl
    | false => rfl

lemma split_append {c : Char} (hc : sep c = true) (before after : List Char) :
    Text.split sep (before ++ c :: after) = Text.split sep before ++ Text.split sep after := by
  induction before with
  | nil =>
    change Text.split sep (c :: after) = [] :: Text.split sep after
    rw [Text.split, hc]
  | cons b before ih =>
    rw [List.cons_append, Text.split, ih, Text.split]
    cases sep b with
    | true => rfl
    | false =>
      obtain ⟨piece, pieces, hpieces⟩ := List.exists_cons_of_ne_nil (Text.split_ne_nil sep before)
      rw [hpieces]
      rfl

lemma split_of_unsplit (h : ∀ c ∈ cs, sep c = false) : Text.split sep cs = [cs] := by
  induction cs with
  | nil => rfl
  | cons c cs ih =>
    rw [Text.split, h c List.mem_cons_self, ih fun d hd => h d (List.mem_cons_of_mem c hd)]

/-- What is added behind a text without separators goes on in its last piece. -/
lemma split_append_unsplit {after : List Char} (h : ∀ c ∈ after, sep c = false)
    (before : List Char) : Text.split sep (before ++ after) =
      (Text.split sep before).dropLast ++ [(Text.split sep before).getLastD [] ++ after] := by
  induction before with
  | nil => exact split_of_unsplit h
  | cons b before ih =>
    rw [List.cons_append, Text.split, ih, Text.split]
    obtain ⟨piece, pieces, hpieces⟩ := List.exists_cons_of_ne_nil (Text.split_ne_nil sep before)
    rw [hpieces]
    cases sep b with
    | true => rfl
    | false =>
      cases pieces with
      | nil => rfl
      | cons next pieces => rfl

lemma unsplit_of_mem_split {piece : List Char} (h : piece ∈ Text.split sep cs) :
    ∀ c ∈ piece, sep c = false := by
  induction cs generalizing piece with
  | nil =>
    rw [Text.split, List.mem_singleton] at h
    simp [h]
  | cons c cs ih =>
    obtain ⟨first, rest, hsplit⟩ := List.exists_cons_of_ne_nil (Text.split_ne_nil sep cs)
    rw [Text.split, hsplit] at h
    rw [hsplit] at ih
    cases hc : sep c with
    | true =>
      rw [hc] at h
      rcases List.mem_cons.1 h with rfl | h
      · simp
      · exact ih h
    | false =>
      rw [hc] at h
      rcases List.mem_cons.1 h with rfl | h
      · intro d hd
        rcases List.mem_cons.1 hd with rfl | hd
        · exact hc
        · exact ih List.mem_cons_self d hd
      · exact ih (List.mem_cons_of_mem first h)

lemma splitString_slash (path : String) :
    Text.splitString (· == '/') path = (path.toList.splitOn '/').map String.ofList := by
  rw [Text.splitString, split_eq_splitOnP]
  rfl

lemma splitOn_append_slash (before after : List Char) :
    (before ++ '/' :: after).splitOn '/' = before.splitOn '/' ++ after.splitOn '/' :=
  List.splitOnP_append_cons before after rfl

lemma splitOn_intercalate_slash {names : List String} (h : ∀ name ∈ names, '/' ∉ name.toList)
    (hne : names ≠ []) :
    ("/".intercalate names).toList.splitOn '/' = names.map String.toList := by
  rw [String.toList_intercalate]
  exact List.splitOn_intercalate _ (List.forall_mem_map.2 h) (by simpa using hne)

lemma dropTrailing_eq_rdropWhile (p : Char → Bool) (cs : List Char) :
    Text.dropTrailing p cs = cs.rdropWhile p := by
  induction cs with
  | nil => rfl
  | cons c cs ih =>
    have hcons : (c :: cs).rdropWhile p =
        if cs.rdropWhile p = [] then [c].rdropWhile p else c :: cs.rdropWhile p := by
      unfold List.rdropWhile
      rw [List.reverse_cons, List.dropWhile_append]
      by_cases hempty : cs.reverse.dropWhile p = []
      · rw [hempty]
        rfl
      · rw [if_neg (by simpa using hempty), if_neg (by simpa using hempty), List.reverse_concat]
    rw [Text.dropTrailing, ih, hcons]
    cases hrest : cs.rdropWhile p with
    | nil => rw [if_pos rfl, List.rdropWhile_singleton]
    | cons d ds => rfl

lemma mem_of_mem_dropTrailing {p : Char → Bool} {c : Char} (h : c ∈ Text.dropTrailing p cs) :
    c ∈ cs := by
  rw [dropTrailing_eq_rdropWhile] at h
  exact (List.rdropWhile_prefix p cs).subset h

lemma split_or (sep more : Char → Bool) (cs : List Char) :
    Text.split (fun c => sep c || more c) cs = (Text.split sep cs).flatMap (Text.split more) := by
  induction cs with
  | nil => rfl
  | cons c cs ih =>
    obtain ⟨piece, pieces, hpieces⟩ := List.exists_cons_of_ne_nil (Text.split_ne_nil sep cs)
    obtain ⟨first, rest, hfirst⟩ := List.exists_cons_of_ne_nil (Text.split_ne_nil more piece)
    rw [Text.split, Text.split, ih, hpieces, List.flatMap_cons, hfirst]
    cases hsep : sep c with
    | true => simp [Text.split, hfirst]
    | false =>
      cases hmore : more c with
      | true => simp [Text.split, hmore, hfirst]
      | false => simp [Text.split, hmore, hfirst]

/-- A piece without further separators stays whole where the text is cut at those too. -/
lemma mem_split_or {more : Char → Bool} {piece : List Char} (h : piece ∈ Text.split sep cs)
    (hpiece : ∀ c ∈ piece, more c = false) : piece ∈ Text.split (fun c => sep c || more c) cs := by
  rw [split_or]
  refine List.mem_flatMap.2 ⟨piece, h, ?_⟩
  rw [split_of_unsplit hpiece]
  exact List.mem_singleton_self _

/-! ### Lines of a text -/

/-- The lines of a text, without the breaks between them. -/
def outputLines (text : String) : List (List Char) := Text.split (· == '\n') text.toList

/-- A text without a line break. -/
def Unbroken (text : String) : Prop := '\n' ∉ text.toList

instance (text : String) : Decidable (Unbroken text) :=
  inferInstanceAs (Decidable ('\n' ∉ text.toList))

section Lines

variable {first line text : String}

lemma outputLines_break (before after : String) :
    outputLines (before ++ "\n" ++ after) = outputLines before ++ outputLines after := by
  have hchars : (before ++ "\n" ++ after).toList = before.toList ++ '\n' :: after.toList := by
    rw [String.append_assoc, String.toList_append, String.toList_append]
    rfl
  rw [outputLines, hchars, split_append rfl]
  rfl

lemma unbroken_append : Unbroken (first ++ line) ↔ Unbroken first ∧ Unbroken line := by
  unfold Unbroken
  rw [String.toList_append, List.mem_append, not_or]

lemma outputLines_of_unbroken (h : Unbroken text) : outputLines text = [text.toList] := by
  refine split_of_unsplit fun c hc => ?_
  rw [beq_eq_false_iff_ne]
  rintro rfl
  exact h hc

lemma unbroken_of_mem_outputLines (h : line.toList ∈ outputLines text) : Unbroken line :=
  fun hmem => absurd (unsplit_of_mem_split h '\n' hmem) (by decide)

/-- What starts a line and ends before a break is a line. -/
lemma mem_outputLines (h : Unbroken line) (hfirst : first = "" ∨ ∃ start, first = start ++ "\n")
    (rest : String) : line.toList ∈ outputLines (first ++ line ++ "\n" ++ rest) := by
  rcases hfirst with rfl | ⟨start, rfl⟩
  · rw [String.empty_append, outputLines_break, outputLines_of_unbroken h]
    exact List.mem_cons_self
  · rw [outputLines_break, outputLines_break, outputLines_of_unbroken h]
    exact List.mem_append_left _ (List.mem_append_right _ (List.mem_singleton_self _))

end Lines

end ApiCodegen.Proofs
