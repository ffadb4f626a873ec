import ApiCodegen.Proofs.Splitting
import ApiCodegen.Source.Code

/-!
# Comments and code

A comment that describes something takes whole lines, and each of them starts with three slashes
after the margin. Without such lines (`codeLines`) the text that a writer has made depends only on
those of its steps that write code (`codeSteps`).
-/

namespace ApiCodegen.Proofs

/-- Three slashes stand at the start of a line, after blanks. -/
def isComment (line : List Char) : Bool :=
  ['/', '/', '/'].isPrefixOf (line.dropWhile (· == ' '))

/-- The lines of a text that are no comments. -/
def codeLines (text : String) : List (List Char) :=
  (Text.split (· == '\n') text.toList).filter (!isComment ·)

/-- A line of a comment, without its margin. -/
def IsCommentLine (text : String) : Prop :=
  ['/', '/', '/'] <+: text.toList ∧ '\n' ∉ text.toList

lemma isCommentLine_bar : IsCommentLine "///" := by
  unfold IsCommentLine
  decide

lemma isCommentLine_docLines {text line : String} (h : line ∈ docLines text) :
    IsCommentLine line := by
  unfold docLines at h
  split at h
  · cases h
  · rename_i cs _
    obtain ⟨piece, hpiece, rfl⟩ := List.mem_map.1 h
    split
    · exact isCommentLine_bar
    · have hslashes : '\n' ∉ "/// ".toList := by decide
      unfold IsCommentLine
      rw [String.toList_append]
      constructor
      · exact ⟨_, rfl⟩
      · intro hend
        rcases List.mem_append.1 hend with hend | hend
        · exact hslashes hend
        · rw [String.toList_ofList] at hend
          have hpart := unsplit_of_mem_split hpiece '\n' (mem_of_mem_dropTrailing hend)
          cases hpart

lemma unbroken_margin (level : Nat) : Unbroken (Writer.margin level) := by
  intro h
  rw [Writer.margin, String.toList_ofList] at h
  exact absurd (List.mem_replicate.1 h).2 (by decide)

lemma codeLines_comment {text : String} (h : IsCommentLine text) (level : Nat) :
    codeLines (Writer.margin level ++ text) = [] := by
  obtain ⟨⟨rest, hrest⟩, hline⟩ := h
  have hunbroken : Unbroken (Writer.margin level ++ text) :=
    unbroken_append.2 ⟨unbroken_margin level, hline⟩
  have hmargin : ∀ c ∈ List.replicate (4 * level) ' ', (c == ' ') = true := by
    intro c hc
    rw [(List.mem_replicate.1 hc).2]
    rfl
  have hcomment : isComment (Writer.margin level ++ text).toList = true := by
    unfold isComment Writer.margin
    rw [String.toList_append, String.toList_ofList, List.dropWhile_append_of_pos hmargin, ← hrest]
    rfl
  change (outputLines (Writer.margin level ++ text)).filter (!isComment ·) = []
  rw [outputLines_of_unbroken hunbroken, List.filter_cons, hcomment]
  rfl

/-! ### Steps of a writer -/

/-- A writer is at the start of a line and has written lines of code. -/
def Wrote (w : Writer) (lines : List (List Char)) : Prop :=
  ∀ rest, codeLines (w.text ++ rest) = lines ++ codeLines rest

lemma wrote_empty : Wrote .empty [] := by
  intro rest
  rw [Writer.empty, String.empty_append, List.nil_append]

lemma Wrote.ended {w : Writer} {lines : List (List Char)} (h : Wrote w lines) (text : String) :
    Wrote { w with text := w.text ++ text ++ "\n" } (lines ++ codeLines text) := by
  intro rest
  have hline : codeLines (text ++ "\n" ++ rest) = codeLines text ++ codeLines rest := by
    change (outputLines (text ++ "\n" ++ rest)).filter (!isComment ·) = _
    rw [outputLines_break, List.filter_append]
    rfl
  have hwhole : w.text ++ text ++ "\n" ++ rest = w.text ++ (text ++ "\n" ++ rest) := by
    simp only [String.append_assoc]
  change codeLines (w.text ++ text ++ "\n" ++ rest) = _
  rw [hwhole, h, hline, List.append_assoc]

lemma Wrote.line {w : Writer} {lines : List (List Char)} (h : Wrote w lines) (text : String) :
    Wrote (w.line text)
      (lines ++ codeLines (if text.isEmpty then "" else Writer.margin w.level ++ text)) := by
  unfold Writer.line
  split
  · have hended := h.ended ""
    rwa [String.append_empty] at hended
  · have hended := h.ended (Writer.margin w.level ++ text)
    rwa [← String.append_assoc] at hended

lemma line_level (w : Writer) (text : String) : (w.line text).level = w.level := by
  unfold Writer.line
  split
  · rfl
  · rfl

/-- Two writers at the start of a line, of which one may have written comments besides. -/
structure Alike (w w' : Writer) : Prop where
  level : w.level = w'.level
  wrote : ∃ lines, Wrote w lines ∧ Wrote w' lines

/-- The step writes something else than a comment that describes. -/
def writesCode : Step → Bool
  | .doc _ => false
  | .line text => text != "///"
  | .blank | .opening _ | .closing _ | .indent | .dedent => true

namespace Alike

variable {w w' : Writer}

lemma refl_empty : Alike .empty .empty := ⟨rfl, [], wrote_empty, wrote_empty⟩

lemma codeLines_eq (h : Alike w w') : codeLines w.text = codeLines w'.text := by
  obtain ⟨lines, hleft, hright⟩ := h.wrote
  have hends := (hleft "").trans (hright "").symm
  rwa [String.append_empty, String.append_empty] at hends

lemma line (h : Alike w w') (text : String) : Alike (w.line text) (w'.line text) := by
  obtain ⟨lines, hw, hw'⟩ := h.wrote
  have hline := hw.line text
  rw [h.level] at hline
  exact ⟨by rw [line_level, line_level, h.level], _, hline, hw'.line text⟩

lemma comment (h : Alike w w') {text : String} (htext : IsCommentLine text) :
    Alike (w.line text) w' := by
  obtain ⟨lines, hw, hw'⟩ := h.wrote
  have hempty : text.isEmpty = false := by
    rw [Bool.eq_false_iff]
    intro hempty
    obtain ⟨rest, hrest⟩ := htext.1
    rw [String.isEmpty_iff.1 hempty] at hrest
    cases hrest
  have hline := hw.line text
  rw [hempty, if_neg Bool.false_ne_true, codeLines_comment htext, List.append_nil] at hline
  exact ⟨by rw [line_level, h.level], lines, hline, hw'⟩

lemma comments (h : Alike w w') {texts : List String} (htexts : ∀ t ∈ texts, IsCommentLine t) :
    Alike (texts.foldl Writer.line w) w' := by
  induction texts generalizing w with
  | nil => exact h
  | cons text texts ih =>
    exact ih (h.comment (htexts text List.mem_cons_self))
      fun t ht => htexts t (List.mem_cons_of_mem text ht)

lemma indent (h : Alike w w') : Alike w.indent w'.indent :=
  ⟨congrArg (· + 1) h.level, h.wrote⟩

lemma dedent (h : Alike w w') : Alike w.dedent w'.dedent :=
  ⟨congrArg (· - 1) h.level, h.wrote⟩

/-- A step that writes code is taken by both. -/
lemma step (h : Alike w w') {s : Step} (hs : writesCode s = true) :
    Alike (w.step s) (w'.step s) := by
  cases s with
  | line text => exact h.line text
  | blank => exact h.line ""
  | opening text => exact (h.line _).indent
  | closing text => exact h.dedent.line text
  | indent => exact h.indent
  | dedent => exact h.dedent
  | doc text => cases hs

/-- Any other step is taken by one of them. -/
lemma stepped (h : Alike w w') {s : Step} (hs : writesCode s = false) : Alike (w.step s) w' := by
  cases s with
  | line text =>
    have htext : text = "///" := by simpa [writesCode] using hs
    rw [htext]
    exact h.comment isCommentLine_bar
  | doc text =>
    cases text with
    | none => exact h
    | some text => exact h.comments fun line hline => isCommentLine_docLines hline
  | blank | opening _ | closing _ | indent | dedent => cases hs

/-- A run leaves out the steps that write no code. -/
lemma run_filter (h : Alike w w') (steps : List Step) :
    Alike (w.run steps) (w'.run (steps.filter writesCode)) := by
  induction steps generalizing w w' with
  | nil => exact h
  | cons s steps ih =>
    cases hs : writesCode s with
    | true =>
      rw [List.filter_cons_of_pos hs]
      exact ih (h.step hs)
    | false =>
      rw [List.filter_cons_of_neg (by rw [hs]; exact Bool.false_ne_true)]
      exact ih (h.stepped hs)

end Alike

/-! ### Pieces of code -/

/-- The layout of code without comments that describe. -/
def codeSteps (c : Code) : List Step := c.steps.filter writesCode

lemma codeLines_render (c : Code) :
    codeLines c.render = codeLines (Writer.empty.run (codeSteps c)).text :=
  (Alike.refl_empty.run_filter c.steps).codeLines_eq

/-- Pieces of code that differ in comments only have the same lines besides comments. -/
theorem codeLines_congr {c d : Code} (h : codeSteps c = codeSteps d) :
    codeLines c.render = codeLines d.render := by
  rw [codeLines_render, codeLines_render, h]

lemma codeSteps_append (c d : Code) : codeSteps (c ++ d) = codeSteps c ++ codeSteps d :=
  List.filter_append ..

lemma codeSteps_bar : codeSteps (.texts ["///"]) = [] := by decide

lemma codeSteps_braces (head : Line) (c : Code) :
    codeSteps (.braces head c) = .opening head.render :: (codeSteps c ++ [.closing "\x7d"]) := by
  unfold codeSteps Code.braces
  rw [Code.steps, List.filter_cons_of_pos rfl, List.filter_append]
  rfl

end ApiCodegen.Proofs
