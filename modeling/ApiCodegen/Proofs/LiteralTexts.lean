import ApiCodegen.Source.Line
import Mathlib.Data.List.TakeWhile
import Mathlib.Data.String.Basic
import Mathlib.Tactic.Common

/-!
# Literals that are read back

`readLiteral?` reads a string literal by the rules of the generated code, which know more escapes
than `Text.quote` writes. A literal has one of three forms for each character (`QuotedAs`), and each
of them is read back as its character, whatever follows. So a text in a line of code ends where its
literal ends, and nothing of it is read as code.
-/

namespace ApiCodegen.Proofs
open Text

/-! ### The rules of reading -/

/-- The value of a hexadecimal digit in either case. -/
def hexValue? (c : Char) : Option Nat :=
  if c.isDigit then some (c.toNat - '0'.toNat)
  else if 'a' ≤ c ∧ c ≤ 'f' then some (c.toNat - 'a'.toNat + 10)
  else if 'A' ≤ c ∧ c ≤ 'F' then some (c.toNat - 'A'.toNat + 10)
  else none

/-- The number that hexadecimal digits write. -/
def ofHex? (digits : List Char) : Option Nat :=
  digits.foldlM (fun n c => (hexValue? c).map (16 * n + ·)) 0

/-- The character that a letter behind a backslash stands for. -/
def letter? : Char → Option Char
  | '0' => some '\x00'
  | 't' => some '\t'
  | 'n' => some '\n'
  | 'r' => some '\r'
  | '\\' => some '\\'
  | '"' => some '"'
  | '\x27' => some '\x27'
  | _ => none

/-- The character that has its number between braces: up to six digits, and underscores behind the
first of them. -/
def codePoint? (digits : List Char) : Option Char :=
  let significant := digits.filter (· != '_')
  if digits = [] ∨ digits.head? = some '_' ∨ 6 < significant.length then none
  else (ofHex? significant).bind fun n => if n.isValidChar then some (Char.ofNat n) else none

/-- Reads what stands behind a backslash: a character, and what follows it. -/
def readEscape? : List Char → Option (Char × List Char)
  | [] => none
  | 'x' :: high :: low :: rest =>
    (ofHex? [high, low]).bind fun n => if n < 0x80 then some (Char.ofNat n, rest) else none
  | 'u' :: '\x7b' :: rest =>
    match rest.dropWhile (· != '\x7d') with
    | [] => none
    | _ :: after => (codePoint? (rest.takeWhile (· != '\x7d'))).map fun c => (c, after)
  | c :: rest => (letter? c).map fun d => (d, rest)

lemma length_lt_of_readEscape? {cs rest : List Char} {c : Char}
    (h : readEscape? cs = some (c, rest)) : rest.length < cs.length := by
  unfold readEscape? at h
  split at h
  · cases h
  · obtain ⟨n, -, hn⟩ := Option.bind_eq_some_iff.1 h
    split at hn
    · cases hn
      simp only [List.length_cons]
      omega
    · cases hn
  · rename_i braced
    split at h
    · cases h
    · rename_i close after hclose
      obtain ⟨d, -, hd⟩ := Option.map_eq_some_iff.1 h
      cases hd
      have hdrop := (List.dropWhile_sublist (l := braced) (· != '\x7d')).length_le
      rw [hclose] at hdrop
      simp only [List.length_cons] at hdrop ⊢
      omega
  · obtain ⟨d, -, hd⟩ := Option.map_eq_some_iff.1 h
    cases hd
    exact Nat.lt_succ_self _

/-- What a backslash at the end of a line skips. -/
def isGap (c : Char) : Bool := c == ' ' || c == '\t' || c == '\n' || c == '\r'

/-- Reads the characters of a literal up to its closing quote: what they denote, and what follows the
quote. -/
def readBody? (cs : List Char) : Option (List Char × List Char) :=
  match cs with
  | [] => none
  | '"' :: rest => some ([], rest)
  | '\r' :: _ => none
  | '\\' :: '\n' :: rest => readBody? (rest.dropWhile isGap)
  | '\\' :: rest =>
    match _escape : readEscape? rest with
    | none => none
    | some (c, after) => (readBody? after).map (Prod.map (c :: ·) id)
  | c :: rest => (readBody? rest).map (Prod.map (c :: ·) id)
termination_by cs.length
decreasing_by
  · have hgap := (List.dropWhile_sublist (l := rest) isGap).length_le
    simp only [List.length_cons]
    omega
  · have hafter := length_lt_of_readEscape? _escape
    simp only [List.length_cons]
    omega
  · exact Nat.lt_succ_self _

/-- Reads a literal: what it denotes, and what follows it. -/
def readLiteral? : List Char → Option (List Char × List Char)
  | '"' :: rest => readBody? rest
  | _ => none

/-- The characters that stand outside of escapes. -/
def outsideEscapes : List Char → List Char
  | [] => []
  | '\\' :: _ :: cs => outsideEscapes cs
  | c :: cs => c :: outsideEscapes cs

/-- The characters that end a line. -/
def lineBreaks : List Char := ['\n', '\x0b', '\x0c', '\r', '\u0085', '\u2028', '\u2029']

/-- The text of one literal that denotes `value`. -/
structure IsLiteral (text value : List Char) : Prop where
  /-- Between the quotes at the ends there is no quote outside of an escape, and nothing that ends a
  line. -/
  enclosed : ∃ body, text = '"' :: (body ++ ['"']) ∧ '"' ∉ outsideEscapes body ∧
    ∀ c ∈ body, c ∉ lineBreaks
  /-- The literal is read as its value and ends with its last quote, whatever follows. -/
  reads : ∀ rest, readLiteral? (text ++ rest) = some (value, rest)

/-! ### Hexadecimal digits -/

section Hex

variable {n : Nat} {c : Char}

lemma hexValue?_digitChar (h : n < 16) : hexValue? n.digitChar = some n := by
  decide +revert

lemma forall_mem_hex {p : Char → Prop} (h : ∀ d < 16, p d.digitChar) (n : Nat) :
    ∀ c ∈ hex n, p c := by
  unfold hex
  induction n using Nat.strongRecOn with
  | ind n ih =>
    rw [Nat.toDigits_eq_if (by decide)]
    split
    · rename_i hn
      exact List.forall_mem_singleton.2 (h n hn)
    · rw [List.forall_mem_append]
      exact ⟨ih (n / 16) (by omega), List.forall_mem_singleton.2 (h _ (Nat.mod_lt n (by decide)))⟩

lemma ofHex?_hex (n : Nat) : ofHex? (hex n) = some n := by
  unfold hex
  induction n using Nat.strongRecOn with
  | ind n ih =>
    rw [Nat.toDigits_eq_if (by decide)]
    split
    · rename_i hn
      simp [ofHex?, hexValue?_digitChar hn]
    · have hfirst := ih (n / 16) (by omega)
      have hlast := hexValue?_digitChar (Nat.mod_lt n (by decide : 0 < 16))
      unfold ofHex? at hfirst ⊢
      rw [List.foldlM_append, hfirst]
      simp [hlast, Nat.div_add_mod]

lemma codePoint?_hex (c : Char) : codePoint? (hex c.toNat) = some c := by
  have hne : hex c.toNat ≠ [] := Nat.toDigits_ne_nil
  have hall : ∀ d ∈ hex c.toNat, d ≠ '_' := forall_mem_hex (by decide) _
  have hfilter : (hex c.toNat).filter (· != '_') = hex c.toNat :=
    List.filter_eq_self.2 fun d hd => bne_iff_ne.2 (hall d hd)
  have hhead : (hex c.toNat).head? ≠ some '_' := fun h => hall '_' (List.mem_of_head? h) rfl
  have hvalid : c.toNat.isValidChar := c.valid
  have hlength : (hex c.toNat).length ≤ 6 := by
    rw [hex, Nat.length_toDigits_le_iff (by decide) (by decide)]
    rcases hvalid with h | h
    · omega
    · omega
  unfold codePoint?
  rw [hfilter, if_neg (by simp [hne, hhead, hlength]), ofHex?_hex, Option.bind_some,
    if_pos hvalid, Char.ofNat_toNat]

end Hex

/-! ### Characters as they are written -/

/-- The forms of a character in a literal. -/
inductive QuotedAs (c : Char) : List Char → Prop
  | letter {name : Char} (h : letter? name = some c) : QuotedAs c ['\\', name]
  | number : QuotedAs c (['\\', 'u', '\x7b'] ++ hex c.toNat ++ ['\x7d'])
  | plain (hquote : c ≠ '"') (hescape : c ≠ '\\') (hvisible : isInvisible c = false) :
    QuotedAs c [c]

lemma quotedAs_quoteChar (c : Char) : QuotedAs c (quoteChar c) := by
  unfold quoteChar
  split
  · exact .letter rfl
  · exact .letter rfl
  · exact .letter rfl
  · exact .letter rfl
  · exact .letter rfl
  · exact .letter rfl
  · rename_i hslash hquote
    split
    · exact .number
    · rename_i hplain
      rw [Bool.or_eq_true, not_or] at hplain
      exact .plain hquote hslash (Bool.eq_false_iff.2 hplain.2)

section QuotedAs

variable {c : Char} {text : List Char}

lemma readEscape?_letter {name : Char} (h : letter? name = some c) (rest : List Char) :
    readEscape? (name :: rest) = some (c, rest) := by
  unfold letter? at h
  split at h
  all_goals cases h
  all_goals rfl

lemma readEscape?_number (c : Char) (rest : List Char) :
    readEscape? ('u' :: '\x7b' :: (hex c.toNat ++ '\x7d' :: rest)) = some (c, rest) := by
  have hall : ∀ d ∈ hex c.toNat, (d != '\x7d') = true := forall_mem_hex (by decide) _
  have hdrop : (hex c.toNat ++ '\x7d' :: rest).dropWhile (· != '\x7d') = '\x7d' :: rest := by
    rw [List.dropWhile_append_of_pos hall]
    rfl
  have htake : (hex c.toNat ++ '\x7d' :: rest).takeWhile (· != '\x7d') = hex c.toNat := by
    rw [List.takeWhile_append_of_pos hall]
    exact List.append_nil _
  simp only [readEscape?, hdrop, htake, codePoint?_hex, Option.map_some]

lemma readBody?_escape {cs rest : List Char} (h : readEscape? cs = some (c, rest)) :
    readBody? ('\\' :: cs) = (readBody? rest).map (Prod.map (c :: ·) id) := by
  have hbreak : ∀ after, cs ≠ '\n' :: after := by
    rintro after rfl
    cases h
  rw [readBody?]
  · split
    · rename_i hnone
      rw [h] at hnone
      cases hnone
    · rename_i hsome
      rw [h] at hsome
      cases hsome
      rfl
  · exact hbreak

lemma readBody?_plain (hquote : c ≠ '"') (hescape : c ≠ '\\') (hvisible : isInvisible c = false)
    (rest : List Char) : readBody? (c :: rest) = (readBody? rest).map (Prod.map (c :: ·) id) := by
  have hreturn : c ≠ '\r' := by
    rintro rfl
    cases hvisible
  rw [readBody?]
  · exact hquote
  · exact hreturn
  · exact fun _ hc _ => hescape hc
  · exact hescape

/-- A written character is read as itself. -/
lemma QuotedAs.readBody? (h : QuotedAs c text) (rest : List Char) :
    Proofs.readBody? (text ++ rest) = (Proofs.readBody? rest).map (Prod.map (c :: ·) id) := by
  cases h with
  | letter h => exact readBody?_escape (readEscape?_letter h rest)
  | number =>
    rw [List.append_assoc, List.append_assoc]
    exact readBody?_escape (readEscape?_number c rest)
  | plain hquote hescape hvisible => exact readBody?_plain hquote hescape hvisible rest

lemma outsideEscapes_cons (h : c ≠ '\\') (cs : List Char) :
    outsideEscapes (c :: cs) = c :: outsideEscapes cs := by
  rw [outsideEscapes]
  exact fun _ _ hc => absurd hc h

lemma outsideEscapes_append {cs : List Char} (h : '\\' ∉ cs) (rest : List Char) :
    outsideEscapes (cs ++ rest) = cs ++ outsideEscapes rest := by
  induction cs with
  | nil => rfl
  | cons c cs ih =>
    rw [List.mem_cons, not_or] at h
    rw [List.cons_append, outsideEscapes_cons (Ne.symm h.1), ih h.2]
    rfl

/-- A written character leaves no quote outside of escapes. -/
lemma QuotedAs.quote_not_mem (h : QuotedAs c text) {rest : List Char}
    (hrest : '"' ∉ outsideEscapes rest) : '"' ∉ outsideEscapes (text ++ rest) := by
  cases h with
  | letter h => exact hrest
  | number =>
    have hdigits : ∀ d ∈ hex c.toNat, d ≠ '\\' ∧ d ≠ '"' := forall_mem_hex (by decide) _
    have hslash : '\\' ∉ '\x7b' :: (hex c.toNat ++ ['\x7d']) := by
      simpa using fun h => (hdigits _ h).1 rfl
    have hquote : '"' ∉ '\x7b' :: (hex c.toNat ++ ['\x7d']) := by
      simpa using fun h => (hdigits _ h).2 rfl
    have hbraced : outsideEscapes (['\\', 'u', '\x7b'] ++ hex c.toNat ++ ['\x7d'] ++ rest) =
        '\x7b' :: (hex c.toNat ++ ['\x7d']) ++ outsideEscapes rest :=
      outsideEscapes_append hslash rest
    rw [hbraced, List.mem_append, not_or]
    exact ⟨hquote, hrest⟩
  | plain hquote hescape _ =>
    rw [outsideEscapes_append (by simpa using hescape.symm), List.mem_append, not_or]
    exact ⟨by simpa using hquote.symm, hrest⟩

/-- A written character does not end a line. -/
lemma QuotedAs.unbroken (h : QuotedAs c text) : ∀ d ∈ text, d ∉ lineBreaks := by
  cases h with
  | @letter name h =>
    have hnone : lineBreaks.all (fun d => (letter? d).isNone) = true := by decide
    have hname : name ∉ lineBreaks := by
      intro hbreak
      have hletter := List.all_eq_true.1 hnone name hbreak
      rw [h] at hletter
      cases hletter
    rw [List.forall_mem_cons]
    exact ⟨by decide, List.forall_mem_singleton.2 hname⟩
  | number =>
    have hdigits : ∀ d ∈ hex c.toNat, d ∉ lineBreaks := forall_mem_hex (by decide) _
    have hopening : ∀ d ∈ ['\\', 'u', '\x7b'], d ∉ lineBreaks := by simp [lineBreaks]
    rw [List.forall_mem_append, List.forall_mem_append]
    exact ⟨⟨hopening, hdigits⟩, List.forall_mem_singleton.2 (by decide)⟩
  | plain _ _ hvisible =>
    have hbreaks : lineBreaks.all isInvisible = true := by decide +kernel
    refine List.forall_mem_singleton.2 fun hbreak => ?_
    rw [List.all_eq_true.1 hbreaks c hbreak] at hvisible
    cases hvisible

end QuotedAs

/-! ### Whole literals -/

section Whole

variable (cs rest : List Char)

lemma readBody?_quoted : readBody? (cs.flatMap quoteChar ++ '"' :: rest) = some (cs, rest) := by
  induction cs with
  | nil =>
    rw [List.flatMap_nil, List.nil_append, readBody?]
  | cons c cs ih =>
    rw [List.flatMap_cons, List.append_assoc, (quotedAs_quoteChar c).readBody?, ih]
    rfl

lemma quote_not_mem_quoted : '"' ∉ outsideEscapes (cs.flatMap quoteChar) := by
  induction cs with
  | nil => exact List.not_mem_nil
  | cons c cs ih => exact (quotedAs_quoteChar c).quote_not_mem ih

lemma isLiteral_quoteChars : IsLiteral (quoteChars cs) cs where
  enclosed := by
    refine ⟨cs.flatMap quoteChar, rfl, quote_not_mem_quoted cs, fun d hd => ?_⟩
    obtain ⟨c, -, hc⟩ := List.mem_flatMap.1 hd
    exact (quotedAs_quoteChar c).unbroken d hc
  reads rest := by
    have htext : quoteChars cs ++ rest = '"' :: (cs.flatMap quoteChar ++ '"' :: rest) := by
      simp [quoteChars]
    rw [htext]
    exact readBody?_quoted cs rest

end Whole

/-- The literal of a text denotes this text and no other: two texts have different literals. Where
a line of code has the literal of a text, it is read as the text, and the code behind it goes on. -/
theorem quote_denotes :
    (∀ s : String, IsLiteral (quote s).toList s.toList) ∧ Function.Injective quote ∧
      ∀ (before after : Line) (s : String), ∃ rest,
        (before ++ .quoted s :: after).render.toList = before.render.toList ++ rest ∧
          readLiteral? rest = some (s.toList, after.render.toList) := by
  have hliteral : ∀ s : String, IsLiteral (quote s).toList s.toList := by
    intro s
    rw [quote, String.toList_ofList]
    exact isLiteral_quoteChars s.toList
  refine ⟨hliteral, fun s t hquote => ?_, fun before after s => ?_⟩
  · have hs := (hliteral s).reads []
    rw [hquote, (hliteral t).reads [], Option.some.injEq, Prod.mk.injEq] at hs
    exact (String.toList_inj.1 hs.1).symm
  · refine ⟨(quote s).toList ++ after.render.toList, ?_, (hliteral s).reads _⟩
    simp [Line.render, Piece.render]

example : quote "x\" \\\n\u0301" = "\"x\\\" \\\\\\n\\u\x7b301\x7d\"" := by
  decide +kernel

end ApiCodegen.Proofs
