import ApiCodegen.Number.Read
import Mathlib.Data.List.Basic
import Mathlib.Data.List.TakeDrop
import Mathlib.Data.List.TakeWhile
import Mathlib.Tactic.Common

/-!
# Texts of numbers

The notation that the readers of numbers accept, without the order in which they look at a text. The
reader of integers finds the number that a text writes if the bounds of the type admit it; the
readers of floating point numbers find one exactly in these texts, however it is rounded.
-/

namespace ApiCodegen.Proofs

/-- A text that may have a sign before the rest; `true` is the minus. -/
inductive Signed : List Char → Bool → List Char → Prop
  | absent {cs : List Char} (h : cs.head? ≠ some '-' ∧ cs.head? ≠ some '+') : Signed cs false cs
  | plus {cs : List Char} : Signed ('+' :: cs) false cs
  | minus {cs : List Char} : Signed ('-' :: cs) true cs

def IsDigits (cs : List Char) : Prop := cs ≠ [] ∧ ∀ c ∈ cs, c.isDigit = true

/-- An integer in decimal notation. -/
inductive WritesInteger : List Char → Int → Prop
  | mk {cs digits : List Char} {negative : Bool} (hsign : Signed cs negative digits)
      (h : IsDigits digits) : WritesInteger cs
        (if negative then -(Number.ofDigits digits : Int) else Number.ofDigits digits)

/-- The exponent at the end of a number. -/
inductive IsExponent : List Char → Prop
  | absent : IsExponent []
  | present {mark : Char} {cs : List Char} {n : Int} (hmark : mark = 'e' ∨ mark = 'E')
      (h : WritesInteger cs n) : IsExponent (mark :: cs)

/-- A number in decimal notation, without a sign; the digits on one side of the point may be
missing. -/
inductive IsDecimal : List Char → Prop
  | whole {digits exponent : List Char} (h : IsDigits digits) (hexponent : IsExponent exponent) :
      IsDecimal (digits ++ exponent)
  | point {digits decimals exponent : List Char} (hdigits : ∀ c ∈ digits, c.isDigit = true)
      (hdecimals : ∀ c ∈ decimals, c.isDigit = true) (hsome : digits ≠ [] ∨ decimals ≠ [])
      (hexponent : IsExponent exponent) : IsDecimal (digits ++ '.' :: (decimals ++ exponent))

/-- A floating point number: a decimal, or a word in any case. -/
inductive WritesFloat : List Char → Prop
  | decimal {cs body : List Char} {negative : Bool} (hsign : Signed cs negative body)
      (h : IsDecimal body) : WritesFloat cs
  | word {cs body : List Char} {negative : Bool} (hsign : Signed cs negative body)
      (h : String.ofList (body.map Char.toLower) ∈ ["nan", "inf", "infinity"]) : WritesFloat cs

variable {cs rest : List Char} {negative : Bool}

lemma readSign_eq_iff : Number.readSign cs = (negative, rest) ↔ Signed cs negative rest := by
  constructor
  · intro h
    unfold Number.readSign at h
    split at h
    · cases h
      exact .minus
    · cases h
      exact .plus
    · rename_i hminus hplus
      cases h
      refine .absent ⟨fun hhead => ?_, fun hhead => ?_⟩
      · exact hminus _ (List.cons_head?_tail hhead).symm
      · exact hplus _ (List.cons_head?_tail hhead).symm
  · intro h
    cases h with
    | absent h =>
      unfold Number.readSign
      split
      · exact absurd rfl h.1
      · exact absurd rfl h.2
      · rfl
    | plus => rfl
    | minus => rfl

lemma not_isDigits_iff :
    (cs.isEmpty || !cs.all Char.isDigit) = true ↔ ¬IsDigits cs := by
  unfold IsDigits
  rw [Bool.or_eq_true, List.isEmpty_iff, Bool.not_eq_true', ← Bool.not_eq_true, List.all_eq_true,
    not_and_or, ne_eq, not_not]

lemma readInt?_eq_some_iff {low high n : Int} {text : String} :
    Number.readInt? low high text = some n ↔
      WritesInteger text.toList n ∧ low ≤ n ∧ n ≤ high := by
  obtain ⟨⟨negative, digits⟩, hread⟩ : ∃ sign, Number.readSign text.toList = sign := ⟨_, rfl⟩
  have hwrites : WritesInteger text.toList n ↔ IsDigits digits ∧
      n = if negative then -(Number.ofDigits digits : Int) else Number.ofDigits digits := by
    constructor
    · rintro ⟨hsign, h⟩
      rw [← readSign_eq_iff, hread] at hsign
      cases hsign
      exact ⟨h, rfl⟩
    · rintro ⟨h, rfl⟩
      exact .mk (readSign_eq_iff.1 hread) h
  rw [hwrites]
  unfold Number.readInt?
  rw [hread]
  dsimp only
  by_cases h : IsDigits digits
  · rw [if_neg fun hnone => not_isDigits_iff.1 hnone h, Option.ite_none_right_eq_some,
      Option.some.injEq]
    constructor
    · rintro ⟨hbounds, rfl⟩
      exact ⟨⟨h, rfl⟩, hbounds⟩
    · rintro ⟨⟨-, rfl⟩, hbounds⟩
      exact ⟨hbounds, rfl⟩
  · rw [if_pos (not_isDigits_iff.2 h)]
    exact iff_of_false (Option.some_ne_none n).symm fun hin => h hin.1.1

/-! ### Floating point numbers -/

lemma readExponent?_isSome_iff : (Number.readExponent? cs).isSome = true ↔ IsExponent cs := by
  cases cs with
  | nil => exact iff_of_true rfl .absent
  | cons mark cs =>
    obtain ⟨⟨negative, digits⟩, hread⟩ : ∃ sign, Number.readSign cs = sign := ⟨_, rfl⟩
    rw [Number.readExponent?, hread]
    dsimp only
    rw [Option.isSome_ite]
    have hdigits : (!digits.isEmpty && digits.all Char.isDigit) = true ↔ IsDigits digits := by
      rw [← not_iff_not, ← not_isDigits_iff, Bool.not_eq_true, ← Bool.not_eq_true',
        Bool.not_and, Bool.not_not]
    rw [Bool.and_assoc, Bool.and_eq_true, hdigits, Bool.or_eq_true, beq_iff_eq, beq_iff_eq]
    constructor
    · rintro ⟨hmark, h⟩
      exact .present hmark (.mk (readSign_eq_iff.1 hread) h)
    · rintro (_ | ⟨hmark, ⟨hsign, h⟩⟩)
      rw [← readSign_eq_iff, hread] at hsign
      cases hsign
      exact ⟨hmark, h⟩

lemma span_digits {digits : List Char} (hdigits : ∀ c ∈ digits, c.isDigit = true)
    (hrest : ∀ c, rest.head? = some c → c.isDigit = false) :
    (digits ++ rest).span Char.isDigit = (digits, rest) := by
  rw [List.span_eq_takeWhile_dropWhile, List.takeWhile_append_of_pos hdigits,
    List.dropWhile_append_of_pos hdigits]
  cases rest with
  | nil => simp
  | cons c rest => simp [hrest c rfl]

lemma exists_span_digits (cs : List Char) : ∃ digits rest, cs = digits ++ rest ∧
    (∀ c ∈ digits, c.isDigit = true) ∧ (∀ c, rest.head? = some c → c.isDigit = false) := by
  refine ⟨cs.takeWhile Char.isDigit, cs.dropWhile Char.isDigit,
    List.takeWhile_append_dropWhile.symm, fun c hc => List.mem_takeWhile_imp hc, fun c hc => ?_⟩
  have hhead := List.head?_dropWhile_not Char.isDigit cs
  rw [hc] at hhead
  simpa using hhead

lemma IsExponent.head {c : Char} (h : IsExponent cs) (hc : cs.head? = some c) :
    c.isDigit = false ∧ c ≠ '.' := by
  cases h with
  | absent => cases hc
  | present hmark _ =>
    cases hc
    rcases hmark with rfl | rfl <;> decide

section Decimals

variable {digits decimals exponent : List Char} (hdigits : ∀ c ∈ digits, c.isDigit = true)
include hdigits

lemma readDecimal?_point (hdecimals : ∀ c ∈ decimals, c.isDigit = true)
    (hexponent : ∀ c, exponent.head? = some c → c.isDigit = false) :
    (Number.readDecimal? (digits ++ '.' :: (decimals ++ exponent))).isSome = true ↔
      (digits ≠ [] ∨ decimals ≠ []) ∧ IsExponent exponent := by
  have hpoint : ∀ c, ('.' :: (decimals ++ exponent)).head? = some c → c.isDigit = false := by
    rintro c ⟨rfl⟩
    decide
  unfold Number.readDecimal?
  rw [span_digits hdigits hpoint]
  simp only [span_digits hdecimals hexponent]
  rw [← readExponent?_isSome_iff]
  by_cases hnone : digits = [] ∧ decimals = []
  · simp [hnone]
  · rw [if_neg (by simpa using hnone), Option.isSome_map]
    exact (and_iff_right (not_and_or.1 hnone)).symm

lemma readDecimal?_whole
    (hexponent : ∀ c, exponent.head? = some c → c.isDigit = false ∧ c ≠ '.') :
    (Number.readDecimal? (digits ++ exponent)).isSome = true ↔
      digits ≠ [] ∧ IsExponent exponent := by
  unfold Number.readDecimal?
  rw [span_digits hdigits fun c hc => (hexponent c hc).1]
  dsimp only
  split
  · exact absurd rfl (hexponent '.' rfl).2
  · rw [← readExponent?_isSome_iff]
    by_cases hnone : digits = []
    · simp [hnone]
    · rw [if_neg (by simpa using hnone), Option.isSome_map]
      exact (and_iff_right hnone).symm

end Decimals

lemma readDecimal?_isSome_iff : (Number.readDecimal? cs).isSome = true ↔ IsDecimal cs := by
  constructor
  · intro h
    obtain ⟨digits, rest, rfl, hdigits, hrest⟩ := exists_span_digits cs
    by_cases hpoint : rest.head? = some '.'
    · obtain ⟨after, rfl⟩ : ∃ after, rest = '.' :: after :=
        ⟨rest.tail, (List.cons_head?_tail hpoint).symm⟩
      obtain ⟨decimals, exponent, rfl, hdecimals, hexponent⟩ := exists_span_digits after
      obtain ⟨hsome, hexp⟩ := (readDecimal?_point hdigits hdecimals hexponent).1 h
      exact .point hdigits hdecimals hsome hexp
    · have hplain : ∀ c, rest.head? = some c → c.isDigit = false ∧ c ≠ '.' := by
        intro c hc
        refine ⟨hrest c hc, ?_⟩
        rintro rfl
        exact hpoint hc
      obtain ⟨hsome, hexp⟩ := (readDecimal?_whole hdigits hplain).1 h
      exact .whole ⟨hsome, hdigits⟩ hexp
  · intro h
    cases h with
    | whole h hexponent =>
      exact (readDecimal?_whole h.2 fun c hc => hexponent.head hc).2 ⟨h.1, hexponent⟩
    | point hdigits hdecimals hsome hexponent =>
      exact (readDecimal?_point hdigits hdecimals fun c hc => (hexponent.head hc).1).2
        ⟨hsome, hexponent⟩

lemma exists_readBinary?_iff (f : Number.Format) {text : String} :
    (∃ x, Number.readBinary? f text = some x) ↔ WritesFloat text.toList := by
  obtain ⟨⟨negative, body⟩, hread⟩ : ∃ sign, Number.readSign text.toList = sign := ⟨_, rfl⟩
  have hwrites : WritesFloat text.toList ↔ IsDecimal body ∨
      String.ofList (body.map Char.toLower) ∈ ["nan", "inf", "infinity"] := by
    constructor
    · rintro (⟨hsign, h⟩ | ⟨hsign, h⟩)
      · rw [← readSign_eq_iff, hread] at hsign
        cases hsign
        exact .inl h
      · rw [← readSign_eq_iff, hread] at hsign
        cases hsign
        exact .inr h
    · rintro (h | h)
      · exact .decimal (readSign_eq_iff.1 hread) h
      · exact .word (readSign_eq_iff.1 hread) h
  rw [hwrites, ← readDecimal?_isSome_iff, ← Option.isSome_iff_exists]
  unfold Number.readBinary?
  rw [hread]
  dsimp only
  split
  · rename_i hnan
    simp [beq_iff_eq.1 hnan]
  · rename_i hnan
    split
    · rename_i hinf
      rw [Bool.or_eq_true, beq_iff_eq, beq_iff_eq] at hinf
      rcases hinf with hinf | hinf <;> simp [hinf]
    · rename_i hinf
      rw [Option.isSome_map]
      refine (or_iff_left ?_).symm
      simp_all

end ApiCodegen.Proofs
