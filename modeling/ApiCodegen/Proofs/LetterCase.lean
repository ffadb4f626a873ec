import Mathlib.Tactic.Common

/-!
# The case of letters

Changing the case of a character touches ASCII letters only. What holds of the case of these is a
matter of few characters (`forall_char`), and every other character stays as it is.
-/

namespace ApiCodegen.Proofs

section Characters

variable {c : Char}

lemma isUpper_iff : c.isUpper = true ↔ 65 ≤ c.toNat ∧ c.toNat ≤ 90 :=
  decide_eq_true_iff.trans (and_congr UInt32.le_iff_toNat_le UInt32.le_iff_toNat_le)

lemma isLower_iff : c.isLower = true ↔ 97 ≤ c.toNat ∧ c.toNat ≤ 122 :=
  Bool.and_eq_true_iff.trans (and_congr (decide_eq_true_iff.trans UInt32.le_iff_toNat_le)
    (decide_eq_true_iff.trans UInt32.le_iff_toNat_le))

lemma isDigit_iff : c.isDigit = true ↔ 48 ≤ c.toNat ∧ c.toNat ≤ 57 :=
  Bool.and_eq_true_iff.trans (and_congr (decide_eq_true_iff.trans UInt32.le_iff_toNat_le)
    (decide_eq_true_iff.trans UInt32.le_iff_toNat_le))

lemma isAlpha_iff : c.isAlpha = true ↔ c.isUpper = true ∨ c.isLower = true :=
  Bool.or_eq_true_iff

lemma isAlpha_of_isUpper (h : c.isUpper = true) : c.isAlpha = true := isAlpha_iff.2 (Or.inl h)

lemma isAlpha_of_isLower (h : c.isLower = true) : c.isAlpha = true := isAlpha_iff.2 (Or.inr h)

lemma isAlphanum_iff : c.isAlphanum = true ↔ c.isAlpha = true ∨ c.isDigit = true :=
  Bool.or_eq_true_iff

lemma toLower_eq_self (h : ¬c.isUpper = true) : c.toLower = c :=
  dif_neg fun hupper => h (decide_eq_true_iff.2 hupper)

lemma toUpper_eq_self (h : ¬c.isLower = true) : c.toUpper = c :=
  dif_neg fun hlower => h (Bool.and_eq_true_iff.2
    ⟨decide_eq_true_iff.2 hlower.1, decide_eq_true_iff.2 hlower.2⟩)

lemma toNat_lt_of_isAlpha (h : c.isAlpha = true) : c.toNat < 128 := by
  rw [isAlpha_iff, isUpper_iff, isLower_iff] at h
  omega

/-- A property of all characters is one of the ASCII characters and of all that is no letter. -/
lemma forall_char {P : Char → Prop} (hascii : ∀ n : Fin 128, P (Char.ofNat n))
    (hrest : ∀ c : Char, c.isAlpha = false → P c) (c : Char) : P c := by
  by_cases hc : c.isAlpha = true
  · have hn := hascii ⟨c.toNat, toNat_lt_of_isAlpha hc⟩
    rwa [Char.ofNat_toNat] at hn
  · exact hrest c (Bool.eq_false_iff.2 hc)

/-- Without case nothing changes. -/
lemma caseless (h : c.isAlpha = false) :
    c.isUpper = false ∧ c.isLower = false ∧ c.toLower = c ∧ c.toUpper = c := by
  have hupper : ¬c.isUpper = true := fun hupper => by simp [isAlpha_of_isUpper hupper] at h
  have hlower : ¬c.isLower = true := fun hlower => by simp [isAlpha_of_isLower hlower] at h
  exact ⟨Bool.eq_false_iff.2 hupper, Bool.eq_false_iff.2 hlower, toLower_eq_self hupper,
    toUpper_eq_self hlower⟩

lemma not_isUpper_of_isLower (h : c.isLower = true) : ¬c.isUpper = true := by
  rw [isLower_iff] at h
  rw [isUpper_iff]
  omega

@[simp] lemma isLower_toLower (c : Char) : c.toLower.isLower = c.isAlpha := by
  revert c
  refine forall_char (by decide +kernel) fun c hc => ?_
  obtain ⟨-, hlower, hsame, -⟩ := caseless hc
  rw [hsame, hlower, hc]

@[simp] lemma isUpper_toUpper (c : Char) : c.toUpper.isUpper = c.isAlpha := by
  revert c
  refine forall_char (by decide +kernel) fun c hc => ?_
  obtain ⟨hupper, -, -, hsame⟩ := caseless hc
  rw [hsame, hupper, hc]

@[simp] lemma isUpper_toLower (c : Char) : c.toLower.isUpper = false := by
  revert c
  refine forall_char (by decide +kernel) fun c hc => ?_
  obtain ⟨hupper, -, hsame, -⟩ := caseless hc
  rw [hsame, hupper]

@[simp] lemma isLower_toUpper (c : Char) : c.toUpper.isLower = false := by
  revert c
  refine forall_char (by decide +kernel) fun c hc => ?_
  obtain ⟨-, hlower, -, hsame⟩ := caseless hc
  rw [hsame, hlower]

@[simp] lemma isAlpha_toUpper (c : Char) : c.toUpper.isAlpha = c.isAlpha := by
  rw [Bool.eq_iff_iff, isAlpha_iff, isUpper_toUpper, isLower_toUpper]
  exact or_iff_left Bool.false_ne_true

@[simp] lemma toLower_toLower (c : Char) : c.toLower.toLower = c.toLower :=
  toLower_eq_self (by simp)

@[simp] lemma toUpper_toLower (c : Char) : c.toLower.toUpper = c.toUpper := by
  revert c
  refine forall_char (by decide +kernel) fun c hc => ?_
  rw [(caseless hc).2.2.1]

@[simp] lemma toLower_toUpper (c : Char) : c.toUpper.toLower = c.toLower := by
  revert c
  refine forall_char (by decide +kernel) fun c hc => ?_
  rw [(caseless hc).2.2.2]

end Characters

end ApiCodegen.Proofs
