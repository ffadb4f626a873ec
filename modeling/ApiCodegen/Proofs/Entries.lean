import Mathlib.Data.List.Basic
import Mathlib.Tactic.Common

/-!
# Lists of entries

An entry is a key with a value, and the first entry of a key is the one that is found.
-/

namespace ApiCodegen.Proofs

section Entries

variable {α β : Type} [BEq α] [LawfulBEq α] [DecidableEq α]

lemma lookup_cons_eq_ite (key k : α) (b : β) (entries : List (α × β)) :
    ((k, b) :: entries).lookup key = if key = k then some b else entries.lookup key := by
  rw [List.lookup_cons]
  by_cases h : key = k
  · rw [beq_iff_eq.2 h, if_pos h]
  · rw [beq_false_of_ne h, if_neg h]

lemma lookup_filter_ne (key k : α) (entries : List (α × β)) :
    (entries.filter fun entry => entry.1 != k).lookup key =
      if key = k then none else entries.lookup key := by
  induction entries with
  | nil => exact (ite_self _).symm
  | cons entry entries ih =>
    obtain ⟨n, b⟩ := entry
    by_cases hn : n = k
    · subst hn
      rw [List.filter_cons_of_neg (by simp), ih, lookup_cons_eq_ite]
      by_cases hkey : key = n
      · rw [if_pos hkey, if_pos hkey]
      · rw [if_neg hkey, if_neg hkey, if_neg hkey]
    · rw [List.filter_cons_of_pos (by simpa using hn), lookup_cons_eq_ite, lookup_cons_eq_ite, ih]
      by_cases hkey : key = n
      · rw [if_pos hkey, if_neg fun h => hn (hkey.symm.trans h), if_pos hkey]
      · rw [if_neg hkey, if_neg hkey]

end Entries

end ApiCodegen.Proofs
