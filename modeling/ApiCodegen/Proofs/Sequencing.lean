import Mathlib.Data.List.Forall2
import Mathlib.Tactic.Common

/-!
# Steps that may fail

A check, a resolution or an emission is a sequence of steps of which the first failure ends the
whole. `Succeeds` says that none fails. The lemmas below take sequences apart: success of the whole
is success of every step, for single steps, for lists of them and for conditions in between.
-/

namespace ApiCodegen.Proofs

section Steps

variable {ε α β : Type}

/-- A computation that gives a result. -/
def Succeeds (x : Except ε α) : Prop := ∃ a, x = .ok a

lemma bind_eq_ok_iff {x : Except ε α} {f : α → Except ε β} {b : β} :
    (x >>= f) = .ok b ↔ ∃ a, x = .ok a ∧ f a = .ok b := by
  cases x with
  | error e => simp [bind, Except.bind]
  | ok a => simp [bind, Except.bind]

lemma map_eq_ok_iff {x : Except ε α} {f : α → β} {b : β} :
    x.map f = .ok b ↔ ∃ a, x = .ok a ∧ f a = b := by
  cases x with
  | error e => simp [Except.map]
  | ok a => simp [Except.map]

lemma map_eq_error_iff {x : Except ε α} {f : α → β} {e : ε} :
    x.map f = .error e ↔ x = .error e := by
  cases x with
  | error e => simp [Except.map]
  | ok a => simp [Except.map]

lemma check_bind_eq_ok_iff {x : Except ε Unit} {y : Except ε β} {b : β} :
    (x >>= fun _ => y) = .ok b ↔ x = .ok () ∧ y = .ok b := by
  rw [bind_eq_ok_iff]
  constructor
  · rintro ⟨⟨⟩, hx, hy⟩
    exact ⟨hx, hy⟩
  · rintro ⟨hx, hy⟩
    exact ⟨(), hx, hy⟩

lemma refuse_eq_ok_iff {c : Prop} [Decidable c] {e : ε} {x : Except ε α} {a : α} :
    (if c then .error e else x) = .ok a ↔ ¬c ∧ x = .ok a := by
  by_cases hc : c
  · simp [hc]
  · simp [hc]

lemma discard_eq_ok_iff {x : Except ε α} : discard x = .ok () ↔ Succeeds x := by
  cases x with
  | error e => simp [Succeeds, discard, Functor.discard, Functor.mapConst, Except.map]
  | ok a => simp [Succeeds, discard, Functor.discard, Functor.mapConst, Except.map]

lemma forM_eq_ok_iff {f : α → Except ε Unit} {as : List α} :
    as.forM f = .ok () ↔ ∀ a ∈ as, f a = .ok () := by
  induction as with
  | nil => simp [List.forM, pure, Except.pure]
  | cons a as ih =>
    have hstep : (a :: as).forM f = (f a >>= fun _ => as.forM f) := rfl
    rw [hstep, check_bind_eq_ok_iff, ih]
    simp only [List.mem_cons, forall_eq_or_imp]

/-- The first failure of a list of checks is that of the whole. -/
lemma forM_append_eq_error {f : α → Except ε Unit} {before after : List α} {a : α} {e : ε}
    (hbefore : ∀ b ∈ before, f b = .ok ()) (ha : f a = .error e) :
    (before ++ a :: after).forM f = .error e := by
  induction before with
  | nil =>
    change (f a >>= fun _ => after.forM f) = _
    rw [ha]
    rfl
  | cons b before ih =>
    obtain ⟨hb, hrest⟩ := List.forall_mem_cons.1 hbefore
    change (f b >>= fun _ => (before ++ a :: after).forM f) = _
    rw [hb]
    exact ih hrest

/-- The results of a list of computations belong to its members one by one. -/
lemma mapM_eq_ok_iff {f : α → Except ε β} {as : List α} {bs : List β} :
    as.mapM f = .ok bs ↔ List.Forall₂ (fun a b => f a = .ok b) as bs := by
  induction as generalizing bs with
  | nil =>
    rw [List.mapM_nil, List.forall₂_nil_left_iff]
    exact ⟨fun h => (Except.ok.inj h).symm, fun h => h ▸ rfl⟩
  | cons a as ih =>
    rw [List.mapM_cons, bind_eq_ok_iff, List.forall₂_cons_left_iff]
    constructor
    · rintro ⟨b, hb, hrest⟩
      obtain ⟨rest, hbs, heq⟩ := bind_eq_ok_iff.1 hrest
      exact ⟨b, rest, hb, ih.1 hbs, (Except.ok.inj heq).symm⟩
    · rintro ⟨b, rest, hb, hbs, rfl⟩
      exact ⟨b, hb, bind_eq_ok_iff.2 ⟨rest, ih.2 hbs, rfl⟩⟩

lemma exists_of_mem_forall₂ {R : α → β → Prop} {as : List α} {bs : List β}
    (h : List.Forall₂ R as bs) {b : β} (hb : b ∈ bs) : ∃ a ∈ as, R a b := by
  induction h with
  | nil => cases hb
  | @cons a b' as bs hab _ ih =>
    rcases List.mem_cons.1 hb with rfl | hb
    · exact ⟨a, List.mem_cons_self, hab⟩
    · obtain ⟨a', ha', hfound⟩ := ih hb
      exact ⟨a', List.mem_cons_of_mem a ha', hfound⟩

/-- What depends on the left members only can be told of them alone. -/
lemma forall₂_iff_forall {R P : α → β → Prop} {Q : α → Prop} {as : List α} {bs : List β}
    (h : List.Forall₂ R as bs) (hPQ : ∀ a ∈ as, ∀ b, R a b → (P a b ↔ Q a)) :
    List.Forall₂ P as bs ↔ ∀ a ∈ as, Q a := by
  induction h with
  | nil => simp
  | @cons a b as bs hab _ ih =>
    obtain ⟨ha, has⟩ := List.forall_mem_cons.1 hPQ
    rw [List.forall₂_cons, List.forall_mem_cons]
    exact and_congr (ha b hab) (ih has)

/-- Every result of a list of computations is that of a member. -/
lemma exists_of_mem_mapM {f : α → Except ε β} {as : List α} {bs : List β}
    (h : as.mapM f = .ok bs) {b : β} (hb : b ∈ bs) : ∃ a ∈ as, f a = .ok b :=
  exists_of_mem_forall₂ (mapM_eq_ok_iff.1 h) hb

lemma forall_of_mapM {P : β → Prop} {f : α → Except ε β} {as : List α} {bs : List β}
    (hf : ∀ a b, f a = .ok b → P b) (h : as.mapM f = .ok bs) : ∀ b ∈ bs, P b := by
  intro b hb
  obtain ⟨a, -, ha⟩ := exists_of_mem_mapM h hb
  exact hf a b ha

/-- Every member of a list has a result among those of the list. -/
lemma exists_mem_of_mapM {f : α → Except ε β} {as : List α} {bs : List β}
    (h : as.mapM f = .ok bs) {a : α} (ha : a ∈ as) : ∃ b ∈ bs, f a = .ok b :=
  exists_of_mem_forall₂ (mapM_eq_ok_iff.1 h).flip ha

/-- What can be told of a result from its member can be told of all results. -/
lemma map_of_mapM {γ : Type} {f : α → Except ε β} {g : β → γ} {h : α → γ} {as : List α}
    {bs : List β} (hbs : as.mapM f = .ok bs) (hgh : ∀ a ∈ as, ∀ b, f a = .ok b → g b = h a) :
    bs.map g = as.map h := by
  induction mapM_eq_ok_iff.1 hbs with
  | nil => rfl
  | cons hfirst hrest ih =>
    rw [List.forall_mem_cons] at hgh
    rw [List.map_cons, List.map_cons, hgh.1 _ hfirst, ih (mapM_eq_ok_iff.2 hrest) hgh.2]

/-! ### Success -/

lemma Succeeds.ok (a : α) : Succeeds (.ok a : Except ε α) := ⟨a, rfl⟩

lemma Succeeds.pure (a : α) : Succeeds (Pure.pure a : Except ε α) := ⟨a, rfl⟩

lemma Succeeds.bind {x : Except ε α} {f : α → Except ε β} (hx : Succeeds x)
    (hf : ∀ a, x = .ok a → Succeeds (f a)) : Succeeds (x >>= f) := by
  obtain ⟨a, ha⟩ := hx
  obtain ⟨b, hb⟩ := hf a ha
  exact ⟨b, bind_eq_ok_iff.2 ⟨a, ha, hb⟩⟩

lemma succeeds_map_iff {x : Except ε α} {f : α → β} : Succeeds (x.map f) ↔ Succeeds x := by
  constructor
  · rintro ⟨b, hb⟩
    obtain ⟨a, ha, -⟩ := map_eq_ok_iff.1 hb
    exact ⟨a, ha⟩
  · rintro ⟨a, ha⟩
    exact ⟨f a, map_eq_ok_iff.2 ⟨a, ha, rfl⟩⟩

lemma Succeeds.mapM {f : α → Except ε β} {as : List α} (h : ∀ a ∈ as, Succeeds (f a)) :
    Succeeds (as.mapM f) := by
  induction as with
  | nil => exact Succeeds.pure []
  | cons a as ih =>
    rw [List.mapM_cons]
    apply (h a List.mem_cons_self).bind
    intro b _
    apply (ih fun x hx => h x (List.mem_cons_of_mem a hx)).bind
    intro bs _
    exact Succeeds.pure (b :: bs)

/-! ### Two computations -/

/-- Two computations fail alike or give results in a relation. -/
inductive Parallel (R : α → β → Prop) : Except ε α → Except ε β → Prop
  | ok {a : α} {b : β} (h : R a b) : Parallel R (.ok a) (.ok b)
  | error (e : ε) : Parallel R (.error e) (.error e)

variable {γ δ : Type} {R : α → β → Prop} {S : γ → δ → Prop}

lemma Parallel.bind {x : Except ε α} {y : Except ε β} {f : α → Except ε γ} {g : β → Except ε δ}
    (h : Parallel R x y) (hfg : ∀ a b, R a b → Parallel S (f a) (g b)) :
    Parallel S (x >>= f) (y >>= g) := by
  cases h with
  | ok h => exact hfg _ _ h
  | error e => exact .error e

lemma Parallel.map {x : Except ε α} {y : Except ε β} {f : α → γ} {g : β → δ}
    (h : Parallel R x y) (hfg : ∀ a b, R a b → S (f a) (g b)) :
    Parallel S (x.map f) (y.map g) := by
  cases h with
  | ok h => exact .ok (hfg _ _ h)
  | error e => exact .error e

lemma Parallel.mapM {f : α → Except ε γ} {g : β → Except ε δ} {as : List α} {bs : List β}
    (has : List.Forall₂ R as bs) (h : ∀ a b, R a b → Parallel S (f a) (g b)) :
    Parallel (List.Forall₂ S) (as.mapM f) (bs.mapM g) := by
  induction has with
  | nil => exact .ok .nil
  | cons hab _ ih =>
    rw [List.mapM_cons, List.mapM_cons]
    apply (h _ _ hab).bind
    intro c d hcd
    apply ih.bind
    intro cs ds hcds
    exact .ok (.cons hcd hcds)

lemma Parallel.refl (x : Except ε α) : Parallel Eq x x := by
  cases x with
  | ok a => exact .ok rfl
  | error e => exact .error e

lemma Parallel.map_eq {x : Except ε α} {y : Except ε β} {f : α → γ} {g : β → γ}
    (h : Parallel R x y) (hfg : ∀ a b, R a b → f a = g b) : x.map f = y.map g := by
  cases h with
  | ok h => exact congrArg Except.ok (hfg _ _ h)
  | error e => rfl

/-- A computation and its translation. -/
lemma Parallel.of_map (f : α → β) (x : Except ε α) :
    Parallel (fun b a => b = f a) (x.map f) x := by
  cases x with
  | ok a => exact .ok rfl
  | error e => exact .error e

/-- A translation goes through a sequence step by step. -/
lemma bind_map_eq {x : Except ε α} {f : α → β} {next : α → Except ε γ} {next' : β → Except ε δ}
    {g : γ → δ} (h : ∀ a, next' (f a) = (next a).map g) :
    (x.map f >>= next') = (x >>= next).map g := by
  cases x with
  | ok a => exact h a
  | error e => rfl

lemma mapM_map_eq {f : α → β} {h : α → Except ε γ} {h' : β → Except ε δ} {g : γ → δ}
    (hh : ∀ a, h' (f a) = (h a).map g) (as : List α) :
    (as.map f).mapM h' = (as.mapM h).map (List.map g) := by
  induction as with
  | nil => rfl
  | cons a as ih =>
    rw [List.map_cons, List.mapM_cons, List.mapM_cons, hh, ih]
    apply bind_map_eq
    intro c
    apply bind_map_eq
    intro cs
    rfl

end Steps

end ApiCodegen.Proofs
