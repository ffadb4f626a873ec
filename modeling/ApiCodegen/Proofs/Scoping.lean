import ApiCodegen.Proofs.Identifiers
import ApiCodegen.Tree.Client
import ApiCodegen.Tree.Handler

/-!
# Scopes of generated code

A use of a variable refers to the latest introduction of its name that is in scope. `uses` resolves
every use in a piece of code, given what is in scope before it; code is hygienic if each use refers
to the variable that it stands for.

Two ways show that a variable is found: nothing in scope but itself has its name (`Separate`), or
what has come into scope since has other names.
-/

namespace ApiCodegen.Proofs

/-! ### Uses and introductions -/

/-- The name of a variable: the mark of a raw identifier is no part of it. -/
def key (v : Var) : String := Naming.unraw v.name

def lineReads (l : Line) : List Var :=
  l.filterMap fun
    | .reads v => some v
    | _ => none

/-- The variables that a line introduces, the latest first. -/
def lineBinds (l : Line) : List Var :=
  (l.filterMap fun
    | .binds v => some v
    | _ => none).reverse

/-- The latest introduction of the name of a variable. -/
def resolve (scope : List Var) (v : Var) : Option Var :=
  scope.find? fun w => key w == key v

/-- What is in scope after a piece of code in addition to what was before, the latest first. -/
def introduced : Code → List Var
  | .line l => lineBinds l
  | .block .after head _ _ => lineBinds head
  | .hanging head body _ => introduced body ++ lineBinds head
  | .seq first second => introduced second ++ introduced first
  | .stray s => s.lines.flatMap lineBinds
  | .nothing | .arm _ | .blank | .doc _ | .block .inside _ _ _ => []

/-- The variables that a line uses, with what they refer to. -/
def lineUses (scope : List Var) (l : Line) : List (Var × Option Var) :=
  (lineReads l).map fun v => (v, resolve scope v)

/-- The variables that a piece of code uses, with what they refer to. A statement uses what is in
scope before it. What the head of a block introduces is in scope inside or after the block, and what
an arm introduces is in scope in the arm. A call without its counterpart is as a statement. -/
def uses (scope : List Var) : Code → List (Var × Option Var)
  | .line l => lineUses scope l
  | .arm l => lineUses (lineBinds l ++ scope) l
  | .block .inside head body close =>
    lineUses scope head ++ uses (lineBinds head ++ scope) body ++ lineUses scope close
  | .block .after head body close =>
    lineUses scope head ++ uses scope body ++ lineUses scope close
  | .hanging head body close =>
    lineUses scope head ++ uses scope body ++ close.toList.flatMap (lineUses scope)
  | .stray s => s.lines.flatMap (lineUses scope)
  | .seq first second => uses scope first ++ uses (introduced first ++ scope) second
  | .nothing | .blank | .doc _ => []

/-- Every use refers to the variable that it stands for. -/
def Hygienic (scope : List Var) (c : Code) : Prop :=
  ∀ use ∈ uses scope c, use.2 = some use.1

instance (scope : List Var) (c : Code) : Decidable (Hygienic scope c) :=
  inferInstanceAs (Decidable (∀ use ∈ uses scope c, use.2 = some use.1))

/-- A parameter that captures a variable of the generator. -/
example : ¬Hygienic [⟨"log_fields", .generated⟩]
    (.line [.text "let ", .binds ⟨"log_fields", .parameter .query⟩, .text " = 1;"] ++
      .line [.ofLocal "log_fields", .text ".received();"]) := by decide

section Lines

variable {l : Line} {v : Var}

lemma mem_lineReads : v ∈ lineReads l ↔ .reads v ∈ l := by
  unfold lineReads
  rw [List.mem_filterMap]
  constructor
  · rintro ⟨p, hp, h⟩
    cases p <;> simp_all
  · exact fun h => ⟨_, h, rfl⟩

lemma mem_lineBinds : v ∈ lineBinds l ↔ .binds v ∈ l := by
  unfold lineBinds
  rw [List.mem_reverse, List.mem_filterMap]
  constructor
  · rintro ⟨p, hp, h⟩
    cases p <;> simp_all
  · exact fun h => ⟨_, h, rfl⟩

lemma mem_joined {p : Piece} {separator : String} (hp : p ≠ .text separator) {ls : List Line} :
    p ∈ Line.joined separator ls ↔ ∃ l ∈ ls, p ∈ l := by
  induction ls with
  | nil => simp [Line.joined]
  | cons l ls ih =>
    cases ls with
    | nil => simp [Line.joined]
    | cons k ls => simp [Line.joined, hp, ih]

/-- A line without variables of its own. -/
lemma lineBinds_eq_nil (h : ∀ v, .binds v ∉ l) : lineBinds l = [] :=
  List.eq_nil_iff_forall_not_mem.2 fun v hv => h v (mem_lineBinds.1 hv)

end Lines

/-! ### What is found -/

/-- The variable itself is found under its name. -/
def Provides (scope : List Var) (v : Var) : Prop := resolve scope v = some v

/-- Variables that are equal if they have one name. -/
def Separate (P : Var → Prop) : Prop :=
  ∀ v w, P v → P w → key v = key w → v = w

section Resolution

variable {scope bs : List Var} {v w : Var} {P : Var → Prop}

lemma Provides.append (h : Provides scope v) (hclear : ∀ w ∈ bs, key w ≠ key v) :
    Provides (bs ++ scope) v := by
  have hnone : bs.find? (fun w => key w == key v) = none := by
    rw [List.find?_eq_none]
    intro w hw
    rw [beq_iff_eq]
    exact hclear w hw
  unfold Provides resolve
  rw [List.find?_append, hnone]
  exact h

/-- Among variables of different names each is found, whatever is in scope behind them. -/
lemma Separate.provides (hP : Separate P) (hbs : ∀ w ∈ bs, P w) (hv : v ∈ bs) :
    Provides (bs ++ scope) v := by
  have hfound : bs.find? (fun w => key w == key v) = some v := by
    cases hw : bs.find? (fun w => key w == key v) with
    | none => exact absurd (beq_self_eq_true (key v)) (List.find?_eq_none.1 hw v hv)
    | some w =>
      have hkey : key w = key v := by simpa using List.find?_some hw
      rw [hP w v (hbs w (List.mem_of_find?_eq_some hw)) (hbs v hv) hkey]
  unfold Provides resolve
  rw [List.find?_append, hfound]
  rfl

lemma Separate.provides_self (hP : Separate P) (hscope : ∀ w ∈ scope, P w) (hv : v ∈ scope) :
    Provides scope v := by
  have hfound : Provides (scope ++ []) v := hP.provides hscope hv
  rwa [List.append_nil] at hfound

lemma Separate.key_ne (hP : Separate P) (hw : P w) (hv : P v) (hne : w ≠ v) : key w ≠ key v :=
  fun h => hne (hP w v hw hv h)

lemma separate_eq (v : Var) : Separate (· = v) := by
  rintro a b rfl rfl -
  rfl

lemma provides_head : Provides ([v] ++ scope) v :=
  (separate_eq v).provides (fun _ hw => List.mem_singleton.1 hw) (List.mem_singleton_self v)

lemma Provides.behind (h : Provides scope v) (hne : key w ≠ key v) : Provides ([w] ++ scope) v := by
  refine h.append fun u hu => ?_
  rw [List.mem_singleton.1 hu]
  exact hne

lemma provides_line_of_binds {l : Line} (hv : .binds v ∈ l) (hall : ∀ w, .binds w ∈ l → w = v) :
    Provides (lineBinds l ++ scope) v :=
  (separate_eq v).provides (fun w hw => hall w (mem_lineBinds.1 hw)) (mem_lineBinds.2 hv)

lemma Provides.line {l : Line} (h : Provides scope v) (hclear : ∀ w, .binds w ∈ l → key w ≠ key v) :
    Provides (lineBinds l ++ scope) v :=
  h.append fun w hw => hclear w (mem_lineBinds.1 hw)

end Resolution

/-! ### Hygiene of the parts of code -/

section Hygiene

variable {scope : List Var} {l head close : Line} {body a b c : Code} {v : Var}

lemma forall_lineUses :
    (∀ use ∈ lineUses scope l, use.2 = some use.1) ↔ ∀ v, .reads v ∈ l → Provides scope v := by
  unfold lineUses
  simp only [List.forall_mem_map, mem_lineReads]
  rfl

lemma hygienic_nothing : Hygienic scope .nothing := fun _ h => absurd h List.not_mem_nil

lemma hygienic_line : Hygienic scope (.line l) ↔ ∀ v, .reads v ∈ l → Provides scope v :=
  forall_lineUses

lemma hygienic_arm :
    Hygienic scope (.arm l) ↔ ∀ v, .reads v ∈ l → Provides (lineBinds l ++ scope) v :=
  forall_lineUses

lemma hygienic_inside :
    Hygienic scope (.block .inside head body close) ↔
      (∀ v, .reads v ∈ head → Provides scope v) ∧ Hygienic (lineBinds head ++ scope) body ∧
        ∀ v, .reads v ∈ close → Provides scope v := by
  unfold Hygienic
  rw [uses, List.forall_mem_append, List.forall_mem_append, forall_lineUses, forall_lineUses,
    and_assoc]

lemma hygienic_after :
    Hygienic scope (.block .after head body close) ↔
      (∀ v, .reads v ∈ head → Provides scope v) ∧ Hygienic scope body ∧
        ∀ v, .reads v ∈ close → Provides scope v := by
  unfold Hygienic
  rw [uses, List.forall_mem_append, List.forall_mem_append, forall_lineUses, forall_lineUses,
    and_assoc]

lemma hygienic_hanging {close : Option Line} :
    Hygienic scope (.hanging head body close) ↔
      (∀ v, .reads v ∈ head → Provides scope v) ∧ Hygienic scope body ∧
        ∀ l ∈ close, ∀ v, .reads v ∈ l → Provides scope v := by
  unfold Hygienic
  rw [uses, List.forall_mem_append, List.forall_mem_append, forall_lineUses, and_assoc]
  cases close with
  | none => simp
  | some l =>
    simp only [Option.toList_some, List.flatMap_singleton, forall_lineUses, Option.mem_def,
      Option.some.injEq, forall_eq']

/-- An arm with one variable of its own, whose name no other variable has that it uses. -/
lemma hygienic_arm_of {w : Var} (hbinds : ∀ u, .binds u ∈ l → u = w)
    (hreads : ∀ v, .reads v ∈ l → v = w ∧ .binds w ∈ l ∨ key w ≠ key v ∧ Provides scope v) :
    Hygienic scope (.arm l) := by
  rw [hygienic_arm]
  intro v hv
  rcases hreads v hv with ⟨rfl, hbind⟩ | ⟨hne, hprovides⟩
  · exact provides_line_of_binds hbind hbinds
  · refine hprovides.line fun u hu => ?_
    rw [hbinds u hu]
    exact hne

lemma hygienic_append :
    Hygienic scope (a ++ b) ↔ Hygienic scope a ∧ Hygienic (introduced a ++ scope) b :=
  List.forall_mem_append

@[simp] lemma lines_append : (a ++ b).lines = a.lines ++ b.lines := rfl

lemma introduced_append : introduced (a ++ b) = introduced b ++ introduced a := rfl

lemma hygienic_assoc : Hygienic scope (a ++ b ++ c) ↔ Hygienic scope (a ++ (b ++ c)) := by
  rw [hygienic_append, hygienic_append, hygienic_append, hygienic_append, introduced_append,
    List.append_assoc, and_assoc]

lemma hygienic_append_of_nil (h : introduced a = []) :
    Hygienic scope (a ++ b) ↔ Hygienic scope a ∧ Hygienic scope b := by
  rw [hygienic_append, h, List.nil_append]

lemma hygienic_braces :
    Hygienic scope (.braces head body) ↔
      (∀ v, .reads v ∈ head → Provides scope v) ∧ Hygienic (lineBinds head ++ scope) body := by
  unfold Code.braces
  rw [hygienic_inside]
  simp

lemma mem_introduced_all {codes : List Code} :
    v ∈ introduced (.all codes) ↔ ∃ c ∈ codes, v ∈ introduced c := by
  induction codes with
  | nil => simp [Code.all, introduced]
  | cons c codes ih =>
    have hstep : introduced (.all (c :: codes)) = introduced (.all codes) ++ introduced c := rfl
    rw [hstep, List.mem_append, ih, or_comm]
    simp

/-- Code in pieces is hygienic if each piece is, whatever the pieces before it introduce. -/
lemma hygienic_all {codes : List Code} {P : Var → Prop}
    (hintroduced : ∀ c ∈ codes, ∀ w ∈ introduced c, P w)
    (h : ∀ c ∈ codes, ∀ bs : List Var, (∀ w ∈ bs, P w) → Hygienic (bs ++ scope) c) :
    Hygienic scope (.all codes) := by
  have hbehind : ∀ bs : List Var, (∀ w ∈ bs, P w) → Hygienic (bs ++ scope) (.all codes) := by
    induction codes with
    | nil => exact fun bs _ => hygienic_nothing
    | cons c codes ih =>
      intro bs hbs
      obtain ⟨hfirst, hrest⟩ := List.forall_mem_cons.1 h
      have hnew := (List.forall_mem_cons.1 hintroduced).1
      refine hygienic_append.2 ⟨hfirst bs hbs, ?_⟩
      rw [← List.append_assoc]
      refine ih (List.forall_mem_cons.1 hintroduced).2 hrest _ ?_
      exact List.forall_mem_append.2 ⟨hnew, hbs⟩
  exact hbehind [] (fun _ h => absurd h List.not_mem_nil)

lemma hygienic_all_of_nil {codes : List Code} (hnew : ∀ c ∈ codes, introduced c = [])
    (h : ∀ c ∈ codes, Hygienic scope c) : Hygienic scope (.all codes) := by
  refine hygienic_all (P := fun _ => False) ?_ ?_
  · intro c hc w hw
    rw [hnew c hc] at hw
    cases hw
  · intro c hc bs hbs
    rw [List.eq_nil_iff_forall_not_mem.2 hbs]
    exact h c hc

lemma introduced_eq_nil (h : ∀ l ∈ c.lines, ∀ v, .binds v ∉ l) : introduced c = [] := by
  induction c with
  | nothing | arm _ | blank | doc _ => rfl
  | line l => exact lineBinds_eq_nil (h l List.mem_cons_self)
  | block binding head body close ih =>
    cases binding with
    | inside => rfl
    | after => exact lineBinds_eq_nil (h head List.mem_cons_self)
  | hanging head body close ih =>
    obtain ⟨hhead, hrest⟩ := List.forall_mem_cons.1 h
    rw [introduced, lineBinds_eq_nil hhead, ih (List.forall_mem_append.1 hrest).1]
    rfl
  | stray s => exact List.flatMap_eq_nil_iff.2 fun l hl => lineBinds_eq_nil (h l hl)
  | seq a b iha ihb =>
    obtain ⟨ha, hb⟩ := List.forall_mem_append.1 h
    rw [introduced, iha ha, ihb hb]
    rfl

/-- Code that introduces nothing uses what is in scope before it. -/
lemma hygienic_of_reads (hbinds : ∀ l ∈ c.lines, ∀ v, .binds v ∉ l)
    (hreads : ∀ l ∈ c.lines, ∀ v, .reads v ∈ l → Provides scope v) : Hygienic scope c := by
  induction c with
  | nothing | blank | doc _ => exact fun _ h => absurd h List.not_mem_nil
  | line l => exact hygienic_line.2 (hreads l List.mem_cons_self)
  | arm l =>
    rw [hygienic_arm, lineBinds_eq_nil (hbinds l List.mem_cons_self)]
    exact hreads l List.mem_cons_self
  | block binding head body close ih =>
    obtain ⟨hhead, hrest⟩ := List.forall_mem_cons.1 hbinds
    obtain ⟨hbody, -⟩ := List.forall_mem_append.1 hrest
    obtain ⟨rhead, rrest⟩ := List.forall_mem_cons.1 hreads
    obtain ⟨rbody, rclose⟩ := List.forall_mem_append.1 rrest
    have hclose := rclose close List.mem_cons_self
    cases binding with
    | inside =>
      rw [hygienic_inside, lineBinds_eq_nil hhead]
      exact ⟨rhead, ih hbody rbody, hclose⟩
    | after => exact hygienic_after.2 ⟨rhead, ih hbody rbody, hclose⟩
  | hanging head body close ih =>
    obtain ⟨-, hrest⟩ := List.forall_mem_cons.1 hbinds
    obtain ⟨hbody, -⟩ := List.forall_mem_append.1 hrest
    obtain ⟨rhead, rrest⟩ := List.forall_mem_cons.1 hreads
    obtain ⟨rbody, rclose⟩ := List.forall_mem_append.1 rrest
    refine hygienic_hanging.2 ⟨rhead, ih hbody rbody, fun l hl => rclose l ?_⟩
    exact Option.mem_toList.2 hl
  | stray s =>
    intro use huse
    obtain ⟨l, hl, huse⟩ := List.mem_flatMap.1 huse
    exact hygienic_line.2 (hreads l hl) use huse
  | seq a b iha ihb =>
    obtain ⟨ha, hb⟩ := List.forall_mem_append.1 hbinds
    obtain ⟨ra, rb⟩ := List.forall_mem_append.1 hreads
    refine hygienic_append.2 ⟨iha ha ra, ?_⟩
    rw [introduced_eq_nil ha]
    exact ihb hb rb

/-! ### Code in stages -/

/-- Code up to some point, after which the variables in scope are separate and some are known. -/
structure Stage (P : Var → Prop) (scope : List Var) (c : Code) (known : List Var) : Prop where
  hygienic : Hygienic scope c
  all : ∀ w ∈ introduced c ++ scope, P w
  known : ∀ v ∈ known, v ∈ introduced c ++ scope

section Stages

variable {P : Var → Prop} {known new : List Var}

lemma Stage.provides (h : Stage P scope a known) (hP : Separate P) (hv : v ∈ known) :
    Provides (introduced a ++ scope) v :=
  hP.provides_self h.all (h.known v hv)

lemma Stage.first (hscope : ∀ w ∈ scope, P w) (ha : Hygienic scope a)
    (hall : ∀ w ∈ introduced a, P w) : Stage P scope a (introduced a ++ scope) :=
  ⟨ha, List.forall_mem_append.2 ⟨hall, hscope⟩, fun _ hv => hv⟩

lemma Stage.last (h : Stage P scope a known) (hP : Separate P)
    (hb : ∀ scope, (∀ v ∈ known, Provides scope v) → Hygienic scope b) : Hygienic scope (a ++ b) :=
  hygienic_append.2 ⟨h.hygienic, hb _ fun _ hv => h.provides hP hv⟩

/-- Code that needs what is known takes a stage further. -/
lemma Stage.next (h : Stage P scope a known) (hP : Separate P)
    (hb : ∀ scope, (∀ v ∈ known, Provides scope v) → Hygienic scope b)
    (hall : ∀ w ∈ introduced b, P w) (hnew : ∀ v ∈ new, v ∈ introduced b) :
    Stage P scope (a ++ b) (new ++ known) := by
  refine ⟨h.last hP hb, ?_, ?_⟩
  · rw [introduced_append, List.append_assoc]
    exact List.forall_mem_append.2 ⟨hall, h.all⟩
  · rw [introduced_append, List.append_assoc]
    refine List.forall_mem_append.2 ⟨fun v hv => ?_, fun v hv => ?_⟩
    · exact List.mem_append_left _ (hnew v hv)
    · exact List.mem_append_right _ (h.known v hv)

/-- Code that introduces nothing to be kept in mind. -/
lemma Stage.keep (h : Stage P scope a known) (hP : Separate P)
    (hb : ∀ scope, (∀ v ∈ known, Provides scope v) → Hygienic scope b)
    (hall : ∀ w ∈ introduced b, P w) : Stage P scope (a ++ b) known := by
  have hnone : ∀ v ∈ ([] : List Var), v ∈ introduced b := fun _ h => absurd h List.not_mem_nil
  have hnext : Stage P scope (a ++ b) ([] ++ known) := h.next hP hb hall hnone
  exact hnext

/-- A statement that uses what is in scope at the beginning. -/
lemma Stage.ofLine (hP : Separate P) (hscope : ∀ w ∈ scope, P w)
    (hreads : ∀ v, .reads v ∈ l → v ∈ scope) (hbinds : ∀ v, .binds v ∈ l → P v) :
    Stage P scope (.line l) (lineBinds l ++ scope) := by
  refine Stage.first hscope (hygienic_line.2 fun v hv => ?_) fun v hv => hbinds v ?_
  · exact hP.provides_self hscope (hreads v hv)
  · exact mem_lineBinds.1 hv

/-- A statement that uses what is known. -/
lemma Stage.line (h : Stage P scope a known) (hP : Separate P)
    (hreads : ∀ v, .reads v ∈ l → v ∈ known) (hbinds : ∀ v, .binds v ∈ l → P v) :
    Stage P scope (a ++ .line l) (lineBinds l ++ known) := by
  refine h.next hP (fun inner hknown => hygienic_line.2 fun v hv => ?_) (fun v hv => ?_) ?_
  · exact hknown v (hreads v hv)
  · exact hbinds v (mem_lineBinds.1 hv)
  · exact fun v hv => hv

end Stages

end Hygiene

end ApiCodegen.Proofs
