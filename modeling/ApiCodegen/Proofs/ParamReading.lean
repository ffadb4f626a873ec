import ApiCodegen.Signature.ParamCodec
import Mathlib.Data.List.Perm.Basic
import Mathlib.Tactic.Common

/-!
# Faults of a group of parameters

A reader is shared by all calls on a group and goes on after a failure. `Yields` says of a step what
it does on a group: its value and the faults that it appends, which depend on the group only and not
on what has been met before, and of which exactly one is there. Steps that read an element are such,
so are the accessors, and so is a run of calls, whose faults are those of its calls in order.
-/

namespace ApiCodegen.Proofs
open ParamReader

/-- On a group, a step gives a value and appends faults, whatever has been met before. The value is
missing exactly if there are faults. -/
structure Yields {β : Type} (location : ParamLocation) (pairs : List WirePair)
    (step : ParamReader → Option β × ParamReader) (value : Option β)
    (added : List ParamFault) : Prop where
  step_eq : ∀ before, step ⟨location, pairs, before⟩ = (value, ⟨location, pairs, before ++ added⟩)
  none_iff : value = none ↔ added ≠ []

section Steps

variable {α β : Type} {location : ParamLocation} {pairs : List WirePair}
  {parse : String → Option α} {allowed : Option (List String)} {name : String}

lemma Yields.pure (value : β) :
    Yields location pairs (fun r => (some value, r)) (some value) [] := by
  refine ⟨fun before => ?_, ?_⟩
  · rw [List.append_nil]
  · simp only [reduceCtorEq, ne_eq, not_true_eq_false]

lemma Yields.fail (name : String) (problem : ParamProblem) :
    Yields location pairs (fun r => ((none : Option β), r.fail name problem)) none
      [⟨path location name, problem⟩] := by
  refine ⟨fun before => rfl, ?_⟩
  simp only [ne_eq, List.cons_ne_self, not_false_eq_true]

lemma Yields.map {step : ParamReader → Option α × ParamReader} {value : Option α}
    {added : List ParamFault} (h : Yields location pairs step value added) (f : α → β) :
    Yields location pairs (fun r => ((step r).1.map f, (step r).2)) (value.map f) added := by
  refine ⟨fun before => ?_, ?_⟩
  · rw [h.step_eq]
  · rw [Option.map_eq_none_iff]
    exact h.none_iff

/-- Two steps append their faults one after the other; both values have to be there. -/
lemma Yields.cons {first : ParamReader → Option α × ParamReader}
    {rest : ParamReader → Option (List α) × ParamReader} {value : Option α}
    {values : Option (List α)} {added addedRest : List ParamFault}
    (h : Yields location pairs first value added)
    (hrest : Yields location pairs rest values addedRest) :
    Yields location pairs
      (fun r => ((first r).1.bind fun v => (rest (first r).2).1.map (v :: ·), (rest (first r).2).2))
      (value.bind fun v => values.map (v :: ·)) (added ++ addedRest) := by
  refine ⟨fun before => ?_, ?_⟩
  · rw [h.step_eq]
    dsimp only
    rw [hrest.step_eq, List.append_assoc]
  · cases value with
    | none =>
      have hadded : added ≠ [] := h.none_iff.1 rfl
      exact ⟨fun _ => List.append_ne_nil_of_left_ne_nil hadded _, fun _ => rfl⟩
    | some v =>
      have hadded : added = [] := by
        by_contra hne
        exact absurd (h.none_iff.2 hne) (Option.some_ne_none v)
      rw [hadded, List.nil_append, ← hrest.none_iff, Option.bind_some, Option.map_eq_none_iff]

lemma Yields.of_group {step step' : ParamReader → Option β × ParamReader} {value : Option β}
    {added : List ParamFault} (h : Yields location pairs step' value added)
    (heq : ∀ before, step ⟨location, pairs, before⟩ = step' ⟨location, pairs, before⟩) :
    Yields location pairs step value added :=
  ⟨fun before => (heq before).trans (h.step_eq before), h.none_iff⟩

variable (location pairs parse allowed name)

lemma yields_decode (raw : String) :
    ∃ value added, Yields location pairs (fun r => r.decode parse allowed name raw) value added := by
  unfold ParamReader.decode
  cases check parse allowed name raw with
  | ok value => exact ⟨some value, [], .pure value⟩
  | error problem => exact ⟨none, [⟨path location name, problem⟩], .fail name problem⟩

lemma yields_decodeAll (raws : List String) :
    ∃ values added,
      Yields location pairs (fun r => r.decodeAll parse allowed name raws) values added := by
  induction raws with
  | nil => exact ⟨some [], [], .pure []⟩
  | cons raw raws ih =>
    obtain ⟨value, added, hfirst⟩ := yields_decode location pairs parse allowed name raw
    obtain ⟨values, addedRest, hrest⟩ := ih
    exact ⟨_, _, hfirst.cons hrest⟩

/-- Every access yields: to a value that is required, optional, defaulted or repeated, with allowed
texts or without. -/
theorem yields_read (accessor : Accessor) :
    ∃ value added,
      Yields location pairs (fun r => r.read parse allowed name accessor) value added := by
  have hfirst : ∀ before, first? ⟨location, pairs, before⟩ name =
      first? (.ofPairs location pairs) name := fun _ => rfl
  cases accessor with
  | required =>
    cases hraw : first? (.ofPairs location pairs) name with
    | none =>
      refine ⟨none, _, (Yields.fail name (.absent name)).of_group fun before => ?_⟩
      change required parse allowed _ name = _
      unfold ParamReader.required
      rw [hfirst, hraw]
      rfl
    | some raw =>
      obtain ⟨value, added, hdecode⟩ := yields_decode location pairs parse allowed name raw
      refine ⟨value, added, hdecode.of_group fun before => ?_⟩
      change required parse allowed _ name = _
      unfold ParamReader.required
      rw [hfirst, hraw]
  | optional =>
    cases hraw : first? (.ofPairs location pairs) name with
    | none =>
      refine ⟨some none, _, (Yields.pure none).of_group fun before => ?_⟩
      change optional parse allowed _ name = _
      unfold ParamReader.optional
      rw [hfirst, hraw]
    | some raw =>
      obtain ⟨value, added, hdecode⟩ := yields_decode location pairs parse allowed name raw
      refine ⟨value.map some, added, (hdecode.map some).of_group fun before => ?_⟩
      change optional parse allowed _ name = _
      unfold ParamReader.optional
      rw [hfirst, hraw]
  | withDefault text =>
    obtain ⟨value, added, hdecode⟩ := yields_decode location pairs parse allowed name
      ((first? (.ofPairs location pairs) name).getD text)
    exact ⟨value, added, hdecode.of_group fun before => rfl⟩
  | array =>
    obtain ⟨read, added, hdecode⟩ := yields_decodeAll location pairs parse allowed name
      (values (.ofPairs location pairs) name)
    exact ⟨read, added, hdecode.of_group fun before => rfl⟩

end Steps

/-! ### Sequences of calls -/

/-- A call of a reader for elements of any type, by one of the four accessors or, with allowed texts,
by its variant for enums. -/
structure ParamCall where
  Element : Type
  parse : String → Option Element
  allowed : Option (List String)
  name : String
  accessor : Accessor

namespace ParamCall

abbrev Result (c : ParamCall) : Type := Option (c.accessor.Value c.Element)

def on (c : ParamCall) (r : ParamReader) : c.Result × ParamReader :=
  r.read c.parse c.allowed c.name c.accessor

/-- What a call gives if it is the first on a group. -/
def value (location : ParamLocation) (pairs : List WirePair) (c : ParamCall) : c.Result :=
  (c.on (.ofPairs location pairs)).1

/-- What a call appends if it is the first on a group. -/
def faults (location : ParamLocation) (pairs : List WirePair) (c : ParamCall) : List ParamFault :=
  (c.on (.ofPairs location pairs)).2.faults

/-- The results of calls in order, and the reader behind them. -/
def run (r : ParamReader) : List ParamCall → List (Σ c : ParamCall, c.Result) × ParamReader
  | [] => ([], r)
  | c :: cs =>
    let (result, r) := c.on r
    let (results, r) := run r cs
    (⟨c, result⟩ :: results, r)

end ParamCall

section Calls

variable (location : ParamLocation) (pairs : List WirePair)

lemma ParamCall.yields (c : ParamCall) :
    Yields location pairs c.on (c.value location pairs) (c.faults location pairs) := by
  obtain ⟨value, added, hread⟩ := yields_read location pairs c.parse c.allowed c.name c.accessor
  have hfresh : c.on (.ofPairs location pairs) = (value, ⟨location, pairs, added⟩) :=
    hread.step_eq []
  have hvalue : c.value location pairs = value := congrArg Prod.fst hfresh
  have hadded : c.faults location pairs = added :=
    congrArg (fun x => ParamReader.faults (Prod.snd x)) hfresh
  rw [hvalue, hadded]
  exact hread

/-- A run of calls gives the results of its calls and appends their faults in order. -/
theorem run_eq (before : List ParamFault) (calls : List ParamCall) :
    ParamCall.run ⟨location, pairs, before⟩ calls =
      (calls.map fun c => ⟨c, c.value location pairs⟩,
        ⟨location, pairs, before ++ calls.flatMap (ParamCall.faults location pairs)⟩) := by
  induction calls generalizing before with
  | nil => simp [ParamCall.run]
  | cons c cs ih =>
    rw [ParamCall.run, (c.yields location pairs).step_eq]
    dsimp only
    rw [ih, List.map_cons, List.flatMap_cons, List.append_assoc]

lemma exists_none_iff (calls : List ParamCall) :
    (∃ c ∈ calls, c.value location pairs = none) ↔
      calls.flatMap (ParamCall.faults location pairs) ≠ [] := by
  rw [ne_eq, List.flatMap_eq_nil_iff]
  simp only [not_forall, exists_prop]
  constructor
  · rintro ⟨c, hc, hnone⟩
    exact ⟨c, hc, (c.yields location pairs).none_iff.1 hnone⟩
  · rintro ⟨c, hc, hfaults⟩
    exact ⟨c, hc, (c.yields location pairs).none_iff.2 hfaults⟩

end Calls

/-! ### Groups -/

/-- What generated code knows of a type of elements. -/
structure ElementType where
  Element : Type
  parse : String → Option Element
  /-- The texts of an enum. -/
  allowed : List String

/-- The call that generated code makes to read a parameter. -/
def callOf (types : Spelling → ElementType) (r : ParamReading) : ParamCall :=
  let type := types r.element
  ⟨type.Element, type.parse, if r.restricted then some type.allowed else none, r.name, r.accessor⟩

/-- Whether the variable of a parameter holds a value; a value that is lifted does. -/
def isBound {α : Type} (r : ParamReading) (result : Option α) : Bool :=
  if r.lifted then (result.map some).isSome else result.isSome

/-- Reads the parameters of a group one after the other: whether all variables hold values, and the
reader behind them. -/
def readGroup (types : Spelling → ElementType) (r : ParamReader) :
    List ParamReading → Bool × ParamReader
  | [] => (true, r)
  | reading :: readings =>
    let (result, r) := (callOf types reading).on r
    let (others, r) := readGroup types r readings
    (isBound reading result && others, r)

lemma isBound_eq {α : Type} (r : ParamReading) (result : Option α) :
    isBound r result = result.isSome := by
  unfold isBound
  rw [Option.isSome_map, ite_self]

lemma readGroup_eq (types : Spelling → ElementType) (location : ParamLocation)
    (pairs : List WirePair) (before : List ParamFault) (readings : List ParamReading) :
    readGroup types ⟨location, pairs, before⟩ readings =
      ((readings.map (callOf types)).all fun c => (c.value location pairs).isSome,
        (ParamCall.run ⟨location, pairs, before⟩ (readings.map (callOf types))).2) := by
  induction readings generalizing before with
  | nil => rfl
  | cons reading readings ih =>
    have hcall := ((callOf types reading).yields location pairs).step_eq before
    rw [readGroup, List.map_cons, ParamCall.run, hcall]
    dsimp only
    rw [ih, isBound_eq, List.all_cons]

/-! ### Aggregation -/

/-- What a sequence of calls does on a group. -/
structure Aggregates (location : ParamLocation) (pairs : List WirePair)
    (calls : List ParamCall) : Prop where
  /-- The faults behind the sequence are those of its calls, in order. -/
  faults : (ParamCall.run (.ofPairs location pairs) calls).2.faults =
    calls.flatMap (ParamCall.faults location pairs)
  results : (ParamCall.run (.ofPairs location pairs) calls).1 =
    calls.map fun c => ⟨c, c.value location pairs⟩
  /-- A call at any place of the sequence does what it does as the first on a fresh reader. -/
  inPlace : ∀ before c after, calls = before ++ c :: after →
    c.on (ParamCall.run (.ofPairs location pairs) before).2 =
      (c.value location pairs, ⟨location, pairs,
        (ParamCall.run (.ofPairs location pairs) before).2.faults ++ c.faults location pairs⟩)
  none_iff : ∀ c ∈ calls, c.value location pairs = none ↔ c.faults location pairs ≠ []
  incomplete_iff : (∃ x ∈ (ParamCall.run (.ofPairs location pairs) calls).1, x.2 = none) ↔
    (ParamCall.run (.ofPairs location pairs) calls).2.faults ≠ []
  /-- Another order of the calls only reorders the results and the faults. -/
  reordered : ∀ calls', calls.Perm calls' →
    (ParamCall.run (.ofPairs location pairs) calls).1.Perm
        (ParamCall.run (.ofPairs location pairs) calls').1 ∧
      (ParamCall.run (.ofPairs location pairs) calls).2.faults.Perm
        (ParamCall.run (.ofPairs location pairs) calls').2.faults

lemma aggregates (location : ParamLocation) (pairs : List WirePair) (calls : List ParamCall) :
    Aggregates location pairs calls := by
  have hrun : ∀ calls, ParamCall.run (.ofPairs location pairs) calls =
      (calls.map fun c => ⟨c, c.value location pairs⟩,
        ⟨location, pairs, calls.flatMap (ParamCall.faults location pairs)⟩) :=
    run_eq location pairs []
  refine ⟨?_, ?_, fun before c after _ => ?_, fun c _ => ?_, ?_, fun calls' hperm => ?_⟩
  · rw [hrun]
  · rw [hrun]
  · rw [hrun, (c.yields location pairs).step_eq]
  · exact (c.yields location pairs).none_iff
  · rw [hrun, ← exists_none_iff]
    simp only [List.mem_map, exists_exists_and_eq_and]
  · rw [hrun, hrun]
    exact ⟨hperm.map _, hperm.flatMap_right _⟩

/-- Readers aggregate failures exactly, in any sequence of calls; and a group of parameters stops if
and only if there are faults to report. -/
theorem reader_aggregates (location : ParamLocation) (pairs : List WirePair) :
    (∀ calls, Aggregates location pairs calls) ∧
      ∀ types readings,
        (readGroup types (.ofPairs location pairs) readings).2 =
            (ParamCall.run (.ofPairs location pairs) (readings.map (callOf types))).2 ∧
          ((readGroup types (.ofPairs location pairs) readings).1 = false ↔
            (readGroup types (.ofPairs location pairs) readings).2.faults ≠ []) := by
  refine ⟨aggregates location pairs, fun types readings => ?_⟩
  have hgroup : readGroup types (.ofPairs location pairs) readings = _ :=
    readGroup_eq types location pairs [] readings
  refine ⟨congrArg Prod.snd hgroup, ?_⟩
  have hfaults := (aggregates location pairs (readings.map (callOf types))).faults
  rw [hgroup]
  dsimp only
  change _ ↔ (ParamCall.run (.ofPairs location pairs) (readings.map (callOf types))).2.faults ≠ []
  rw [hfaults, ← exists_none_iff, List.all_eq_false]
  simp only [Bool.not_eq_true, Option.isSome_eq_false_iff, Option.isNone_iff_eq_none]

end ApiCodegen.Proofs
