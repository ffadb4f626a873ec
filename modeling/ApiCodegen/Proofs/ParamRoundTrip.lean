import ApiCodegen.Proofs.ParamReading

/-!
# Groups that read back

The entries of a group share one flat list of pairs: a required value is one pair, an optional value
at most one, an array one for each element. What a reader finds under a name are the texts of the
entry with that name, and of no other entry, since keys differ; pairs with other names in between
and header names in another case make no difference. Hence every accessor gives the value that was
written, in any order of the calls.
-/

namespace ApiCodegen.Proofs
open ParamReader

/-! ### Keys -/

section Keys

variable {location : ParamLocation} {a b c : String}

lemma keyMatches_self : keyMatches location a a = true := by
  cases location with
  | header => exact beq_self_eq_true _
  | url => exact beq_self_eq_true _
  | query => exact beq_self_eq_true _
  | form => exact beq_self_eq_true _

lemma keyMatches_comm : keyMatches location a b = keyMatches location b a := by
  cases location with
  | header => exact BEq.comm
  | url => exact BEq.comm
  | query => exact BEq.comm
  | form => exact BEq.comm

/-- Keys that match stand for the same names. -/
lemma keyMatches_congr (h : keyMatches location a b = true) :
    keyMatches location a c = keyMatches location b c := by
  cases location with
  | header =>
    have heq : Text.asciiLower a = Text.asciiLower b := beq_iff_eq.1 h
    change (Text.asciiLower a == Text.asciiLower c) = (Text.asciiLower b == Text.asciiLower c)
    rw [heq]
  | url => rw [beq_iff_eq.1 h]
  | query => rw [beq_iff_eq.1 h]
  | form => rw [beq_iff_eq.1 h]

end Keys

/-! ### Entries -/

/-- The accessor that a shape is read with. -/
def accessorOf : ParamShape → Accessor
  | .required => .required
  | .optional => .optional
  | .array => .array

/-- The elements of a value, in the order in which they are written. -/
def elementsOf {α : Type} : (shape : ParamShape) → (accessorOf shape).Value α → List α
  | .required, a => [a]
  | .optional, o => Option.toList o
  | .array, as => as

def writeValue {α : Type} (display : α → String) (w : ParamWriter) (name : String) :
    (shape : ParamShape) → (accessorOf shape).Value α → ParamWriter
  | .required, a => w.add name (display a)
  | .optional, o => w.addOptional name (Option.map display o)
  | .array, as => w.addArray name (List.map display as)

/-- A parameter with the value that is written for it. -/
structure ParamEntry where
  Element : Type
  parse : String → Option Element
  display : Element → String
  /-- The texts that an accessor for enums is given. -/
  allowed : Option (List String)
  name : String
  shape : ParamShape
  value : (accessorOf shape).Value Element

namespace ParamEntry

def elements (e : ParamEntry) : List e.Element := elementsOf e.shape e.value

def texts (e : ParamEntry) : List String := e.elements.map e.display

def write (w : ParamWriter) (e : ParamEntry) : ParamWriter :=
  writeValue e.display w e.name e.shape e.value

def call (e : ParamEntry) : ParamCall := ⟨e.Element, e.parse, e.allowed, e.name, accessorOf e.shape⟩

/-- Every element reads back from its text, which is allowed if there are allowed texts. -/
def ReadsBack (e : ParamEntry) : Prop :=
  ∀ a ∈ e.elements, e.parse (e.display a) = some a ∧
    ∀ texts, e.allowed = some texts → e.display a ∈ texts

end ParamEntry

/-- The pairs of a group that is written into one writer. -/
def written (entries : List ParamEntry) : List WirePair :=
  (entries.foldl ParamEntry.write .empty).pairs

/-- What may happen to the pairs of some names on the way: pairs with other names come in between,
and a key is replaced by one that matches it, which is another key for headers only. -/
inductive Carried (location : ParamLocation) (names : List String) :
    List WirePair → List WirePair → Prop
  | nil : Carried location names [] []
  | kept {key key' text : String} {ps qs : List WirePair} (h : keyMatches location key' key = true)
      (rest : Carried location names ps qs) :
      Carried location names ((key, text) :: ps) ((key', text) :: qs)
  | between {key text : String} {ps qs : List WirePair}
      (h : ∀ n ∈ names, keyMatches location key n = false) (rest : Carried location names ps qs) :
      Carried location names ps ((key, text) :: qs)

/-! ### Texts under a name -/

section Values

variable {location : ParamLocation} {name : String}

lemma values_cons (key text : String) (pairs : List WirePair) :
    (ParamReader.ofPairs location ((key, text) :: pairs)).values name =
      if keyMatches location key name then text :: (ParamReader.ofPairs location pairs).values name
      else (ParamReader.ofPairs location pairs).values name := by
  unfold ParamReader.values ParamReader.ofPairs
  dsimp only
  by_cases h : keyMatches location key name = true
  · rw [List.filter_cons_of_pos (by exact h), if_pos h, List.map_cons]
  · rw [List.filter_cons_of_neg (by exact h), if_neg h]

lemma values_eq_nil {pairs : List WirePair}
    (h : ∀ pair ∈ pairs, keyMatches location pair.1 name = false) :
    (ParamReader.ofPairs location pairs).values name = [] := by
  unfold ParamReader.values ParamReader.ofPairs
  rw [List.map_eq_nil_iff, List.filter_eq_nil_iff]
  intro pair hpair
  exact ne_true_of_eq_false (h pair hpair)

lemma values_append (ps qs : List WirePair) :
    (ParamReader.ofPairs location (ps ++ qs)).values name =
      (ParamReader.ofPairs location ps).values name ++
        (ParamReader.ofPairs location qs).values name := by
  unfold ParamReader.values ParamReader.ofPairs
  rw [List.filter_append, List.map_append]

lemma values_of_key {key : String} (texts : List String) :
    (ParamReader.ofPairs location (texts.map (key, ·))).values name =
      if keyMatches location key name then texts else [] := by
  induction texts with
  | nil =>
    rw [ite_self]
    rfl
  | cons text texts ih =>
    rw [List.map_cons, values_cons, ih]
    by_cases h : keyMatches location key name = true
    · rw [if_pos h, if_pos h, if_pos h]
    · rw [if_neg h, if_neg h, if_neg h]

lemma pairs_addArray (w : ParamWriter) (texts : List String) :
    (w.addArray name texts).pairs = w.pairs ++ texts.map (name, ·) := by
  induction texts generalizing w with
  | nil => exact (List.append_nil _).symm
  | cons text texts ih =>
    have hstep : w.addArray name (text :: texts) = (w.add name text).addArray name texts := rfl
    rw [hstep, ih, List.map_cons]
    change (w.pairs ++ [(name, text)]) ++ _ = _
    rw [List.append_assoc, List.singleton_append]

/-- A value is written as one pair for each of its elements. -/
lemma pairs_writeValue {α : Type} (display : α → String) (w : ParamWriter) (shape : ParamShape)
    (value : (accessorOf shape).Value α) :
    (writeValue display w name shape value).pairs =
      w.pairs ++ ((elementsOf shape value).map display).map (name, ·) := by
  cases shape with
  | required => rfl
  | optional =>
    change Option α at value
    cases value with
    | none => exact (List.append_nil _).symm
    | some a => rfl
  | array => exact pairs_addArray w _

lemma pairs_foldl_write (w : ParamWriter) (entries : List ParamEntry) :
    (entries.foldl ParamEntry.write w).pairs =
      w.pairs ++ entries.flatMap fun e => e.texts.map (e.name, ·) := by
  induction entries generalizing w with
  | nil => exact (List.append_nil _).symm
  | cons e entries ih =>
    have hentry : (e.write w).pairs = w.pairs ++ e.texts.map (e.name, ·) :=
      pairs_writeValue e.display w e.shape e.value
    rw [List.foldl_cons, ih, hentry, List.flatMap_cons, List.append_assoc]

lemma written_eq (entries : List ParamEntry) :
    written entries = entries.flatMap fun e => e.texts.map (e.name, ·) :=
  pairs_foldl_write .empty entries

/-- Under the name of an entry are its texts, and those of no other entry. -/
lemma values_written {entries : List ParamEntry}
    (h : entries.Pairwise fun a b => keyMatches location a.name b.name = false) {e : ParamEntry}
    (he : e ∈ entries) :
    (ParamReader.ofPairs location (written entries)).values e.name = e.texts := by
  rw [written_eq]
  induction entries with
  | nil => exact absurd he List.not_mem_nil
  | cons x xs ih =>
    obtain ⟨hx, hxs⟩ := List.pairwise_cons.1 h
    rw [List.flatMap_cons, values_append, values_of_key]
    rcases List.mem_cons.1 he with rfl | hmem
    · have hothers : (ParamReader.ofPairs location
          (xs.flatMap fun b => b.texts.map (b.name, ·))).values e.name = [] := by
        refine values_eq_nil fun pair hpair => ?_
        obtain ⟨b, hb, htext⟩ := List.mem_flatMap.1 hpair
        obtain ⟨text, -, rfl⟩ := List.mem_map.1 htext
        rw [keyMatches_comm, hx b hb]
      rw [if_pos keyMatches_self, hothers, List.append_nil]
    · rw [hx e hmem, ih hxs hmem]
      rfl

/-- What happens on the way leaves the texts under the names as they are. -/
lemma values_carried {names : List String} {ps qs : List WirePair}
    (h : Carried location names ps qs) (hname : name ∈ names) :
    (ParamReader.ofPairs location qs).values name =
      (ParamReader.ofPairs location ps).values name := by
  induction h with
  | nil => rfl
  | kept hkey _ ih => rw [values_cons, values_cons, ih, keyMatches_congr hkey]
  | between hkey _ ih =>
    rw [values_cons, hkey name hname, ih]
    rfl

end Values

/-! ### Elements from their texts -/

section Elements

variable {α : Type} {parse : String → Option α} {allowed : Option (List String)}

lemma decode_eq_some {raw : String} {a : α} (hparse : parse raw = some a)
    (hallowed : ∀ texts, allowed = some texts → raw ∈ texts) (r : ParamReader) (name : String) :
    r.decode parse allowed name raw = (some a, r) := by
  unfold ParamReader.decode ParamReader.check
  cases allowed with
  | none => rw [hparse]
  | some texts =>
    have hmem : texts.contains raw = true := List.contains_iff_mem.2 (hallowed texts rfl)
    rw [hparse]
    simp only [hmem, ite_true]

lemma decodeAll_eq_some {display : α → String} {as : List α}
    (h : ∀ a ∈ as, parse (display a) = some a ∧ ∀ texts, allowed = some texts → display a ∈ texts)
    (r : ParamReader) (name : String) :
    r.decodeAll parse allowed name (as.map display) = (some as, r) := by
  induction as with
  | nil => rfl
  | cons a as ih =>
    obtain ⟨⟨hparse, hallowed⟩, hrest⟩ := List.forall_mem_cons.1 h
    rw [List.map_cons, ParamReader.decodeAll, decode_eq_some hparse hallowed]
    dsimp only
    rw [ih hrest]
    rfl

/-- On a group that has the texts of a value under a name, the accessor of its shape gives the value
and the reader meets no fault. -/
lemma read_eq_some {display : α → String} {shape : ParamShape} {value : (accessorOf shape).Value α}
    (h : ∀ a ∈ elementsOf shape value,
      parse (display a) = some a ∧ ∀ texts, allowed = some texts → display a ∈ texts)
    {r : ParamReader} {name : String}
    (hvalues : r.values name = (elementsOf shape value).map display) :
    r.read parse allowed name (accessorOf shape) = (some value, r) := by
  cases shape with
  | required =>
    obtain ⟨hparse, hallowed⟩ := h value List.mem_cons_self
    change r.required parse allowed name = _
    unfold ParamReader.required ParamReader.first?
    rw [hvalues]
    exact decode_eq_some hparse hallowed r name
  | optional =>
    change Option α at value
    change r.optional parse allowed name = _
    unfold ParamReader.optional ParamReader.first?
    rw [hvalues]
    cases value with
    | none => rfl
    | some a =>
      obtain ⟨hparse, hallowed⟩ := h a List.mem_cons_self
      change (Option.map some (r.decode parse allowed name (display a)).1,
        (r.decode parse allowed name (display a)).2) = _
      rw [decode_eq_some hparse hallowed]
      rfl
  | array =>
    change r.array parse allowed name = _
    unfold ParamReader.array
    rw [hvalues]
    exact decodeAll_eq_some h r name

end Elements

/-! ### Groups -/

/-- A group that has been carried reads back: in any order of the calls, every call gives the value
of its entry, and the reader has met no fault. -/
theorem carried_group_readsBack {location : ParamLocation} {entries order : List ParamEntry}
    {pairs : List WirePair}
    (hnames : entries.Pairwise fun a b => keyMatches location a.name b.name = false)
    (hreads : ∀ e ∈ entries, e.ReadsBack)
    (hcarried : Carried location (entries.map (·.name)) (written entries) pairs)
    (horder : order ⊆ entries) :
    ParamCall.run (.ofPairs location pairs) (order.map ParamEntry.call) =
      (order.map fun e => ⟨e.call, some e.value⟩, .ofPairs location pairs) := by
  have hcall : ∀ e ∈ order,
      e.call.on (.ofPairs location pairs) = (some e.value, .ofPairs location pairs) := by
    intro e he
    have hmem : e ∈ entries := horder he
    have hvalues : (ParamReader.ofPairs location pairs).values e.name = e.texts := by
      rw [values_carried hcarried (List.mem_map_of_mem hmem), values_written hnames hmem]
    exact read_eq_some (hreads e hmem) hvalues
  have hrun := run_eq location pairs [] (order.map ParamEntry.call)
  have hvalues : (order.map ParamEntry.call).map
      (fun c => (⟨c, c.value location pairs⟩ : Σ c : ParamCall, c.Result)) =
      order.map fun e => ⟨e.call, some e.value⟩ := by
    rw [List.map_map]
    refine List.map_congr_left fun e he => ?_
    exact congrArg (Sigma.mk e.call) (congrArg Prod.fst (hcall e he))
  have hfaults : (order.map ParamEntry.call).flatMap (ParamCall.faults location pairs) = [] := by
    rw [List.flatMap_eq_nil_iff, List.forall_mem_map]
    intro e he
    exact congrArg (fun x => ParamReader.faults (Prod.snd x)) (hcall e he)
  rw [hvalues, hfaults] at hrun
  exact hrun

/-- An optional header. -/
def noteEntry : ParamEntry := ⟨String, some, id, none, "Note", .optional, some "a"⟩

/-- A repeated header with two allowed texts. -/
def flagsEntry : ParamEntry where
  Element := Bool
  parse := fun text => if text = "on" then some true else if text = "off" then some false else none
  display := fun a => if a then "on" else "off"
  allowed := some ["on", "off"]
  name := "X-Flag"
  shape := .array
  value := [true, false]

theorem carried_group_readsBack_headers :
    [noteEntry, flagsEntry].Pairwise (fun a b => keyMatches .header a.name b.name = false) ∧
      (∀ e ∈ [noteEntry, flagsEntry], e.ReadsBack) ∧
      Carried .header ["Note", "X-Flag"] (written [noteEntry, flagsEntry])
        [("note", "a"), ("Other", "1"), ("x-flag", "on"), ("X-FLAG", "off")] ∧
      ParamCall.run (.ofPairs .header
          [("note", "a"), ("Other", "1"), ("x-flag", "on"), ("X-FLAG", "off")])
          ([flagsEntry, noteEntry].map ParamEntry.call) =
        ([flagsEntry, noteEntry].map fun e => ⟨e.call, some e.value⟩, .ofPairs .header
          [("note", "a"), ("Other", "1"), ("x-flag", "on"), ("X-FLAG", "off")]) := by
  have hnames : [noteEntry, flagsEntry].Pairwise
      (fun a b => keyMatches .header a.name b.name = false) := by decide +kernel
  have hnote : noteEntry.ReadsBack := by
    intro a _
    exact ⟨rfl, fun texts h => absurd h (Option.some_ne_none texts).symm⟩
  have hflags : flagsEntry.ReadsBack := by
    intro a _
    refine ⟨?_, fun texts h => ?_⟩
    · cases a <;> rfl
    · cases h
      cases a <;> decide
  have hreads : ∀ e ∈ [noteEntry, flagsEntry], e.ReadsBack := by
    simp only [List.mem_cons, List.not_mem_nil, or_false, forall_eq_or_imp, forall_eq]
    exact ⟨hnote, hflags⟩
  have hcarried : Carried .header ["Note", "X-Flag"] (written [noteEntry, flagsEntry])
      [("note", "a"), ("Other", "1"), ("x-flag", "on"), ("X-FLAG", "off")] :=
    .kept (by decide +kernel) (.between (by decide +kernel)
      (.kept (by decide +kernel) (.kept (by decide +kernel) .nil)))
  refine ⟨hnames, hreads, hcarried, carried_group_readsBack hnames hreads hcarried ?_⟩
  exact List.cons_subset.2 ⟨List.mem_cons_of_mem _ List.mem_cons_self, by simp⟩

end ApiCodegen.Proofs
