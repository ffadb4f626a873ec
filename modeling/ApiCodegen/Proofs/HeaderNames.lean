import ApiCodegen.Proofs.CasedNames
import ApiCodegen.Proofs.Emission
import ApiCodegen.Proofs.ParamRoundTrip
import ApiCodegen.Proofs.Signatures

/-!
# Header names that differ in their capitals

The parser of a request takes header names in any case, while a description is refused only if two
names become one identifier. Of two names that are the same but for their case the policy keeps
where words start, and a capital starts one behind a small letter: `humps` are these places.
Hence names with the same humps never stand for one header in an operation that is accepted, while
names with other humps may, and then both read the values of either.
-/

namespace ApiCodegen.Proofs
open Naming ParamReader

/-! ### Humps -/

/-- Which of the characters are small letters before a capital. -/
def humps : List Char → List Bool
  | [] => []
  | c :: cs => (c.isLower && cs.head?.any Char.isUpper) :: humps cs

section Humps

variable {cs ds : List Char} {c d : Char}

lemma isLower_clean (c : Char) : (clean c).isLower = c.isLower := by
  unfold clean
  split
  · rfl
  · rename_i h
    have hlower : c.isLower = false := by
      rw [Bool.eq_false_iff]
      intro hlower
      exact h (isAlphanum_iff.2 (Or.inl (isAlpha_of_isLower hlower)))
    rw [hlower]
    rfl

lemma isUpper_clean (c : Char) : (clean c).isUpper = c.isUpper := by
  unfold clean
  split
  · rfl
  · rename_i h
    have hupper : c.isUpper = false := by
      rw [Bool.eq_false_iff]
      intro hupper
      exact h (isAlphanum_iff.2 (Or.inl (isAlpha_of_isUpper hupper)))
    rw [hupper]
    rfl

lemma humps_clean (cs : List Char) : humps (cs.map clean) = humps cs := by
  induction cs with
  | nil => rfl
  | cons c cs ih =>
    have hhead : (cs.map clean).head?.any Char.isUpper = cs.head?.any Char.isUpper := by
      cases cs with
      | nil => rfl
      | cons d cs => exact isUpper_clean d
    rw [List.map_cons, humps, humps, ih, hhead, isLower_clean]

/-- The first piece starts with the first character, unless that is a separator. -/
lemma head_piece {piece : List Char} {rest : List (List Char)} (h : pieces cs = piece :: rest) :
    piece.head? = if cs.head? = some '_' then none else cs.head? := by
  cases cs with
  | nil =>
    cases h
    rfl
  | cons c cs =>
    rw [pieces] at h
    cases hpieces : pieces cs with
    | nil => exact absurd hpieces (pieces_ne_nil cs)
    | cons next later =>
      rw [hpieces] at h
      dsimp only at h
      by_cases hc : c = '_'
      · rw [if_pos hc] at h
        cases h
        rw [List.head?_cons, hc, if_pos rfl]
        rfl
      · rw [if_neg hc] at h
        rw [List.head?_cons, if_neg (by simpa using hc)]
        split at h
        · cases h
          rfl
        · cases h
          rfl

lemma any_head_piece {piece : List Char} {rest : List (List Char)} (h : pieces cs = piece :: rest) :
    piece.head?.any Char.isUpper = cs.head?.any Char.isUpper := by
  rw [head_piece h]
  split
  · rename_i hseparator
    rw [hseparator]
    rfl
  · rfl

lemma toLower_eq_underscore : c.toLower = '_' ↔ c = '_' := by
  constructor
  · intro h
    by_cases hupper : c.isUpper = true
    · have hlower := isLower_toLower c
      rw [h, isAlpha_of_isUpper hupper] at hlower
      exact absurd hlower (by decide)
    · rwa [toLower_eq_self hupper] at h
  · rintro rfl
    rfl

lemma piece_eq_nil_iff {piece piece' : List Char} {rest rest' : List (List Char)}
    (h : cs.map Char.toLower = ds.map Char.toLower) (hcs : pieces cs = piece :: rest)
    (hds : pieces ds = piece' :: rest') : piece = [] ↔ piece' = [] := by
  rw [← List.head?_eq_none_iff, ← List.head?_eq_none_iff, head_piece hcs, head_piece hds]
  cases cs with
  | nil => rw [List.map_eq_nil_iff.1 h.symm]
  | cons c cs =>
    cases ds with
    | nil => cases h
    | cons d ds =>
      have hcd : c = '_' ↔ d = '_' := by
        rw [← toLower_eq_underscore, (List.cons.inj h).1, toLower_eq_underscore]
      simp [hcd]

lemma piece_ne_nil {piece : List Char} {rest : List (List Char)} (h : pieces cs = piece :: rest)
    (hhump : (c.isLower && cs.head?.any Char.isUpper) = true) : piece ≠ [] := by
  rintro rfl
  rw [← any_head_piece h, Bool.and_eq_true] at hhump
  exact Bool.false_ne_true hhump.2

/-- The pieces that are words, in lower case. -/
def lowered (ls : List (List Char)) : List (List Char) :=
  (ls.filter (!·.isEmpty)).map (·.map Char.toLower)

lemma lowered_nil_cons (ls : List (List Char)) : lowered ([] :: ls) = lowered ls := rfl

lemma lowered_cons_cons (c : Char) (word : List Char) (ls : List (List Char)) :
    lowered ((c :: word) :: ls) = (c.toLower :: word.map Char.toLower) :: lowered ls := rfl

lemma lowered_cons_eq_iff {piece piece' : List Char} {rest rest' : List (List Char)}
    (h : piece = [] ↔ piece' = []) : lowered (piece :: rest) = lowered (piece' :: rest') ↔
      piece.map Char.toLower = piece'.map Char.toLower ∧ lowered rest = lowered rest' := by
  cases piece with
  | nil =>
    rw [h.1 rfl, lowered_nil_cons, lowered_nil_cons]
    exact (and_iff_right rfl).symm
  | cons c word =>
    cases piece' with
    | nil => cases h.2 rfl
    | cons d word' =>
      rw [lowered_cons_cons, lowered_cons_cons, List.cons.injEq]
      rfl

/-- A separator cuts off nothing, a hump one character, and any other character belongs to the word
that goes on behind it. -/
lemma lowered_pieces_cons {piece : List Char} {rest : List (List Char)}
    (h : pieces cs = piece :: rest) (c : Char) : lowered (pieces (c :: cs)) =
      if c = '_' then lowered (piece :: rest)
      else if c.isLower && cs.head?.any Char.isUpper then [c.toLower] :: lowered (piece :: rest)
      else (c.toLower :: piece.map Char.toLower) :: lowered rest := by
  rw [pieces, h, ← any_head_piece h]
  dsimp only
  by_cases hc : c = '_'
  · rw [if_pos hc, if_pos hc, lowered_nil_cons]
  · rw [if_neg hc, if_neg hc]
    split
    · rfl
    · rfl

/-- Of two texts that are the same but for their case, the words are so too exactly if the humps
are at the same places. -/
lemma lowered_pieces_eq_iff (h : cs.map Char.toLower = ds.map Char.toLower) :
    lowered (pieces cs) = lowered (pieces ds) ↔ humps cs = humps ds := by
  induction cs generalizing ds with
  | nil =>
    rw [List.map_eq_nil_iff.1 h.symm]
    exact iff_of_true rfl rfl
  | cons c cs ih =>
    obtain ⟨d, ds, rfl⟩ : ∃ d es, ds = d :: es := by
      cases ds with
      | nil => cases h
      | cons d ds => exact ⟨d, ds, rfl⟩
    obtain ⟨hcd, hrest⟩ := List.cons.inj h
    obtain ⟨piece, rest, hcs⟩ := List.exists_cons_of_ne_nil (pieces_ne_nil cs)
    obtain ⟨piece', rest', hds⟩ := List.exists_cons_of_ne_nil (pieces_ne_nil ds)
    have hnil := piece_eq_nil_iff hrest hcs hds
    have hwords := ih hrest
    rw [hcs, hds] at hwords
    rw [lowered_pieces_cons hcs, lowered_pieces_cons hds, humps, humps, ← hcd]
    by_cases hc : c = '_'
    · have hd : d = '_' := by rwa [← toLower_eq_underscore, ← hcd, toLower_eq_underscore]
      rw [if_pos hc, if_pos hd, hwords, hc, hd]
      exact (List.cons_inj_right _).symm
    have hd : ¬d = '_' := by rwa [← toLower_eq_underscore, ← hcd, toLower_eq_underscore]
    rw [if_neg hc, if_neg hd]
    by_cases hhump : (c.isLower && cs.head?.any Char.isUpper) = true
    · rw [if_pos hhump, hhump]
      by_cases hhump' : (d.isLower && ds.head?.any Char.isUpper) = true
      · rw [if_pos hhump', hhump', List.cons_inj_right, List.cons_inj_right, hwords]
      · rw [if_neg hhump', Bool.eq_false_iff.2 hhump']
        refine iff_of_false (fun heq => ?_) (by simp)
        have hshort := (List.cons.inj (List.cons.inj heq).1).2
        exact piece_ne_nil hcs hhump (hnil.2 (List.map_eq_nil_iff.1 hshort.symm))
    · rw [if_neg hhump, Bool.eq_false_iff.2 hhump]
      by_cases hhump' : (d.isLower && ds.head?.any Char.isUpper) = true
      · rw [if_pos hhump', hhump']
        refine iff_of_false (fun heq => ?_) (by simp)
        have hshort := (List.cons.inj (List.cons.inj heq).1).2
        exact piece_ne_nil hds hhump' (hnil.1 (List.map_eq_nil_iff.1 hshort))
      · rw [if_neg hhump', Bool.eq_false_iff.2 hhump', List.cons_inj_right, ← hwords,
          lowered_cons_eq_iff hnil, List.cons.injEq, List.cons_inj_right]

lemma eq_of_lowered_pieces (h : cs.map Char.toLower = ds.map Char.toLower)
    (hnone : lowered (pieces cs) = []) : cs = ds := by
  have hpieces : ∀ piece ∈ pieces cs, piece = [] := by
    intro piece hpiece
    have hshort := List.filter_eq_nil_iff.1 (List.map_eq_nil_iff.1 hnone) piece hpiece
    simpa using hshort
  have hall : ∀ c ∈ cs, c = '_' := by
    have hflat : cs.filter (· ≠ '_') = [] := by
      rw [← flatten_pieces, List.flatten_eq_nil_iff]
      exact hpieces
    intro c hc
    have hseparator := List.filter_eq_nil_iff.1 hflat c hc
    simpa using hseparator
  have hall' : ∀ d ∈ ds, d = '_' := by
    intro d hd
    have hmem : d.toLower ∈ cs.map Char.toLower := by
      rw [h]
      exact List.mem_map_of_mem hd
    obtain ⟨c, hc, hcd⟩ := List.mem_map.1 hmem
    rw [hall c hc] at hcd
    exact toLower_eq_underscore.1 hcd.symm
  rw [List.eq_replicate_of_mem hall, List.eq_replicate_of_mem hall']
  have hlength := congrArg List.length h
  rw [List.length_map, List.length_map] at hlength
  rw [hlength]

lemma toLower_clean (c : Char) : (clean c).toLower = clean c.toLower := by
  unfold clean
  by_cases h : c.isAlphanum = true
  · have hlower : c.toLower.isAlphanum = true :=
      isAlphanum_iff.2 ((isLower_or_isDigit h).imp_left isAlpha_of_isLower)
    rw [if_pos h, if_pos hlower]
  · have hupper : ¬c.isUpper = true := by
      intro hupper
      exact h (isAlphanum_iff.2 (Or.inl (isAlpha_of_isUpper hupper)))
    rw [if_neg h, toLower_eq_self hupper, if_neg h]
    rfl

end Humps

/-! ### Names -/

section Names

variable {a b : String}

lemma map_toLower_clean (h : Text.asciiLower a = Text.asciiLower b) :
    (a.toList.map clean).map Char.toLower = (b.toList.map clean).map Char.toLower := by
  have hlower : a.toList.map Char.toLower = b.toList.map Char.toLower := by
    rw [← String.toList_ofList (l := a.toList.map Char.toLower),
      ← String.toList_ofList (l := b.toList.map Char.toLower)]
    exact congrArg String.toList h
  have hclean : ∀ cs : List Char,
      (cs.map clean).map Char.toLower = (cs.map Char.toLower).map clean := by
    intro cs
    rw [List.map_map, List.map_map]
    exact List.map_congr_left fun c _ => toLower_clean c
  rw [hclean, hclean, hlower]

/-- Names that are the same but for their case become one value exactly if their humps agree. -/
theorem snakeName_eq_iff_humps (h : Text.asciiLower a = Text.asciiLower b) :
    snakeName a = snakeName b ↔ humps a.toList = humps b.toList := by
  have hlower := map_toLower_clean h
  rw [snakeName_eq_iff, ← humps_clean, ← humps_clean b.toList, ← lowered_pieces_eq_iff hlower]
  change snakeKey a = snakeKey b ↔ lowerWords a = lowerWords b
  unfold snakeKey
  by_cases ha : lowerWords a = []
  · have hsame : lowerWords a = lowerWords b :=
      congrArg (fun cs => lowered (pieces cs)) (eq_of_lowered_pieces hlower ha)
    rw [hsame]
    exact iff_of_true rfl rfl
  · have hb : lowerWords b ≠ [] := by
      intro hb
      exact ha ((congrArg (fun cs => lowered (pieces cs))
        (eq_of_lowered_pieces hlower.symm hb)).symm.trans hb)
    rw [if_neg (by simpa using ha), if_neg (by simpa using hb)]

/-- No header stands for both names. -/
def NoSharedHeader (a b : String) : Prop :=
  ∀ key, ¬(keyMatches .header key a = true ∧ keyMatches .header key b = true)

/-- Two names for one header, whose words differ by a capital behind a small letter. -/
structure SharedHeader (a b : String) : Prop where
  sameName : Text.asciiLower a = Text.asciiLower b
  otherHumps : humps a.toList ≠ humps b.toList
  values : ∀ pairs, (ofPairs .header pairs).values a = (ofPairs .header pairs).values b

lemma keyMatches_header_iff {key name : String} :
    keyMatches .header key name = true ↔ Text.asciiLower key = Text.asciiLower name := beq_iff_eq

lemma noSharedHeader_iff : NoSharedHeader a b ↔ Text.asciiLower a ≠ Text.asciiLower b := by
  constructor
  · intro h hsame
    exact h a ⟨keyMatches_self, keyMatches_header_iff.2 hsame⟩
  · rintro h key ⟨ha, hb⟩
    exact h ((keyMatches_header_iff.1 ha).symm.trans (keyMatches_header_iff.1 hb))

lemma values_eq_of_sameName (h : Text.asciiLower a = Text.asciiLower b) (pairs : List WirePair) :
    (ofPairs .header pairs).values a = (ofPairs .header pairs).values b := by
  have hkey : ∀ key, keyMatches .header key a = keyMatches .header key b := by
    intro key
    rw [keyMatches_comm, keyMatches_congr (keyMatches_header_iff.2 h), keyMatches_comm]
  unfold values
  exact congrArg (List.map Prod.snd) (List.filter_congr fun pair _ => hkey pair.1)

lemma length_humps (cs : List Char) : (humps cs).length = cs.length := by
  induction cs with
  | nil => rfl
  | cons c cs ih => rw [humps, List.length_cons, List.length_cons, ih]

lemma SharedHeader.has_hump (h : SharedHeader a b) :
    true ∈ humps a.toList ∨ true ∈ humps b.toList := by
  by_contra hplain
  obtain ⟨ha, hb⟩ := not_or.1 hplain
  have hfalse : ∀ {name : String}, true ∉ humps name.toList → ∀ x ∈ humps name.toList, x = false :=
    fun hname x hx => Bool.eq_false_iff.2 fun htrue => hname (htrue ▸ hx)
  have hlength : (humps a.toList).length = (humps b.toList).length := by
    have hchars := congrArg List.length (map_toLower_clean h.sameName)
    simp only [List.length_map] at hchars
    rw [length_humps, length_humps, hchars]
  apply h.otherHumps
  rw [List.eq_replicate_of_mem (hfalse ha), List.eq_replicate_of_mem (hfalse hb), hlength]

lemma noSharedHeader_or_sharedHeader (h : snakeName a ≠ snakeName b) :
    NoSharedHeader a b ∨ SharedHeader a b := by
  by_cases hsame : Text.asciiLower a = Text.asciiLower b
  · exact Or.inr ⟨hsame, fun hhumps => h ((snakeName_eq_iff_humps hsame).2 hhumps),
      values_eq_of_sameName hsame⟩
  · exact Or.inl (noSharedHeader_iff.2 hsame)

end Names

/-! ### Operations -/

lemma names_of_mapM {s : Scope} {naming : Naming} {here : Location} {location : ParamLocation}
    {ps : List Param} {codecs : List ParamCodec}
    (h : ps.mapM (ParamCodec.ofParam s naming here location) = .ok codecs) :
    (codecs.map fun c => (c.reading naming).name) = ps.map (·.name) := by
  refine map_of_mapM h fun p _ c hcodec => ?_
  obtain ⟨shape, type, -, -, rfl⟩ := ofParam_eq_ok_iff.1 hcodec
  rfl

/-- The names under which the service of an accepted operation looks for its header parameters are
those of the description. Two of them never stand for one header, unless they differ by their humps
and by nothing else than case, and then both parameters get the values of either; in particular no
two names without humps do. -/
theorem validated_header_names (spec : Spec) (h : spec.validate .standard = .ok ()) {v : Version}
    (hv : v ∈ spec.versions) {a : Api} (ha : a ∈ v.apis) {o : Operation} (ho : o ∈ a.operations)
    (here : Location) :
    ∃ sig, Signature.ofOperation (.ofVersion v spec.httpErrors) .standard here o = .ok sig ∧
      (sig.header.map fun c => (c.reading .standard).name) = o.headerParams.map (·.name) ∧
      (o.headerParams.map (·.name)).Pairwise (fun a b =>
        (NoSharedHeader a b ↔ Text.asciiLower a ≠ Text.asciiLower b) ∧
          (NoSharedHeader a b ∨ SharedHeader a b)) ∧
      ((∀ p ∈ o.headerParams, true ∉ humps p.name.toList) →
        (o.headerParams.map (·.name)).Pairwise NoSharedHeader) := by
  have hrules := (SpecRules.of_validate h).operations v hv a ha o ho
  obtain ⟨sig, hsig⟩ := succeeds_ofOperation hrules
  have hidents : (o.headerParams.map fun p => snakeName p.name).Nodup := by
    have hall := hrules.idents
    unfold functionParams at hall
    rw [List.map_append, List.map_append] at hall
    exact (hall.of_append_left).of_append_right
  have hpairs : (o.headerParams.map (·.name)).Pairwise fun a b =>
      NoSharedHeader a b ∨ SharedHeader a b := by
    rw [List.pairwise_map]
    exact (List.pairwise_map.1 hidents).imp noSharedHeader_or_sharedHeader
  refine ⟨sig, hsig, names_of_mapM (ofOperation_eq_ok_iff.1 hsig).header,
    hpairs.imp fun hab => ⟨noSharedHeader_iff, hab⟩, fun hplain => ?_⟩
  refine hpairs.imp_of_mem fun {a b} ha hb hab => ?_
  have hnone : ∀ name ∈ o.headerParams.map (·.name), true ∉ humps name.toList :=
    List.forall_mem_map.2 hplain
  rcases hab with hapart | hshared
  · exact hapart
  · exact absurd hshared.has_hump (not_or.2 ⟨hnone a ha, hnone b hb⟩)

/-- An operation with two headers whose names differ by a hump only. -/
def tracedOrder : Operation where
  name := "get_order"
  endpoint := ⟨.get, "/orders", []⟩
  headerParams := [.ofType "traceId" (.named "string"), .ofType "traceid" (.named "string"),
    .ofType "Span-Id" (.named "string")]
  queryParams := []
  body := .empty
  responses := [⟨"ok", .empty, none⟩]
  description := none

def tracedVersion : Version := ⟨"v1", none, [⟨"orders", [tracedOrder]⟩], []⟩

def traced : Spec := ⟨"shop", [tracedVersion], .empty⟩

theorem validated_header_names_traced :
    traced.validate .standard = .ok () ∧
      ∃ sig, Signature.ofOperation (.ofVersion tracedVersion .empty) .standard .root tracedOrder =
          .ok sig ∧
        (sig.header.map fun c => (c.reading .standard).name) = ["traceId", "traceid", "Span-Id"] ∧
        SharedHeader "traceId" "traceid" ∧ NoSharedHeader "traceId" "Span-Id" ∧
        NoSharedHeader "traceid" "Span-Id" := by
  have hvalid : traced.validate .standard = .ok () := by decide +kernel
  obtain ⟨sig, hsig, hnames, hpairs, -⟩ := validated_header_names traced hvalid
    (v := tracedVersion) List.mem_cons_self (a := ⟨"orders", [tracedOrder]⟩) List.mem_cons_self
    (o := tracedOrder) List.mem_cons_self .root
  refine ⟨hvalid, sig, hsig, hnames, ?_⟩
  simp only [tracedOrder, List.map_cons, List.map_nil, Param.ofType, List.pairwise_cons,
    List.forall_mem_cons] at hpairs
  obtain ⟨⟨⟨hsame, hshared⟩, ⟨hspan, -⟩, -⟩, ⟨⟨hspan', -⟩, -⟩, -⟩ := hpairs
  refine ⟨hshared.resolve_left fun hnone => hsame.1 hnone (by decide), hspan.2 (by decide),
    hspan'.2 (by decide)⟩

/-- Two header parameters of an accepted operation get the value of one header. -/
theorem traced_read_one_header :
    traced.validate .standard = .ok () ∧
      (tracedOrder.headerParams.map (·.name)).take 2 = ["traceId", "traceid"] ∧
      keyMatches .header "traceid" "traceId" = true ∧
      keyMatches .header "traceid" "traceid" = true ∧
      (ofPairs .header [("traceid", "7")]).values "traceId" = ["7"] ∧
      (ofPairs .header [("traceid", "7")]).values "traceid" = ["7"] := by
  have hvalid : traced.validate .standard = .ok () := by decide +kernel
  exact ⟨hvalid, by decide, by decide, by decide, by decide, by decide⟩

end ApiCodegen.Proofs
