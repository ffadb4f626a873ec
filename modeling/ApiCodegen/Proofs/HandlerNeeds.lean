import ApiCodegen.Proofs.Hygiene
import ApiCodegen.Proofs.Needs
import ApiCodegen.Proofs.SignatureTypes
import ApiCodegen.Tree.Service

/-!
# Needs of handlers

A routing file decides from the whole of its API what it imports. `needsOf` says of one operation
what its handler needs; the needs of an API are those of its operations joined, and an import under
a condition stands for joined needs exactly if it stands for one of them.
-/

namespace ApiCodegen.Proofs

/-! ### Imports under conditions -/

/-- The names that an import brings. -/
def namesOf : UsePath → List String
  | .external path => [lastSegment path]
  | .internal modules .module => modules.getLast?.toList
  | .internal _ (.name s) => [s]
  | .internal _ (.names ss) => ss
  | .internal _ .everything => []

/-- An import that some needs have and others do not. -/
def Conditional (u : UsePath) : Prop :=
  ∃ n n' : HandlerNeeds, u ∈ n.uses ∧ u ∉ n'.uses

/-- The imports that handlers have under a condition. -/
def conditionalUses : List UsePath :=
  [.internal ["params"] (.name "ParamsParser"),
    .internal ["errmodels"] (.names ["BadRequestError", "ErrorLocation"]),
    .internal ["convert"] .module, .internal ["content_type"] .module, .internal ["json"] .module,
    .internal ["form"] .module, .external "axum::extract::Path", .external "axum::extract::Query",
    .external "axum::extract::Multipart", .external "axum::extract::multipart::MultipartRejection",
    .external "axum::http::HeaderMap", .external "axum::body::Bytes"]

/-- The names that the imports under conditions bring. -/
def conditionalNames : List String :=
  ["ParamsParser", "BadRequestError", "ErrorLocation", "convert", "content_type", "json", "form",
    "Path", "Query", "Multipart", "MultipartRejection", "HeaderMap", "Bytes"]

/-- The imports that all handlers have. -/
def fixedUses : List UsePath :=
  [.internal ["errors"] .module, .internal ["respond"] (.names ["self", "LogFields"]),
    .external "axum::Router", .external "axum::extract::State",
    .external "axum::response::Response", .external "axum::routing::\x7bMethodFilter, on\x7d",
    .external "std::sync::Arc"]

section Conditions

variable {n n' : HandlerNeeds} {u w : UsePath} {root : String}

lemma mem_of_mem_uses (h : u ∈ n.uses) : u ∈ fixedUses ∨ u ∈ conditionalUses := by
  simp only [HandlerNeeds.uses, List.mem_append, mem_useIf_iff, List.mem_cons, List.not_mem_nil,
    or_false] at h
  simp only [fixedUses, conditionalUses, List.mem_cons, List.not_mem_nil, or_false]
  grind

lemma mem_uses_of_fixed (h : u ∈ fixedUses) : u ∈ n.uses := by
  simp only [fixedUses, List.mem_cons, List.not_mem_nil, or_false] at h
  simp only [HandlerNeeds.uses, List.mem_append, List.mem_cons, List.not_mem_nil, or_false]
  grind

lemma conditional_iff : Conditional u ↔ u ∈ conditionalUses := by
  constructor
  · rintro ⟨n, n', hu, hnot⟩
    exact (mem_of_mem_uses hu).resolve_left fun hfixed => hnot (mem_uses_of_fixed hfixed)
  · have hall : ∀ u ∈ conditionalUses,
        u ∈ (HandlerNeeds.mk true true true true true true true true true true).uses ∧
        u ∉ (HandlerNeeds.mk false false false false false false false false false false).uses := by
      decide +kernel
    exact fun hu => ⟨_, _, hall u hu⟩

lemma mem_conditionalNames_iff {name : String} :
    name ∈ conditionalNames ↔ ∃ u, Conditional u ∧ name ∈ namesOf u := by
  have hnames : conditionalNames = conditionalUses.flatMap namesOf := by decide +kernel
  rw [hnames, List.mem_flatMap]
  simp only [conditional_iff]

lemma namesOf_ne_nil (h : Conditional u) : namesOf u ≠ [] := by
  have hall : ∀ u ∈ conditionalUses, namesOf u ≠ [] := by decide +kernel
  exact hall u (conditional_iff.1 h)

/-- The needs that either of two handlers has. -/
def either (n n' : HandlerNeeds) : HandlerNeeds where
  url := n.url || n'.url
  query := n.query || n'.query
  header := n.header || n'.header
  form := n.form || n'.form
  multipart := n.multipart || n'.multipart
  urlEncoded := n.urlEncoded || n'.urlEncoded
  urlEncodedFields := n.urlEncodedFields || n'.urlEncodedFields
  text := n.text || n'.text
  json := n.json || n'.json
  headers := n.headers || n'.headers

/-- Imports that are those of two other lists. -/
def Joins (uses uses₁ uses₂ : List UsePath) : Prop :=
  ∀ u, u ∈ uses ↔ u ∈ uses₁ ∨ u ∈ uses₂

lemma Joins.append {uses uses₁ uses₂ more more₁ more₂ : List UsePath} (h : Joins uses uses₁ uses₂)
    (hmore : Joins more more₁ more₂) : Joins (uses ++ more) (uses₁ ++ more₁) (uses₂ ++ more₂) := by
  intro u
  rw [List.mem_append, List.mem_append, List.mem_append, h u, hmore u]
  exact or_or_or_comm

lemma Joins.self (uses : List UsePath) : Joins uses uses uses :=
  fun _ => (or_self_iff).symm

lemma Joins.useIf {c c₁ c₂ : Bool} (h : c = (c₁ || c₂)) :
    Joins (useIf c w) (useIf c₁ w) (useIf c₂ w) := by
  intro u
  simp only [mem_useIf_iff, h, Bool.or_eq_true, or_and_right]

/-- Joined needs have the imports of either. -/
lemma joins_uses : Joins (either n n').uses n.uses n'.uses := by
  unfold HandlerNeeds.uses
  repeat' apply Joins.append
  all_goals first
    | exact Joins.self _
    | exact Joins.useIf (by simp only [either, HandlerNeeds.anyBody] <;> ac_rfl)

/-- The last segment of the text of an import, whatever root it has. -/
def lastOf? : UsePath → Option String
  | .external path => some (lastSegment path)
  | .internal [m] .module => if ':' ∈ m.toList then none else some m
  | .internal [_] (.name s) => if ':' ∈ s.toList then none else some s
  | .internal [_] (.names ss) =>
    let last := "\x7b" ++ ", ".intercalate ss ++ "\x7d"
    if ':' ∈ last.toList then none else some last
  | .internal _ _ => none

lemma lastSegment_of_lastOf? {last : String} (h : lastOf? u = some last) :
    lastSegment (u.render root) = last := by
  unfold lastOf? at h
  split at h
  · exact Option.some.inj h
  · obtain ⟨hcolon, hlast⟩ := Option.ite_none_left_eq_some.1 h
    cases hlast
    exact lastSegment_module hcolon
  · obtain ⟨hcolon, hlast⟩ := Option.ite_none_left_eq_some.1 h
    cases hlast
    exact lastSegment_name hcolon
  · rename_i m ss
    obtain ⟨hcolon, hlast⟩ := Option.ite_none_left_eq_some.1 h
    cases hlast
    have htext : (UsePath.internal [m] (.names ss)).render root =
        root ++ "::" ++ m ++ "::" ++ ("\x7b" ++ ", ".intercalate ss ++ "\x7d") := by
      have hstart : "::\x7b" = "::" ++ "\x7b" := by decide
      change root ++ "::" ++ m ++ ("::\x7b" ++ ", ".intercalate ss ++ "\x7d") = _
      rw [hstart]
      simp only [String.append_assoc]
    exact lastSegment_render _ htext hcolon
  · cases h

/-- No two imports of handlers have texts that end alike. -/
lemma imported_uses_iff (hu : u ∈ conditionalUses) : Imported root n.uses u ↔ u ∈ n.uses := by
  have hlasts : ((fixedUses ++ conditionalUses).map lastOf?).Nodup := by decide +kernel
  have hsome : ∀ w ∈ fixedUses ++ conditionalUses, (lastOf? w).isSome = true := by decide +kernel
  refine ⟨fun h => ?_, imported_of_mem⟩
  obtain ⟨w, hw, htext⟩ := imported_iff.1 h
  have hmem : w ∈ fixedUses ++ conditionalUses := List.mem_append.2 (mem_of_mem_uses hw)
  have hmem' : u ∈ fixedUses ++ conditionalUses := List.mem_append_right _ hu
  obtain ⟨last, hlast⟩ := Option.isSome_iff_exists.1 (hsome w hmem)
  obtain ⟨last', hlast'⟩ := Option.isSome_iff_exists.1 (hsome u hmem')
  have hsegment : lastSegment (w.render root) = last := lastSegment_of_lastOf? hlast
  have hsegment' : lastSegment (u.render root) = last' := lastSegment_of_lastOf? hlast'
  have heq : lastOf? w = lastOf? u := by
    rw [hlast, hlast', ← hsegment, ← hsegment', htext]
  rw [← List.inj_on_of_nodup_map hlasts hmem hmem' heq]
  exact hw

end Conditions

/-! ### The needs of one operation -/

/-- The kind of a payload. -/
def kindOf : BodyShape → BodyKind
  | .none => .empty
  | .text => .rawString
  | .json _ => .json
  | .form _ _ true => .formData
  | .form _ _ false => .formUrlEncoded

/-- The parameters at a place. -/
def codecsAt (s : Signature) : ParamLocation → List ParamCodec
  | .url => s.url
  | .query => s.query
  | .header => s.header
  | .form => fieldsOf s.body

/-- What the handler of an operation needs. -/
def needsOf (s : Signature) : HandlerNeeds where
  url := !s.url.isEmpty
  query := !s.query.isEmpty
  header := !s.header.isEmpty
  form := !(fieldsOf s.body).isEmpty
  multipart := kindOf s.body == .formData
  urlEncoded := kindOf s.body == .formUrlEncoded
  urlEncodedFields := kindOf s.body == .formUrlEncoded && !(fieldsOf s.body).isEmpty
  text := kindOf s.body == .rawString
  json := kindOf s.body == .json
  headers := !s.header.isEmpty || !kindOf s.body == .empty

/-- What the handlers of several operations need. -/
def needsOfAll (sigs : List Signature) : HandlerNeeds where
  url := sigs.any fun s => (needsOf s).url
  query := sigs.any fun s => (needsOf s).query
  header := sigs.any fun s => (needsOf s).header
  form := sigs.any fun s => (needsOf s).form
  multipart := sigs.any fun s => (needsOf s).multipart
  urlEncoded := sigs.any fun s => (needsOf s).urlEncoded
  urlEncodedFields := sigs.any fun s => (needsOf s).urlEncodedFields
  text := sigs.any fun s => (needsOf s).text
  json := sigs.any fun s => (needsOf s).json
  headers := sigs.any fun s => (needsOf s).headers

section Needs

variable {e : Emission} {v : Version} {a : Api} {sigs : List Signature} {scope : Scope}
  {naming : Naming} {here : Location} {o : Operation} {s : Signature} {u : UsePath}
  {location : ParamLocation}

lemma isEmpty_of_mapM {ps : List Param} {cs : List ParamCodec}
    (h : ps.mapM (ParamCodec.ofParam scope naming here location) = .ok cs) :
    cs.isEmpty = ps.isEmpty := by
  rw [← List.isEmpty_map (f := ParamCodec.ident), (codecs_of_mapM h).1, List.isEmpty_map]

lemma isEmpty_fields_of_bodyBuilt {body : BodyShape} (h : BodyBuilt scope naming here o body) :
    (fieldsOf body).isEmpty = (formFields o).isEmpty := by
  rw [← List.isEmpty_map (f := ParamCodec.ident), (fields_of_bodyBuilt h).1, List.isEmpty_map]

lemma kindOf_of_bodyBuilt {body : BodyShape} (h : BodyBuilt scope naming here o body) :
    kindOf body = o.body.kind := by
  cases h with
  | none hbody | text hbody | json hbody _ | multipart hbody _ | urlEncoded hbody _ =>
    rw [hbody]
    rfl

/-- The parameters of an operation at a place. -/
def paramsAt (o : Operation) : ParamLocation → List Param
  | .url => o.endpoint.params
  | .query => o.queryParams
  | .header => o.headerParams
  | .form => formFields o

lemma mem_paramsAt_iff {p : Param} : (location, p) ∈ o.params ↔ p ∈ paramsAt o location := by
  cases location <;> simp [Operation.params, paramsAt, formFields]

lemma isEmpty_codecsAt (h : Signature.ofOperation scope naming here o = .ok s)
    (location : ParamLocation) : (codecsAt s location).isEmpty = (paramsAt o location).isEmpty := by
  have hbuilt := ofOperation_eq_ok_iff.1 h
  cases location with
  | url => exact isEmpty_of_mapM hbuilt.url
  | query => exact isEmpty_of_mapM hbuilt.query
  | header => exact isEmpty_of_mapM hbuilt.header
  | form => exact isEmpty_fields_of_bodyBuilt hbuilt.body

/-- A question about the operations of an API is one about their signatures. -/
lemma any_operations (h : e.signatures v a = .ok sigs) {P : Operation → Bool} {Q : Signature → Bool}
    (hPQ : ∀ here o s, Signature.ofOperation (.ofVersion v e.spec.httpErrors) e.naming here o =
      .ok s → P o = Q s) : a.operations.any P = sigs.any Q := by
  rw [Bool.eq_iff_iff, List.any_eq_true, List.any_eq_true]
  constructor
  · rintro ⟨o, ho, hP⟩
    obtain ⟨s, hs, hbuilt⟩ := exists_mem_of_mapM h ho
    exact ⟨s, hs, hPQ _ o s hbuilt ▸ hP⟩
  · rintro ⟨s, hs, hQ⟩
    obtain ⟨o, ho, hbuilt⟩ := exists_of_mem_mapM h hs
    exact ⟨o, ho, (hPQ _ o s hbuilt).symm ▸ hQ⟩

lemma hasParamAt_eq (h : e.signatures v a = .ok sigs) (location : ParamLocation) :
    a.hasParamAt location = sigs.any fun s => !(codecsAt s location).isEmpty := by
  have hoperations : a.hasParamAt location =
      a.operations.any fun o => !(paramsAt o location).isEmpty := by
    rw [Bool.eq_iff_iff, api_hasParamAt_iff, List.any_eq_true]
    simp only [mem_paramsAt_iff, Bool.not_eq_true', List.isEmpty_eq_false_iff_exists_mem]
  rw [hoperations]
  exact any_operations h fun _ _ _ hs => congrArg not (isEmpty_codecsAt hs location).symm

lemma hasBody_eq (h : e.signatures v a = .ok sigs) (kind : BodyKind) :
    a.hasBody kind = sigs.any fun s => kindOf s.body == kind := by
  have hoperations : a.hasBody kind = a.operations.any fun o => o.body.kind == kind := by
    rw [Bool.eq_iff_iff, api_hasBody_iff, List.any_eq_true]
    simp only [beq_iff_eq]
  rw [hoperations]
  refine any_operations h fun _ o s hs => ?_
  rw [kindOf_of_bodyBuilt (ofOperation_eq_ok_iff.1 hs).body]

/-- The needs of an API are those of its operations. -/
lemma ofApi_eq (h : e.signatures v a = .ok sigs) : HandlerNeeds.ofApi a = needsOfAll sigs := by
  have hfields : (a.operations.any fun o => HandlerNeeds.isUrlEncodedWithFields o.body) =
      sigs.any fun s => (needsOf s).urlEncodedFields := by
    refine any_operations h fun _ o s hs => ?_
    have hbuilt := (ofOperation_eq_ok_iff.1 hs).body
    rw [needsOf, kindOf_of_bodyBuilt hbuilt, isEmpty_fields_of_bodyBuilt hbuilt, formFields]
    cases o.body <;> rfl
  have hkinds : (a.operations.any fun o => !o.body.kind == .empty) =
      sigs.any fun s => !kindOf s.body == .empty := by
    refine any_operations h fun _ o s hs => ?_
    rw [kindOf_of_bodyBuilt (ofOperation_eq_ok_iff.1 hs).body]
  have hheaders : a.readsHeaders = sigs.any fun s => (needsOf s).headers := by
    rw [Api.readsHeaders, hasParamAt_eq h, hkinds, Bool.eq_iff_iff, Bool.or_eq_true]
    simp only [List.any_eq_true, ← exists_or, ← and_or_left, ← Bool.or_eq_true]
    rfl
  unfold HandlerNeeds.ofApi
  simp only [hasParamAt_eq h, hasBody_eq h, hfields, hheaders]
  rfl

/-- An import under a condition stands for several operations if it stands for one of them. -/
lemma mem_uses_needsOfAll (hu : u ∈ conditionalUses) :
    u ∈ (needsOfAll sigs).uses ↔ ∃ s ∈ sigs, u ∈ (needsOf s).uses := by
  induction sigs with
  | nil =>
    have hnone : ∀ u ∈ conditionalUses, u ∉ (needsOfAll []).uses := by decide +kernel
    exact ⟨fun h => absurd h (hnone u hu), fun ⟨_, h, _⟩ => absurd h List.not_mem_nil⟩
  | cons s sigs ih =>
    have hstep : needsOfAll (s :: sigs) = either (needsOf s) (needsOfAll sigs) := rfl
    rw [hstep, joins_uses u, ih, List.exists_mem_cons_iff]

end Needs

end ApiCodegen.Proofs
