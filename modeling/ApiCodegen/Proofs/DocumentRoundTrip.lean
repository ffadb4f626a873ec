import ApiCodegen.Description.Document
import ApiCodegen.Proofs.TypeNotation
import ApiCodegen.Proofs.Usage

/-!
# Descriptions as documents

What is written of a description is read back as it was. A document has parts inside parts, and each
of them has a reader, a writer and the types that it declares; `RoundTrips` says how the three belong
together. The only texts that a reader interprets are notations of types, so that a part is read back
if all its types are notations of words, and whatever has been read has such types.
-/

namespace ApiCodegen.Proofs
open Json

/-- All types are over words, so that their notations can be read. -/
def Readable (types : List TypeExpr) : Prop := ∀ t ∈ types, IsWord t.leaf

section Readable

variable {α : Type} {xs ys : List TypeExpr} {t : TypeExpr}

@[simp] lemma readable_nil : Readable [] := fun _ ht => nomatch ht

@[simp] lemma readable_cons : Readable (t :: ys) ↔ IsWord t.leaf ∧ Readable ys :=
  List.forall_mem_cons

@[simp] lemma readable_append : Readable (xs ++ ys) ↔ Readable xs ∧ Readable ys :=
  List.forall_mem_append

@[simp] lemma readable_flatMap {parts : List α} {f : α → List TypeExpr} :
    Readable (parts.flatMap f) ↔ ∀ part ∈ parts, Readable (f part) := by
  unfold Readable
  simp only [List.mem_flatMap]
  exact ⟨fun h part hpart t ht => h t ⟨part, hpart, ht⟩,
    fun h t ⟨part, hpart, ht⟩ => h part hpart t ht⟩

@[simp] lemma readable_map {parts : List α} {f : α → TypeExpr} :
    Readable (parts.map f) ↔ ∀ part ∈ parts, IsWord (f part).leaf :=
  List.forall_mem_map

end Readable

/-- A reader and a writer of parts that declare types. -/
structure RoundTrips {α : Type} (read : Json → Option α) (toJson : α → Json)
    (types : α → List TypeExpr) : Prop where
  read_toJson : ∀ x, Readable (types x) → read (toJson x) = some x
  readable : ∀ {j x}, read j = some x → Readable (types x)

section RoundTrips

variable {α : Type} {read : Json → Option α} {toJson : α → Json} {types : α → List TypeExpr}

lemma readable_needed (h : RoundTrips read toJson types) {value : Option Json} {x : α}
    (hx : Json.needed read value = some x) : Readable (types x) := by
  cases value with
  | none => cases hx
  | some j => exact h.readable hx

lemma readable_orElse (h : RoundTrips read toJson types) {default x : α} {value : Option Json}
    (hx : Json.orElse default read value = some x) (hdefault : Readable (types default)) :
    Readable (types x) := by
  cases value with
  | none =>
    cases hx
    exact hdefault
  | some j => exact h.readable hx

lemma roundTrips_list (h : RoundTrips read toJson types) :
    RoundTrips (list? read) (fun xs => .arr (xs.map toJson)) (·.flatMap types) where
  read_toJson xs hxs := by
    rw [readable_flatMap] at hxs
    change (xs.map toJson).mapM read = some xs
    induction xs with
    | nil => rfl
    | cons x xs ih =>
      have hx : read (toJson x) = some x := h.read_toJson x (hxs x List.mem_cons_self)
      have hrest := ih fun y hy => hxs y (List.mem_cons_of_mem _ hy)
      rw [List.map_cons, List.mapM_cons, hx, hrest]
      rfl
  readable {j xs} hread := by
    rw [readable_flatMap]
    cases j with
    | arr items =>
      change items.mapM read = some xs at hread
      induction items generalizing xs with
      | nil =>
        cases hread
        exact fun x hx => nomatch hx
      | cons item items ih =>
        rw [List.mapM_cons] at hread
        obtain ⟨x, hx, hread⟩ := Option.bind_eq_some_iff.1 hread
        obtain ⟨rest, hrest, hread⟩ := Option.bind_eq_some_iff.1 hread
        cases hread
        exact List.forall_mem_cons.2 ⟨h.readable hx, ih hrest⟩
    | null | bool _ | int _ | float _ | str _ | obj _ => cases hread

lemma readable_needed_list (h : RoundTrips read toJson types) {value : Option Json} {xs : List α}
    (hxs : Json.needed (list? read) value = some xs) : Readable (xs.flatMap types) :=
  readable_needed (roundTrips_list h) hxs

lemma readable_orElse_nil (h : RoundTrips read toJson types) {value : Option Json} {xs : List α}
    (hxs : Json.orElse [] (list? read) value = some xs) : Readable (xs.flatMap types) :=
  readable_orElse (roundTrips_list h) hxs readable_nil

end RoundTrips

/-! ### Records -/

section Records

variable {names : List String} {fields : List (String × Option Json)} {name : String}
  {value : Option Json}

/-- The fields that have a value. -/
def present (fields : List (String × Option Json)) : List (String × Json) :=
  fields.filterMap fun (name, value) => value.map (name, ·)

lemma present_cons_none : present ((name, none) :: fields) = present fields := rfl

lemma present_cons_some {j : Json} :
    present ((name, some j) :: fields) = (name, j) :: present fields := rfl

lemma lookup_present_of_notMem (h : name ∉ fields.map Prod.fst) :
    (present fields).lookup name = none := by
  rw [List.lookup_eq_none_iff]
  intro field hfield
  obtain ⟨⟨key, value⟩, hmem, hvalue⟩ := List.mem_filterMap.1 hfield
  obtain ⟨j, -, rfl⟩ := Option.map_eq_some_iff.1 hvalue
  rw [bne_iff_ne]
  rintro rfl
  exact h (List.mem_map_of_mem hmem)

lemma lookup_present (hnames : (fields.map Prod.fst).Nodup) (h : (name, value) ∈ fields) :
    (present fields).lookup name = value := by
  induction fields with
  | nil => cases h
  | cons field fields ih =>
    obtain ⟨hkey, hrest⟩ := List.nodup_cons.1 hnames
    cases h with
    | head =>
      cases value with
      | none => rw [present_cons_none, lookup_present_of_notMem hkey]
      | some j => rw [present_cons_some, List.lookup_cons_self]
    | tail _ h =>
      obtain ⟨key, first⟩ := field
      have hne : (name == key) = false := by
        rw [beq_eq_false_iff_ne]
        rintro rfl
        exact hkey (List.mem_map.2 ⟨_, h, rfl⟩)
      cases first with
      | none => rw [present_cons_none, ih hrest h]
      | some j => rw [present_cons_some, List.lookup_cons, hne, ih hrest h]

/-- The fields of a record are found as they were written, also where some have been left out. -/
lemma record?_ofSome (hnames : names.Nodup) (hfields : fields.map Prod.fst = names) :
    record? names (Json.ofSome fields) = some (fields.map Prod.snd) := by
  subst hfields
  refine congrArg some ?_
  rw [List.map_map]
  exact List.map_congr_left fun field hfield => lookup_present hnames hfield

lemma record?_obj {fields : List (String × Json)} (hnames : names.Nodup)
    (hfields : fields.map Prod.fst = names) :
    record? names (.obj fields) = some (fields.map fun field => some field.2) := by
  have hsome : Json.obj fields = Json.ofSome (fields.map fun field => (field.1, some field.2)) := by
    unfold Json.ofSome
    rw [List.filterMap_map]
    exact congrArg Json.obj (List.filterMap_some).symm
  rw [hsome, record?_ofSome hnames (by rw [List.map_map]; exact hfields), List.map_map]
  rfl

lemma content?_ofSome (hnames : names.Nodup) (hfields : fields.map Prod.fst = names) :
    content? names (some (Json.ofSome fields)) = some (fields.map Prod.snd) :=
  record?_ofSome hnames hfields

lemma content?_obj {fields : List (String × Json)} (hnames : names.Nodup)
    (hfields : fields.map Prod.fst = names) :
    content? names (some (.obj fields)) = some (fields.map fun field => some field.2) :=
  record?_obj hnames hfields

@[simp] lemma needed_some {α : Type} {read : Json → Option α} {j : Json} :
    needed read (some j) = read j := rfl

@[simp] lemma orElse_some {α : Type} {default : α} {read : Json → Option α} {j : Json} :
    Json.orElse default read (some j) = read j := rfl

@[simp] lemma string?_str {s : String} : string? (.str s) = some s := rfl

@[simp] lemma choice?_obj {content : Json} :
    choice? (.obj [(name, content)]) = some (name, some content) := rfl

@[simp] lemma maybe_optionalText (s : Option String) : maybe string? (optionalText s) = some s := by
  cases s <;> rfl

end Records

/-! ### Types and parameters -/

lemma typeRoundTrips : RoundTrips TypeExpr.read TypeExpr.toJson fun t => [t] where
  read_toJson t ht := parseChars_notate (readable_cons.1 ht).1
  readable {j t} hread := by
    obtain ⟨s, -, hparse⟩ := Option.bind_eq_some_iff.1 hread
    exact readable_cons.2 ⟨isWord_of_parseChars hparse, readable_nil⟩

lemma read_method (m : HttpMethod) : HttpMethod.read m.toJson = some m := by
  cases m <;> rfl

lemma paramRoundTrips : RoundTrips Param.read Param.toJson fun p => [p.type] where
  read_toJson p hp := by
    have htype := RoundTrips.read_toJson typeRoundTrips p.type hp
    unfold Param.read Param.toJson
    rw [record?_ofSome (by decide) (by rfl)]
    simp [htype]
  readable {j p} hread := by
    obtain ⟨values, -, hread⟩ := Option.bind_eq_some_iff.1 hread
    split at hread
    · simp only [Option.bind_eq_bind, Option.bind_eq_some_iff] at hread
      obtain ⟨name, -, type, htype, default, -, description, -, hread⟩ := hread
      cases hread
      exact readable_needed typeRoundTrips htype
    · cases hread

/-! ### Operations -/

/-- The types of parameters. -/
def paramTypes (params : List Param) : List TypeExpr := params.flatMap fun p => [p.type]

lemma endpointRoundTrips : RoundTrips Endpoint.read Endpoint.toJson fun e => paramTypes e.params where
  read_toJson e he := by
    have hparams := (roundTrips_list paramRoundTrips).read_toJson e.params he
    unfold Endpoint.read Endpoint.toJson
    rw [record?_obj (by decide) (by rfl)]
    simp [read_method, hparams]
  readable {j e} hread := by
    obtain ⟨values, -, hread⟩ := Option.bind_eq_some_iff.1 hread
    split at hread
    · simp only [Option.bind_eq_bind, Option.bind_eq_some_iff] at hread
      obtain ⟨method, -, url, -, params, hparams, hread⟩ := hread
      cases hread
      exact readable_orElse_nil paramRoundTrips hparams
    · cases hread

lemma requestRoundTrips : RoundTrips RequestBody.read RequestBody.toJson fun b =>
    paramTypes (b.formParams?.getD []) ++ requestTypes b where
  read_toJson b hb := by
    obtain ⟨hparams, htypes⟩ := readable_append.1 hb
    cases b with
    | empty => rfl
    | rawString description =>
      have hcontent : content? ["description"] (some (Json.ofSome
          [("description", optionalText description)])) = some [optionalText description] :=
        content?_ofSome (by decide) rfl
      simp [RequestBody.read, RequestBody.toJson, hcontent]
    | json type description =>
      have hcontent : content? ["type", "description"] (some (Json.ofSome
          [("type", some type.toJson), ("description", optionalText description)])) =
          some [some type.toJson, optionalText description] := content?_ofSome (by decide) rfl
      have htype := RoundTrips.read_toJson typeRoundTrips type htypes
      simp [RequestBody.read, RequestBody.toJson, hcontent, htype]
    | formData params =>
      have hread := (roundTrips_list paramRoundTrips).read_toJson params hparams
      simp [RequestBody.read, RequestBody.toJson, content?_obj, hread]
    | formUrlEncoded params =>
      have hread := (roundTrips_list paramRoundTrips).read_toJson params hparams
      simp [RequestBody.read, RequestBody.toJson, content?_obj, hread]
  readable {j b} hread := by
    obtain ⟨⟨name, content⟩, -, hread⟩ := Option.bind_eq_some_iff.1 hread
    simp only [Option.bind_eq_bind] at hread
    split at hread
    · split at hread
      · cases hread
        exact readable_nil
      · cases hread
    split at hread
    · obtain ⟨values, -, hread⟩ := Option.bind_eq_some_iff.1 hread
      split at hread
      · obtain ⟨description, -, hread⟩ := Option.bind_eq_some_iff.1 hread
        cases hread
        exact readable_nil
      · cases hread
    split at hread
    · obtain ⟨values, -, hread⟩ := Option.bind_eq_some_iff.1 hread
      split at hread
      · simp only [Option.bind_eq_some_iff] at hread
        obtain ⟨type, htype, description, -, hread⟩ := hread
        cases hread
        exact readable_needed typeRoundTrips htype
      · cases hread
    split at hread
    · obtain ⟨values, -, hread⟩ := Option.bind_eq_some_iff.1 hread
      split at hread
      · obtain ⟨params, hparams, hread⟩ := Option.bind_eq_some_iff.1 hread
        cases hread
        exact readable_append.2 ⟨readable_needed_list paramRoundTrips hparams, readable_nil⟩
      · cases hread
    split at hread
    · obtain ⟨values, -, hread⟩ := Option.bind_eq_some_iff.1 hread
      split at hread
      · obtain ⟨params, hparams, hread⟩ := Option.bind_eq_some_iff.1 hread
        cases hread
        exact readable_append.2 ⟨readable_needed_list paramRoundTrips hparams, readable_nil⟩
      · cases hread
    · cases hread

lemma responseBodyRoundTrips : RoundTrips ResponseBody.read ResponseBody.toJson responseTypes where
  read_toJson b hb := by
    cases b with
    | empty | rawString => rfl
    | json type =>
      have htype := RoundTrips.read_toJson typeRoundTrips type hb
      simp [ResponseBody.read, ResponseBody.toJson, htype]
  readable {j b} hread := by
    obtain ⟨⟨name, content⟩, -, hread⟩ := Option.bind_eq_some_iff.1 hread
    simp only [Option.bind_eq_bind] at hread
    split at hread
    · split at hread
      · cases hread
        exact readable_nil
      · cases hread
    split at hread
    · split at hread
      · cases hread
        exact readable_nil
      · cases hread
    split at hread
    · obtain ⟨type, htype, hread⟩ := Option.bind_eq_some_iff.1 hread
      cases hread
      exact readable_needed typeRoundTrips htype
    · cases hread

lemma responseRoundTrips :
    RoundTrips Response.read Response.toJson fun r => responseTypes r.body where
  read_toJson r hr := by
    have hbody := RoundTrips.read_toJson responseBodyRoundTrips r.body hr
    unfold Response.read Response.toJson
    rw [record?_ofSome (by decide) (by rfl)]
    simp [hbody]
  readable {j r} hread := by
    obtain ⟨values, -, hread⟩ := Option.bind_eq_some_iff.1 hread
    split at hread
    · simp only [Option.bind_eq_bind, Option.bind_eq_some_iff] at hread
      obtain ⟨status, -, body, hbody, description, -, hread⟩ := hread
      cases hread
      exact readable_orElse responseBodyRoundTrips hbody readable_nil
    · cases hread

lemma readable_operationTypes {o : Operation} : Readable (operationTypes o) ↔
    Readable (paramTypes o.endpoint.params) ∧ Readable (paramTypes o.headerParams) ∧
      Readable (paramTypes o.queryParams) ∧
      Readable (paramTypes (o.body.formParams?.getD []) ++ requestTypes o.body) ∧
      Readable (o.responses.flatMap fun r => responseTypes r.body) := by
  have hplaced : ∀ (place : ParamLocation) (params : List Param),
      Readable ((params.map (place, ·)).map (·.2.type)) ↔ Readable (paramTypes params) := by
    intro place params
    unfold paramTypes
    simp
  unfold operationTypes Operation.params
  simp only [List.map_append, readable_append, hplaced]
  tauto

lemma operationRoundTrips : RoundTrips Operation.read Operation.toJson operationTypes where
  read_toJson o ho := by
    obtain ⟨hurl, hheader, hquery, hbody, hresponses⟩ := readable_operationTypes.1 ho
    have hendpoint := RoundTrips.read_toJson endpointRoundTrips o.endpoint hurl
    have hheaders := (roundTrips_list paramRoundTrips).read_toJson o.headerParams hheader
    have hqueries := (roundTrips_list paramRoundTrips).read_toJson o.queryParams hquery
    have hrequest := RoundTrips.read_toJson requestRoundTrips o.body hbody
    have hresponse := (roundTrips_list responseRoundTrips).read_toJson o.responses hresponses
    unfold Operation.read Operation.toJson
    rw [record?_ofSome (by decide) (by rfl)]
    simp [hendpoint, hheaders, hqueries, hrequest, hresponse]
  readable {j o} hread := by
    obtain ⟨values, -, hread⟩ := Option.bind_eq_some_iff.1 hread
    split at hread
    · simp only [Option.bind_eq_bind, Option.bind_eq_some_iff] at hread
      obtain ⟨name, -, endpoint, hendpoint, headers, hheaders, query, hquery, body, hbody, responses,
        hresponses, description, -, hread⟩ := hread
      cases hread
      exact readable_operationTypes.2 ⟨readable_needed endpointRoundTrips hendpoint,
        readable_orElse_nil paramRoundTrips hheaders, readable_orElse_nil paramRoundTrips hquery,
        readable_orElse requestRoundTrips hbody readable_nil,
        readable_needed_list responseRoundTrips hresponses⟩
    · cases hread

/-! ### Models -/

lemma fieldRoundTrips : RoundTrips Field.read Field.toJson fun f => [f.type] where
  read_toJson f hf := by
    have htype := RoundTrips.read_toJson typeRoundTrips f.type hf
    unfold Field.read Field.toJson
    rw [record?_ofSome (by decide) (by rfl)]
    simp [htype]
  readable {j f} hread := by
    obtain ⟨values, -, hread⟩ := Option.bind_eq_some_iff.1 hread
    split at hread
    · simp only [Option.bind_eq_bind, Option.bind_eq_some_iff] at hread
      obtain ⟨name, -, type, htype, description, -, hread⟩ := hread
      cases hread
      exact readable_needed typeRoundTrips htype
    · cases hread

lemma enumValueRoundTrips : RoundTrips EnumValue.read EnumValue.toJson fun _ => [] where
  read_toJson v _ := by
    unfold EnumValue.read EnumValue.toJson
    rw [record?_ofSome (by decide) (by rfl)]
    simp
  readable _ := readable_nil

/-- The types of the fields or alternatives of a model. -/
def kindTypes : ModelKind → List TypeExpr
  | .object fields | .oneOf fields _ => fields.flatMap fun f => [f.type]
  | .enum _ => []

lemma kindRoundTrips : RoundTrips ModelKind.read ModelKind.toJson kindTypes where
  read_toJson k hk := by
    cases k with
    | object fields =>
      have hfields := (roundTrips_list fieldRoundTrips).read_toJson fields hk
      simp [ModelKind.read, ModelKind.toJson, content?_obj, hfields]
    | oneOf items discriminator =>
      have hcontent : content? ["items", "discriminator"] (some (Json.ofSome
          [("items", some (.arr (items.map Field.toJson))),
            ("discriminator", optionalText discriminator)])) =
          some [some (.arr (items.map Field.toJson)), optionalText discriminator] :=
        content?_ofSome (by decide) rfl
      have hitems := (roundTrips_list fieldRoundTrips).read_toJson items hk
      simp [ModelKind.read, ModelKind.toJson, hcontent, hitems]
    | enum values =>
      have hvalues := (roundTrips_list enumValueRoundTrips).read_toJson values (by simp)
      simp [ModelKind.read, ModelKind.toJson, content?_obj, hvalues]
  readable {j k} hread := by
    obtain ⟨⟨name, content⟩, -, hread⟩ := Option.bind_eq_some_iff.1 hread
    simp only [Option.bind_eq_bind] at hread
    split at hread
    · obtain ⟨values, -, hread⟩ := Option.bind_eq_some_iff.1 hread
      split at hread
      · obtain ⟨fields, hfields, hread⟩ := Option.bind_eq_some_iff.1 hread
        cases hread
        exact readable_needed_list fieldRoundTrips hfields
      · cases hread
    split at hread
    · obtain ⟨values, -, hread⟩ := Option.bind_eq_some_iff.1 hread
      split at hread
      · simp only [Option.bind_eq_some_iff] at hread
        obtain ⟨items, hitems, discriminator, -, hread⟩ := hread
        cases hread
        exact readable_needed_list fieldRoundTrips hitems
      · cases hread
    split at hread
    · obtain ⟨values, -, hread⟩ := Option.bind_eq_some_iff.1 hread
      split at hread
      · obtain ⟨values, -, hread⟩ := Option.bind_eq_some_iff.1 hread
        cases hread
        exact readable_nil
      · cases hread
    · cases hread

lemma modelRoundTrips : RoundTrips Model.read Model.toJson fun m => kindTypes m.kind where
  read_toJson m hm := by
    have hkind := RoundTrips.read_toJson kindRoundTrips m.kind hm
    unfold Model.read Model.toJson
    rw [record?_ofSome (by decide) (by rfl)]
    simp [hkind]
  readable {j m} hread := by
    obtain ⟨values, -, hread⟩ := Option.bind_eq_some_iff.1 hread
    split at hread
    · simp only [Option.bind_eq_bind, Option.bind_eq_some_iff] at hread
      obtain ⟨name, -, kind, hkind, description, -, hread⟩ := hread
      cases hread
      exact readable_needed kindRoundTrips hkind
    · cases hread

/-! ### Specifications -/

lemma apiRoundTrips : RoundTrips Api.read Api.toJson apiTypes where
  read_toJson a ha := by
    have hoperations := (roundTrips_list operationRoundTrips).read_toJson a.operations ha
    unfold Api.read Api.toJson
    rw [record?_obj (by decide) (by rfl)]
    simp [hoperations]
  readable {j a} hread := by
    obtain ⟨values, -, hread⟩ := Option.bind_eq_some_iff.1 hread
    split at hread
    · simp only [Option.bind_eq_bind, Option.bind_eq_some_iff] at hread
      obtain ⟨name, -, operations, hoperations, hread⟩ := hread
      cases hread
      exact readable_needed_list operationRoundTrips hoperations
    · cases hread

/-- The types that a version declares. -/
def versionTypes (v : Version) : List TypeExpr :=
  v.apis.flatMap apiTypes ++ modelTypes v.models

/-- The types that a specification declares. -/
def specTypes (s : Spec) : List TypeExpr :=
  s.versions.flatMap versionTypes ++ s.httpErrors.responses.map (·.type) ++
    modelTypes s.httpErrors.models

lemma readable_modelTypes {models : List Model} :
    Readable (modelTypes models) ↔ Readable (models.flatMap fun m => kindTypes m.kind) := by
  have hkind : ∀ m : Model, Readable (m.parts.map (·.type)) ↔ Readable (kindTypes m.kind) := by
    intro m
    unfold Model.parts kindTypes
    cases m.kind <;> simp
  unfold modelTypes
  simp only [readable_flatMap, hkind]

lemma versionRoundTrips : RoundTrips Version.read Version.toJson versionTypes where
  read_toJson v hv := by
    obtain ⟨hapiTypes, hmodelTypes⟩ := readable_append.1 hv
    have hapis := (roundTrips_list apiRoundTrips).read_toJson v.apis hapiTypes
    have hmodels := (roundTrips_list modelRoundTrips).read_toJson v.models
      (readable_modelTypes.1 hmodelTypes)
    unfold Version.read Version.toJson
    rw [record?_ofSome (by decide) (by rfl)]
    simp [hapis, hmodels]
  readable {j v} hread := by
    obtain ⟨values, -, hread⟩ := Option.bind_eq_some_iff.1 hread
    split at hread
    · simp only [Option.bind_eq_bind, Option.bind_eq_some_iff] at hread
      obtain ⟨name, -, url, -, apis, hapis, models, hmodels, hread⟩ := hread
      cases hread
      exact readable_append.2 ⟨readable_orElse_nil apiRoundTrips hapis,
        readable_modelTypes.2 (readable_orElse_nil modelRoundTrips hmodels)⟩
    · cases hread

lemma errorResponseRoundTrips :
    RoundTrips ErrorResponse.read ErrorResponse.toJson fun r => [r.type] where
  read_toJson r hr := by
    have htype := RoundTrips.read_toJson typeRoundTrips r.type hr
    unfold ErrorResponse.read ErrorResponse.toJson
    rw [record?_ofSome (by decide) (by rfl)]
    simp [htype]
  readable {j r} hread := by
    obtain ⟨values, -, hread⟩ := Option.bind_eq_some_iff.1 hread
    split at hread
    · simp only [Option.bind_eq_bind, Option.bind_eq_some_iff] at hread
      obtain ⟨status, -, type, htype, description, -, hread⟩ := hread
      cases hread
      exact readable_needed typeRoundTrips htype
    · cases hread

lemma errorsRoundTrip : RoundTrips HttpErrors.read HttpErrors.toJson fun e =>
    (e.responses.flatMap fun r => [r.type]) ++ e.models.flatMap fun m => kindTypes m.kind where
  read_toJson e he := by
    obtain ⟨hresponseTypes, hmodelTypes⟩ := readable_append.1 he
    have hresponses := (roundTrips_list errorResponseRoundTrips).read_toJson e.responses
      hresponseTypes
    have hmodels := (roundTrips_list modelRoundTrips).read_toJson e.models hmodelTypes
    unfold HttpErrors.read HttpErrors.toJson
    rw [record?_obj (by decide) (by rfl)]
    simp [hresponses, hmodels]
  readable {j e} hread := by
    obtain ⟨values, -, hread⟩ := Option.bind_eq_some_iff.1 hread
    split at hread
    · simp only [Option.bind_eq_bind, Option.bind_eq_some_iff] at hread
      obtain ⟨responses, hresponses, models, hmodels, hread⟩ := hread
      cases hread
      exact readable_append.2 ⟨readable_orElse_nil errorResponseRoundTrips hresponses,
        readable_orElse_nil modelRoundTrips hmodels⟩
    · cases hread

lemma readable_specTypes {s : Spec} : Readable (specTypes s) ↔
    Readable (s.versions.flatMap versionTypes) ∧
      Readable ((s.httpErrors.responses.flatMap fun r => [r.type]) ++
        s.httpErrors.models.flatMap fun m => kindTypes m.kind) := by
  have hresponses : Readable (s.httpErrors.responses.map (·.type)) ↔
      Readable (s.httpErrors.responses.flatMap fun r => [r.type]) := by simp
  unfold specTypes
  simp only [readable_append, readable_modelTypes, hresponses, and_assoc]

lemma specRoundTrips : RoundTrips Spec.read Spec.toJson specTypes where
  read_toJson s hs := by
    obtain ⟨hversionTypes, herrorTypes⟩ := readable_specTypes.1 hs
    have hversions := (roundTrips_list versionRoundTrips).read_toJson s.versions hversionTypes
    have herrors := RoundTrips.read_toJson errorsRoundTrip s.httpErrors herrorTypes
    unfold Spec.read Spec.toJson
    rw [record?_obj (by decide) (by rfl)]
    simp [hversions, herrors]
  readable {j s} hread := by
    obtain ⟨values, -, hread⟩ := Option.bind_eq_some_iff.1 hread
    split at hread
    · simp only [Option.bind_eq_bind, Option.bind_eq_some_iff] at hread
      obtain ⟨name, -, versions, hversions, errors, herrors, hread⟩ := hread
      cases hread
      exact readable_specTypes.2 ⟨readable_needed_list versionRoundTrips hversions,
        readable_orElse errorsRoundTrip herrors readable_nil⟩
    · cases hread

/-- A description over words is read back as it was written. So is every description that has been
read, whatever document it came from. -/
theorem document_round_trip :
    (∀ s : Spec, (∀ t ∈ specTypes s, IsWord t.leaf) → Spec.read s.toJson = some s) ∧
      ∀ (j : Json) (s : Spec), Spec.read j = some s → Spec.read s.toJson = some s :=
  ⟨RoundTrips.read_toJson specRoundTrips,
    fun _ s hread =>
      RoundTrips.read_toJson specRoundTrips s (RoundTrips.readable specRoundTrips hread)⟩

/-- An API and a response as lists, a method as an object, and a version without name and models:
what is written is the full form, which is read as the same. -/
theorem document_round_trip_orders :
    let s : Spec := ⟨"shop", [⟨"", none, [⟨"orders", [⟨"list", ⟨.get, "/orders", []⟩, [], [], .empty,
      [⟨"ok", .json (.array (.named "Order")), none⟩], none⟩]⟩], []⟩], .empty⟩
    let document := .obj [("name", .str "shop"), ("versions", .arr [.obj [("apis", .arr
      [.arr [.str "orders", .arr [.obj [("name", .str "list"), ("endpoint", .obj
        [("method", .obj [("GET", .null)]), ("url", .str "/orders")]), ("responses", .arr
          [.arr [.str "ok", .obj [("json", .str "Order[]")]]])]]]])]])]
    (∀ t ∈ specTypes s, IsWord t.leaf) ∧ Spec.read document = some s ∧
      Spec.read s.toJson = some s := by
  intro s document
  have hwords : ∀ t ∈ specTypes s, IsWord t.leaf := by decide
  have hread : Spec.read document = some s := by decide
  exact ⟨hwords, hread, document_round_trip.2 document s hread⟩

end ApiCodegen.Proofs
