import ApiCodegen.Proofs.Descriptions
import ApiCodegen.Tree.Generator

/-!
# Signatures of bare operations

The signature of a bare operation is that of the operation, bare, and what a signature says besides
comments does not change: its formals, the code that reads and writes parameters, its handler, the
body of its client method, its route and its skeleton.
-/

namespace ApiCodegen

/-- The codec of the bare parameter. -/
def ParamCodec.bare (c : ParamCodec) : ParamCodec := { c with param := c.param.bare }

def BodyShape.bare : BodyShape → BodyShape
  | none => none
  | text => text
  | json type => json type
  | form structName fields multipart => form structName (fields.map ParamCodec.bare) multipart

def ResponseVariant.bare (v : ResponseVariant) : ResponseVariant :=
  { v with response := v.response.bare }

def Returns.bare : Returns → Returns
  | single variant => single variant.bare
  | multiple enumName variants => multiple enumName (variants.map ResponseVariant.bare)

/-- The signature of the bare operation. -/
def Signature.bare (s : Signature) : Signature where
  operation := s.operation.bare
  fnName := s.fnName
  body := s.body.bare
  query := s.query.map ParamCodec.bare
  header := s.header.map ParamCodec.bare
  url := s.url.map ParamCodec.bare
  returns := s.returns.bare

def RouteGroup.bare (g : RouteGroup) : RouteGroup :=
  { g with signatures := g.signatures.map Signature.bare }

def ErrorVariant.bare (v : ErrorVariant) : ErrorVariant := { v with description := none }

end ApiCodegen

namespace ApiCodegen.Proofs

/-! ### Resolution -/

section Resolution

variable {s : Scope} {naming : Naming} {here : Location}

lemma ofParam_bare {location : ParamLocation} (p : Param) :
    ParamCodec.ofParam s.bare naming here location p.bare =
      (ParamCodec.ofParam s naming here location p).map ParamCodec.bare := by
  have htype : p.bare.type = p.type := rfl
  have hname : p.bare.name = p.name := rfl
  unfold ParamCodec.ofParam
  rw [htype, hname, resolve_bare]
  dsimp only
  cases ParamShape.ofType? p.type with
  | none => rfl
  | some shape =>
    dsimp only
    cases s.resolve (here.child p.name) p.type with
    | error fault => rfl
    | ok type => rfl

lemma variantOf_bare (r : Response) : Signature.variantOf s.bare naming here r.bare =
    (Signature.variantOf s naming here r).map ResponseVariant.bare := by
  have hstatus : r.bare.status = r.status := rfl
  have hbody : r.bare.body = r.body := rfl
  unfold Signature.variantOf
  rw [hstatus, hbody, payloadOf_bare]
  dsimp only
  cases Signature.payloadOf s ((here.child "responses").child r.status) r.body with
  | error fault => rfl
  | ok payload =>
    cases statusCode? r.status with
    | none => rfl
    | some code => rfl

lemma bodyOf_bare (o : Operation) : Signature.bodyOf s.bare naming here o.bare =
    (Signature.bodyOf s naming here o).map BodyShape.bare := by
  have hform : ∀ (params : List Param) (structName : String) (multipart : Bool),
      ((params.map Param.bare).mapM (ParamCodec.ofParam s.bare naming here .form)).map
          (fun fields => BodyShape.form structName fields multipart) =
        ((params.mapM (ParamCodec.ofParam s naming here .form)).map
          fun fields => BodyShape.form structName fields multipart).map BodyShape.bare := by
    intro params structName multipart
    rw [mapM_map_eq ofParam_bare]
    cases params.mapM (ParamCodec.ofParam s naming here .form) with
    | error fault => rfl
    | ok fields => rfl
  obtain ⟨name, endpoint, header, query, body, responses, description⟩ := o
  cases body with
  | empty | rawString _ => rfl
  | json type _ =>
    change (s.bare.resolve (here.child "body") type).map BodyShape.json =
      ((s.resolve (here.child "body") type).map BodyShape.json).map BodyShape.bare
    rw [resolve_bare]
    cases s.resolve (here.child "body") type with
    | error fault => rfl
    | ok type => rfl
  | formData params => exact hform params _ true
  | formUrlEncoded params => exact hform params _ false

lemma returnsOf_bare (enumName : String) (variants : List ResponseVariant) :
    Signature.returnsOf enumName (variants.map ResponseVariant.bare) =
      (Signature.returnsOf enumName variants).bare := by
  match variants with
  | [] => rfl
  | [variant] => rfl
  | first :: second :: rest => rfl

/-- The signature of a bare operation is the bare signature. -/
theorem ofOperation_bare (o : Operation) : Signature.ofOperation s.bare naming here o.bare =
    (Signature.ofOperation s naming here o).map Signature.bare := by
  have hendpoint : o.bare.endpoint.params = o.endpoint.params.map Param.bare := rfl
  have hheader : o.bare.headerParams = o.headerParams.map Param.bare := rfl
  have hquery : o.bare.queryParams = o.queryParams.map Param.bare := rfl
  have hresponses : o.bare.responses = o.responses.map Response.bare := rfl
  unfold Signature.ofOperation
  rw [hendpoint, hheader, hquery, hresponses, bodyOf_bare, mapM_map_eq variantOf_bare,
    mapM_map_eq ofParam_bare, mapM_map_eq ofParam_bare, mapM_map_eq ofParam_bare]
  apply bind_map_eq
  intro body
  apply bind_map_eq
  intro variants
  apply bind_map_eq
  intro query
  apply bind_map_eq
  intro header
  apply bind_map_eq
  intro url
  rw [returnsOf_bare]
  rfl

lemma ofErrors_bare (e : HttpErrors) : ErrorVariant.ofErrors naming e.bare =
    (ErrorVariant.ofErrors naming e).map (List.map ErrorVariant.bare) := by
  have hscope : Scope.ofErrors e.bare = (Scope.ofErrors e).bare := rfl
  have hstandard : HttpErrors.standardResponses =
      HttpErrors.standardResponses.map ErrorResponse.bare := rfl
  have hresponses : e.bare.responses = e.responses.map ErrorResponse.bare := rfl
  have hresponse : ∀ standard (r : ErrorResponse),
      ErrorVariant.ofResponse (Scope.ofErrors e).bare naming standard r.bare =
        (ErrorVariant.ofResponse (Scope.ofErrors e) naming standard r).map ErrorVariant.bare := by
    intro standard r
    have hstatus : r.bare.status = r.status := rfl
    have htype : r.bare.type = r.type := rfl
    unfold ErrorVariant.ofResponse
    rw [hstatus, htype, resolve_bare]
    dsimp only
    cases statusCode? r.status with
    | none => rfl
    | some code =>
      dsimp only
      cases (Scope.ofErrors e).resolve _ r.type with
      | error fault => rfl
      | ok type => rfl
  unfold ErrorVariant.ofErrors
  rw [hscope, hresponses, mapM_map_eq (hresponse false)]
  nth_rewrite 1 [hstandard]
  rw [mapM_map_eq (hresponse true)]
  apply bind_map_eq
  intro standard
  apply bind_map_eq
  intro own
  rw [← List.map_append]
  rfl

end Resolution

/-! ### Signatures -/

section Signatures

variable (s : Signature) (naming : Naming) (paths : TypePaths)

lemma variants_bare : s.returns.bare.variants = s.returns.variants.map ResponseVariant.bare := by
  cases s.returns with
  | single variant => rfl
  | multiple enumName variants => rfl

lemma outcome_bare (r : Returns) (v : ResponseVariant) : r.bare.outcome v.bare = r.outcome v := by
  cases r with
  | single variant => rfl
  | multiple enumName variants => rfl

lemma functionParams_bare : s.bare.params = s.params.map ParamCodec.bare := by
  unfold Signature.params
  rw [List.map_append, List.map_append]
  rfl

lemma formals_bare (body : Option Spelling) :
    s.bare.formals naming paths body = s.formals naming paths body := by
  unfold Signature.formals
  rw [functionParams_bare, List.map_map]
  rfl

lemma serviceFormals_bare : s.bare.serviceFormals naming paths = s.serviceFormals naming paths := by
  have hbody : s.bare.body = s.body.bare := rfl
  unfold Signature.serviceFormals
  rw [formals_bare, hbody]
  cases s.body with
  | none | text | json _ | form _ _ _ => rfl

lemma clientFormals_bare : s.bare.clientFormals naming paths = s.clientFormals naming paths := by
  have hbody : s.bare.body = s.body.bare := rfl
  unfold Signature.clientFormals
  rw [formals_bare, hbody]
  cases s.body with
  | none | text | json _ | form _ _ _ => rfl

lemma returnSpelling_bare : s.bare.returnSpelling naming paths = s.returnSpelling naming paths := by
  have hreturns : s.bare.returns = s.returns.bare := rfl
  unfold Signature.returnSpelling
  rw [hreturns]
  cases s.returns with
  | single variant => rfl
  | multiple enumName variants => rfl

lemma types_bare : s.bare.types = s.types := by
  have hbody : s.bare.body = s.body.bare := rfl
  have hreturns : s.bare.returns = s.returns.bare := rfl
  unfold Signature.types
  rw [functionParams_bare, hbody, hreturns, List.map_map]
  cases s.body with
  | none | text | json _ | form _ _ _ =>
    cases s.returns with
    | multiple enumName variants => rfl
    | single variant =>
      obtain ⟨name, code, response, payload⟩ := variant
      cases payload with
      | empty | text | json _ => rfl

lemma skeletonMethod_bare :
    Emission.skeletonMethod naming s.bare = Emission.skeletonMethod naming s := by
  unfold Emission.skeletonMethod
  rw [serviceFormals_bare, returnSpelling_bare]
  rfl

end Signatures

/-! ### Handlers and methods -/

section Functions

variable (naming : Naming) (s : Signature) (codecs : List ParamCodec)

lemma readingCode_bare (g : ReadingGroup) :
    g.code naming (codecs.map ParamCodec.bare) = g.code naming codecs := by
  unfold ReadingGroup.code
  rw [List.isEmpty_map, List.map_map, List.map_map, List.map_map]
  rfl

lemma writingCode_bare (writer : Var) (place : ParamCodec → Line)
    (hplace : ∀ c : ParamCodec, place c.bare = place c) :
    writingCode writer place (codecs.map ParamCodec.bare) = writingCode writer place codecs := by
  have hwriting : ∀ c : ParamCodec, c.bare.writing = c.writing := fun _ => rfl
  unfold writingCode
  rw [List.isEmpty_map, List.map_map]
  simp only [Function.comp_def, hplace, hwriting]

lemma handlerBody_bare (body : BodyShape) :
    Handler.bodyCode naming body.bare = Handler.bodyCode naming body := by
  cases body with
  | none | text | json _ => rfl
  | form structName fields multipart =>
    have hfields : Handler.fieldsCode naming structName (fields.map ParamCodec.bare) multipart =
        Handler.fieldsCode naming structName fields multipart := by
      unfold Handler.fieldsCode
      rw [readingCode_bare, List.map_map]
      rfl
    unfold BodyShape.bare Handler.bodyCode
    dsimp only
    rw [List.isEmpty_map, hfields]

lemma arms_bare : ServiceArm.ofSignature s.bare = ServiceArm.ofSignature s := by
  have hreturns : s.bare.returns = s.returns.bare := rfl
  unfold ServiceArm.ofSignature
  rw [hreturns, variants_bare, List.map_map]
  simp only [Function.comp_def, outcome_bare]
  rfl

lemma callLine_bare : Handler.callLine s.bare = Handler.callLine s := by
  have hbody : s.bare.body = s.body.bare := rfl
  have harguments : Handler.arguments s.bare = Handler.arguments s := by
    unfold Handler.arguments
    rw [functionParams_bare, hbody, List.map_map]
    cases s.body with
    | none | text | json _ | form _ _ _ => rfl
  unfold Handler.callLine
  rw [harguments]
  rfl

lemma extractors_bare (traitName : String) :
    Handler.extractorsOf traitName s.bare = Handler.extractorsOf traitName s := by
  have hbody : s.bare.body = s.body.bare := rfl
  have hnone : (s.body.bare != .none) = (s.body != .none) := by
    cases s.body with
    | none | text | json _ | form _ _ _ => rfl
  have hmultipart : Handler.isMultipart s.body.bare = Handler.isMultipart s.body := by
    cases s.body with
    | none | text | json _ | form _ _ _ => rfl
  have hbytes : Handler.readsBytes s.body.bare = Handler.readsBytes s.body := by
    cases s.body with
    | none | text | json _ => rfl
    | form structName fields multipart =>
      unfold BodyShape.bare Handler.readsBytes
      dsimp only
      rw [List.isEmpty_map]
  have hurl : s.bare.url.isEmpty = s.url.isEmpty := List.isEmpty_map
  have hquery : s.bare.query.isEmpty = s.query.isEmpty := List.isEmpty_map
  have hheader : s.bare.header.isEmpty = s.header.isEmpty := List.isEmpty_map
  unfold Handler.extractorsOf
  rw [hbody, hnone, hmultipart, hbytes, hurl, hquery, hheader]

/-- A handler does not see descriptions. -/
theorem handler_bare (traitName urlPrefix api : String) :
    Handler.ofSignature naming traitName urlPrefix api s.bare =
      Handler.ofSignature naming traitName urlPrefix api s := by
  have hurl : s.bare.url = s.url.map ParamCodec.bare := rfl
  have hquery : s.bare.query = s.query.map ParamCodec.bare := rfl
  have hheader : s.bare.header = s.header.map ParamCodec.bare := rfl
  have hbody : s.bare.body = s.body.bare := rfl
  unfold Handler.ofSignature
  dsimp only
  rw [extractors_bare, hurl, hquery, hheader, hbody, readingCode_bare, readingCode_bare,
    readingCode_bare, handlerBody_bare, arms_bare, callLine_bare]
  rfl

lemma urlLine_bare (url : String) :
    ClientMethod.urlLine url (codecs.map ParamCodec.bare) = ClientMethod.urlLine url codecs := by
  have harguments : ∀ t : UrlTemplate,
      t.arguments (codecs.map ParamCodec.bare) = (t.arguments codecs).map ParamCodec.bare := by
    intro t
    unfold UrlTemplate.arguments
    rw [List.map_filterMap]
    simp only [List.find?_map]
    rfl
  unfold ClientMethod.urlLine
  dsimp only
  rw [harguments, List.flatMap_map]
  rfl

lemma clientBody_bare (body : BodyShape) :
    ClientMethod.bodyCode body.bare = ClientMethod.bodyCode body := by
  cases body with
  | none | text | json _ => rfl
  | form structName fields multipart =>
    unfold BodyShape.bare ClientMethod.bodyCode
    dsimp only
    rw [List.isEmpty_map, writingCode_bare]
    intro c
    rfl

lemma branches_bare (errors : List ErrorVariant) :
    ClientBranch.ofSignature s.bare (errors.map ErrorVariant.bare) =
      ClientBranch.ofSignature s errors := by
  have hreturns : s.bare.returns = s.returns.bare := rfl
  unfold ClientBranch.ofSignature
  rw [hreturns, variants_bare, List.map_map, List.map_map]
  simp only [Function.comp_def, outcome_bare]
  rfl

/-- The method of a client does not see descriptions, its comment apart. -/
theorem clientMethod_bare (urlPrefix api : String) (errors : List ErrorVariant) :
    ClientMethod.ofSignature naming urlPrefix api s.bare (errors.map ErrorVariant.bare) =
      { ClientMethod.ofSignature naming urlPrefix api s errors with
        comment := (ClientMethod.ofSignature naming urlPrefix api s.bare []).comment } := by
  have hurl : s.bare.url = s.url.map ParamCodec.bare := rfl
  have hbody : s.bare.body = s.body.bare := rfl
  have hquery : ClientMethod.queryCode s.bare.query = ClientMethod.queryCode s.query := by
    change ClientMethod.queryCode (s.query.map ParamCodec.bare) = _
    unfold ClientMethod.queryCode
    rw [List.isEmpty_map, writingCode_bare]
    intro c
    rfl
  have hheader : ClientMethod.headerCode s.bare.header = ClientMethod.headerCode s.header := by
    change ClientMethod.headerCode (s.header.map ParamCodec.bare) = _
    unfold ClientMethod.headerCode
    rw [List.isEmpty_map, writingCode_bare]
    intro c
    rfl
  unfold ClientMethod.ofSignature
  dsimp only
  rw [clientFormals_bare, returnSpelling_bare, hurl, urlLine_bare, hquery, hheader, hbody,
    clientBody_bare, branches_bare]
  rfl

/-- Routes are those of the operations, bare or not. -/
lemma routes_bare (urlPrefix : String) (sigs : List Signature) :
    (RouteGroup.ofSignatures urlPrefix (sigs.map Signature.bare)).map RouteGroup.code =
      (RouteGroup.ofSignatures urlPrefix sigs).map RouteGroup.code := by
  have hinsert : ∀ (path : String) (s : Signature) (groups : List RouteGroup),
      RouteGroup.insert path s.bare (groups.map RouteGroup.bare) =
        (RouteGroup.insert path s groups).map RouteGroup.bare := by
    intro path s groups
    induction groups with
    | nil => rfl
    | cons g groups ih =>
      have hpath : g.bare.path = g.path := rfl
      rw [List.map_cons, RouteGroup.insert, RouteGroup.insert, hpath, ih]
      split
      · unfold RouteGroup.bare
        rw [List.map_cons, List.map_append]
        rfl
      · rfl
  have hgroups : ∀ (sigs : List Signature) (groups : List RouteGroup),
      (sigs.map Signature.bare).foldl (fun groups s =>
          RouteGroup.insert (urlPrefix ++ s.operation.endpoint.url) s groups)
          (groups.map RouteGroup.bare) =
        (sigs.foldl (fun groups s =>
          RouteGroup.insert (urlPrefix ++ s.operation.endpoint.url) s groups) groups).map
          RouteGroup.bare := by
    intro sigs
    induction sigs with
    | nil => exact fun groups => rfl
    | cons s sigs ih =>
      intro groups
      rw [List.map_cons, List.foldl_cons, List.foldl_cons, hinsert]
      exact ih _
  have hcode : ∀ g : RouteGroup, g.bare.code = g.code := by
    intro g
    unfold RouteGroup.code RouteGroup.bare
    rw [List.map_map]
    rfl
  unfold RouteGroup.ofSignatures
  have hroutes := hgroups sigs []
  rw [List.map_nil] at hroutes
  rw [hroutes, List.map_map]
  exact List.map_congr_left fun g _ => hcode g

end Functions

end ApiCodegen.Proofs
