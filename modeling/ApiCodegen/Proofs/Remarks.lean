import ApiCodegen.Proofs.FileSources
import ApiCodegen.Proofs.Signatures

/-!
# Lines that copy text of the description

Text of a description stands in code as a literal, in a comment that describes, or copied as it is.
`remarks` reads the lines that copy off code. They are comments on the types of an operation, on
the service, the router and the client of an API, and on the methods of a client; no other line of
any file copies anything.
-/

namespace ApiCodegen.Proofs

/-- The texts that a line copies. -/
def copies (l : Line) : List String :=
  l.filterMap fun
    | .copied s => some s
    | _ => none

/-- The lines of code that copy text. -/
def remarks (c : Code) : List Line :=
  c.lines.filter fun l => copies l ≠ []

/-- A line that copies a text between two others. -/
def remark (before copied after : String) : Line :=
  [.text before, .copied copied, .text after]

section Lines

variable (a b : Code) (l : Line)

@[simp] lemma copies_nil : copies [] = [] := rfl

@[simp] lemma copies_text (s : String) : copies (.text s :: l) = copies l := rfl

@[simp] lemma copies_quoted (s : String) : copies (.quoted s :: l) = copies l := rfl

@[simp] lemma copies_declares (name : String) : copies (.declares name :: l) = copies l := rfl

@[simp] lemma copies_item (name : String) : copies (.item name :: l) = copies l := rfl

@[simp] lemma copies_imported (name : String) : copies (.imported name :: l) = copies l := rfl

@[simp] lemma copies_spelled (t : Spelling) : copies (.spelled t :: l) = copies l := rfl

@[simp] lemma copies_binds (v : Var) : copies (.binds v :: l) = copies l := rfl

@[simp] lemma copies_reads (v : Var) : copies (.reads v :: l) = copies l := rfl

@[simp] lemma copies_newLocal (name : String) : copies (.newLocal name :: l) = copies l := rfl

@[simp] lemma copies_ofLocal (name : String) : copies (.ofLocal name :: l) = copies l := rfl

@[simp] lemma copies_copied (s : String) : copies (.copied s :: l) = s :: copies l := rfl

@[simp] lemma copies_remark (before copied after : String) :
    copies (remark before copied after) = [copied] := rfl

@[simp] lemma copies_append (k : Line) : copies (k ++ l) = copies k ++ copies l :=
  List.filterMap_append

@[simp] lemma copies_joined (separator : String) (ls : List Line) :
    copies (Line.joined separator ls) = ls.flatMap copies := by
  induction ls with
  | nil => rfl
  | cons l ls ih =>
    cases ls with
    | nil => simp [Line.joined]
    | cons k ls => simp [Line.joined, ih]

@[simp] lemma copies_flatMap {α : Type} (as : List α) (f : α → Line) :
    copies (as.flatMap f) = as.flatMap fun a => copies (f a) :=
  List.filterMap_flatMap

@[simp] lemma remarks_nothing : remarks .nothing = [] := rfl

@[simp] lemma remarks_blank : remarks .blank = [] := rfl

@[simp] lemma remarks_doc (text : Option String) : remarks (.doc text) = [] := rfl

@[simp] lemma remarks_line : remarks (.line l) = if copies l = [] then [] else [l] := by
  by_cases h : copies l = [] <;> simp [remarks, Code.lines, h]

@[simp] lemma remarks_arm : remarks (.arm l) = if copies l = [] then [] else [l] := by
  by_cases h : copies l = [] <;> simp [remarks, Code.lines, h]

@[simp] lemma remarks_append : remarks (a ++ b) = remarks a ++ remarks b :=
  List.filter_append ..

@[simp] lemma remarks_all (codes : List Code) : remarks (.all codes) = codes.flatMap remarks := by
  induction codes with
  | nil => rfl
  | cons code codes ih =>
    rw [List.flatMap_cons, ← ih]
    exact remarks_append code (Code.all codes)

@[simp] lemma remarks_texts (lines : List String) : remarks (.texts lines) = [] := by
  simp [Code.texts]

@[simp] lemma remarks_block (binding : Binding) (close : Line) :
    remarks (.block binding l b close) =
      remarks (.line l) ++ remarks b ++ remarks (.line close) := by
  have hlines : (Code.block binding l b close).lines = [l] ++ b.lines ++ [close] := rfl
  unfold remarks
  rw [hlines, List.filter_append, List.filter_append]
  rfl

@[simp] lemma remarks_braces : remarks (.braces l b) = remarks (.line l) ++ remarks b := by
  simp [Code.braces]

@[simp] lemma remarks_hanging (close : Option Line) :
    remarks (.hanging l b close) =
      remarks (.line l) ++ remarks b ++ remarks (.all (close.toList.map .line)) := by
  have hlines : (Code.hanging l b close).lines = [l] ++ b.lines ++ close.toList := rfl
  unfold remarks
  rw [hlines, List.filter_append, List.filter_append]
  cases close <;> rfl

end Lines

/-! ### Code that copies nothing -/

section Models

variable {s : ModelScope} {here : Location} {f : Field} {m : Model} {code : Code}

lemma remarks_attributeCode (t : Spelling) (ident : String) :
    remarks (ModelScope.attributeCode (ModelScope.fieldAttributes f ident t)) = [] := by
  unfold ModelScope.attributeCode ModelScope.fieldAttributes
  split <;> split <;> split <;> rfl

lemma remarks_fieldCode (h : s.fieldCode m.name here f = .ok code) : remarks code = [] := by
  obtain ⟨t, -, hcode⟩ := bind_eq_ok_iff.1 h
  cases hcode
  simp [remarks_attributeCode]

lemma remarks_itemCode (h : s.itemCode m.name here f = .ok code) : remarks code = [] := by
  obtain ⟨t, -, hcode⟩ := bind_eq_ok_iff.1 h
  cases hcode
  simp

lemma remarks_of_mapM {α : Type} {g : α → Except Fault Code} {as : List α} {codes : List Code}
    (hg : ∀ a code, g a = .ok code → remarks code = []) (h : as.mapM g = .ok codes) :
    codes.flatMap remarks = [] :=
  List.flatMap_eq_nil_iff.2 (forall_of_mapM hg h)

lemma remarks_enumCode (values : List EnumValue) : remarks (s.enumCode m values) = [] := by
  simp [ModelScope.enumCode, ModelScope.enumTextCode, ModelScope.valueCode, List.flatMap_map]

lemma remarks_modelCode (h : s.modelCode here m = .ok code) : remarks code = [] := by
  unfold ModelScope.modelCode at h
  cases hkind : m.kind with
  | object fields =>
    rw [hkind] at h
    obtain ⟨body, hbody, hcode⟩ := bind_eq_ok_iff.1 h
    cases hcode
    simp [ModelScope.deriveLine, remarks_of_mapM (fun _ _ => remarks_fieldCode) hbody]
  | oneOf items discriminator =>
    rw [hkind] at h
    obtain ⟨body, hbody, hcode⟩ := bind_eq_ok_iff.1 h
    cases hcode
    cases discriminator <;>
      simp [ModelScope.deriveLine, remarks_of_mapM (fun _ _ => remarks_itemCode) hbody]
  | enum values =>
    rw [hkind] at h
    cases h
    exact remarks_enumCode values

lemma remarks_modelsCode {scope : Scope} {naming : Naming} {paths : TypePaths} {models : List Model}
    (h : modelsCode scope naming paths here models = .ok code) : remarks code = [] := by
  obtain ⟨codes, hcodes, hcode⟩ := bind_eq_ok_iff.1 h
  cases hcode
  have hnone := remarks_of_mapM (fun _ _ => remarks_modelCode) hcodes
  simpa [List.flatMap_map] using hnone

end Models

section Errors

variable (v : ErrorVariant) (naming : Naming)

lemma remarks_valueCode : remarks (v.valueCode naming) = [] := by
  simp [ErrorVariant.valueCode, ErrorVariant.attributeLine]

lemma remarks_serviceVariantCode : remarks (serviceVariantCode naming v) = [] := by
  unfold serviceVariantCode ErrorVariant.docCode
  split <;> simp [remarks_valueCode]

lemma remarks_respondArm : remarks (respondArm v) = [] := by
  unfold respondArm
  cases v.handling <;> simp

lemma remarks_errorTypeCode (e : Emission) (variants : List ErrorVariant) :
    remarks (e.errorTypeCode variants) = [] := by
  unfold Emission.errorTypeCode
  split
  · rfl
  · simp [clientErrorCode, ErrorVariant.docCode, remarks_valueCode, List.flatMap_map]
  · simp [serviceErrorCode, remarks_serviceVariantCode, remarks_respondArm, List.flatMap_map]

end Errors

section Parameters

variable {naming : Naming}

lemma copies_formatCall : copies ParamWriting.formatCall = [] := rfl

lemma copies_statement (w : ParamWriting) (writer value : Line) :
    copies (w.statement writer value) = copies writer ++ copies value := by
  have hargument : copies (w.argument value) = copies value := by
    unfold ParamWriting.argument
    cases w.shape <;> cases w.formatted <;> simp [copies_formatCall]
  simp [ParamWriting.statement, hargument]

lemma copies_expression (r : ParamReading) (parser : Line) :
    copies (r.expression parser) = copies parser := by
  have hdefault : ∀ a, copies (ParamReading.defaultArgument a) = [] := by
    intro a
    cases a <;> rfl
  have hallowed : copies r.allowedArgument = [] := by
    unfold ParamReading.allowedArgument
    split <;> rfl
  have hlifted : copies (if r.lifted then [Piece.text ".map(Some)"] else []) = [] := by
    split <;> rfl
  simp [ParamReading.expression, hdefault, hallowed, hlifted]

lemma remarks_writingCode {writer : Var} {place : ParamCodec → Line} {codecs : List ParamCodec}
    (hplace : ∀ c, copies (place c) = []) :
    remarks (writingCode writer place codecs) = [] := by
  unfold writingCode
  split
  · rfl
  · simp [copies_statement, hplace, List.flatMap_map]

lemma remarks_groupCode {g : ReadingGroup} (codecs : List ParamCodec)
    (hsource : copies g.source = [])
    (hfailure : ∀ faults : Line, copies faults = [] → copies (g.failure faults) = []) :
    remarks (g.code naming codecs) = [] := by
  unfold ReadingGroup.code
  split
  · rfl
  · have hstop := hfailure [.reads g.parser, .text ".into_errors()"] rfl
    simp [copies_expression, hsource, hstop, List.flatMap_map]

lemma copies_receiverLine (formals : List Signature.Formal) :
    copies (Signature.receiverLine formals) = [] := by
  simp [Signature.receiverLine, Signature.formalsLine]

end Parameters

section Dispatches

variable {naming : Naming}

lemma copies_outcome {value : Option Piece} (o : Outcome)
    (hvalue : ∀ p ∈ value, copies [p] = []) : copies (o.line value) = [] := by
  unfold Outcome.line
  cases value with
  | none => cases o <;> rfl
  | some p =>
    have hp : ∀ l, copies (p :: l) = copies l := fun l => by
      rw [← List.singleton_append, copies_append, hvalue p rfl, List.nil_append]
    cases o <;> simp [hp]

lemma remarks_clientDispatch (branches : List ClientBranch) :
    remarks (ClientBranch.dispatch naming branches) = [] := by
  have hread : ∀ b : ClientBranch, copies (b.readLine naming) = [] := by
    intro b
    unfold ClientBranch.readLine
    cases b.payload <;> simp
  have hreturn : ∀ b : ClientBranch, copies b.returnLine = [] := by
    intro b
    have hvalue : ∀ p ∈ b.value?, copies [p] = [] := by
      unfold ClientBranch.value?
      cases b.payload <;> simp
    simp [ClientBranch.returnLine, copies_outcome b.outcome hvalue]
  simp [ClientBranch.dispatch, ClientBranch.branchCode, hread, hreturn, List.flatMap_map]

lemma remarks_serviceDispatch {call : Line} (hcall : copies call = []) (arms : List ServiceArm) :
    remarks (ServiceArm.dispatch call arms) = [] := by
  have harm : ∀ a : ServiceArm, copies a.line = [] := by
    intro a
    have hvalue : ∀ p ∈ a.pattern?, copies [p] = [] := by
      unfold ServiceArm.pattern?
      cases a.payload <;> simp
    have hwriter : copies a.writerLine = [] := by
      unfold ServiceArm.writerLine
      cases a.payload <;> simp
    simp [ServiceArm.line, copies_outcome a.outcome hvalue, hwriter]
  simp [ServiceArm.dispatch, ServiceArm.errorLine, hcall, harm, List.flatMap_map]

end Dispatches

section Handlers

variable {naming : Naming}

lemma copies_badRequest {place message : String} {faults : Line} (h : copies faults = []) :
    copies (Handler.badRequest place message faults) = [] := by
  simp [Handler.badRequest, Handler.log, h]

lemma remarks_contentTypeCode (expected : String) :
    remarks (Handler.contentTypeCode expected) = [] := by
  simp [Handler.contentTypeCode, Handler.log]

lemma remarks_formGroup (fields : List ParamCodec) (multipart : Bool) :
    remarks ((Handler.formGroup multipart).code naming fields) = [] := by
  refine remarks_groupCode fields ?_ fun _ => copies_badRequest
  cases multipart <;> rfl

lemma remarks_handlerBody (body : BodyShape) : remarks (Handler.bodyCode naming body) = [] := by
  have hcall : copies Handler.multipartCall = [] := rfl
  have hrefusal : remarks Handler.refusalArm = [] := rfl
  unfold Handler.bodyCode
  cases body with
  | none => rfl
  | text => simp [Handler.textCode, remarks_contentTypeCode, Handler.log]
  | json type => simp [Handler.jsonCode, remarks_contentTypeCode, hrefusal]
  | form structName fields multipart =>
    dsimp only
    rw [remarks_append, remarks_contentTypeCode, List.nil_append]
    split
    · cases multipart <;> simp [Handler.emptyFormCode, hcall, Handler.log]
    · cases multipart <;>
        simp [Handler.fieldsCode, hcall, hrefusal, remarks_formGroup, List.flatMap_map]

lemma remarks_handler (traitName urlPrefix api : String) (s : Signature) :
    remarks (Handler.ofSignature naming traitName urlPrefix api s).code = [] := by
  have hextractors : ∀ l ∈ Handler.extractorsOf traitName s, copies l = [] := by
    intro l hl
    unfold Handler.extractorsOf at hl
    simp only [List.mem_append, List.mem_ite_nil_right, List.mem_singleton] at hl
    rcases hl with ((((rfl | ⟨-, rfl⟩) | ⟨-, rfl⟩) | ⟨-, rfl⟩) | ⟨-, rfl⟩) | ⟨-, rfl⟩ <;> rfl
  have hcall : copies (Handler.callLine s) = [] := by
    simp [Handler.callLine, List.flatMap_map]
  have hurl : remarks (Handler.urlGroup.code naming s.url) = [] :=
    remarks_groupCode s.url rfl fun _ _ => rfl
  have hheader : remarks (Handler.headerGroup.code naming s.header) = [] :=
    remarks_groupCode s.header rfl fun _ => copies_badRequest
  have hquery : remarks (Handler.queryGroup.code naming s.query) = [] :=
    remarks_groupCode s.query rfl fun _ => copies_badRequest
  unfold Handler.code Handler.ofSignature
  simp [hurl, hheader, hquery, remarks_handlerBody, remarks_serviceDispatch hcall, List.flatMap_map]
  exact hextractors

end Handlers

/-! ### Code that copies -/

/-- The comments on the types of an operation. -/
def typeRemarks (o : Operation) : List Line :=
  (match o.body with
    | .formData _ | .formUrlEncoded _ => [remark "/// Form fields of `" o.name "`."]
    | .empty | .rawString _ | .json _ _ => []) ++
  if o.responses.length = 1 then [] else [remark "/// Responses of `" o.name "`."]

section Operations

variable {e : Emission} {v : Version} {a : Api} {naming : Naming} {s : Signature}
  {sigs : List Signature}

/-- A signature has a form exactly if its operation has one, and an enum of responses exactly if
there is not one response. -/
lemma remarks_types {scope : Scope} {here : Location} {o : Operation}
    (h : Signature.ofOperation scope naming here o = .ok s) :
    remarks (s.formCode naming ++ s.responseCode naming) = typeRemarks o := by
  obtain ⟨rfl, -, hbody, -, -, -, variants, hvariants, hreturns⟩ := ofOperation_eq_ok_iff.1 h
  have hform : remarks (s.formCode naming) = match s.operation.body with
      | .formData _ | .formUrlEncoded _ => [remark "/// Form fields of `" s.operation.name "`."]
      | .empty | .rawString _ | .json _ _ => [] := by
    unfold Signature.formCode
    generalize s.body = body at hbody
    cases hbody with
    | none hbody => simp [hbody]
    | text hbody => simp [hbody]
    | json hbody _ => simp [hbody]
    | multipart hbody _ => simp [hbody, List.flatMap_map, remark]
    | urlEncoded hbody _ => simp [hbody, List.flatMap_map, remark]
  have hvariant : ∀ v : ResponseVariant, remarks (Signature.variantCode naming v) = [] := by
    intro v
    unfold Signature.variantCode
    split <;> simp
  have hresponse : remarks (s.responseCode naming) = if s.operation.responses.length = 1 then []
      else [remark "/// Responses of `" s.operation.name "`."] := by
    have hlength : variants.length = s.operation.responses.length :=
      (mapM_eq_ok_iff.1 hvariants).length_eq.symm
    unfold Signature.responseCode
    rw [hreturns, ← hlength]
    match variants with
    | [] => simp [Signature.returnsOf, remark]
    | [variant] => simp [Signature.returnsOf]
    | first :: second :: rest =>
      simp [Signature.returnsOf, hvariant, List.flatMap_map, remark]
  rw [remarks_append, hform, hresponse]
  rfl

lemma remarks_typesCode (h : e.signatures v a = .ok sigs) :
    remarks (Signature.typesCode e.naming sigs) = a.operations.flatMap typeRemarks := by
  have hmap : sigs.map (fun s => remarks (s.formCode e.naming ++ s.responseCode e.naming)) =
      a.operations.map typeRemarks := map_of_mapM h fun _ _ _ hs => remarks_types hs
  rw [Signature.typesCode, remarks_all, List.flatMap_map, List.flatMap_def, hmap, List.flatMap_def]

end Operations

/-- The comment on the request that a method of a client sends. -/
def sendsRemark (v : Version) (o : Operation) : Line :=
  remark ("/// Sends `" ++ o.endpoint.method.name ++ " ") (v.urlPrefix ++ o.endpoint.url) "`."

section Clients

variable {naming : Naming}

lemma copies_urlLine (url : String) (codecs : List ParamCodec) :
    copies (ClientMethod.urlLine url codecs) = [] := by
  have hargument : ∀ c : ParamCodec, copies c.urlArgument = [] := by
    intro c
    unfold ParamCodec.urlArgument
    split <;> simp [copies_formatCall]
  simp [ClientMethod.urlLine, hargument]

lemma remarks_queryCode (codecs : List ParamCodec) :
    remarks (ClientMethod.queryCode codecs) = [] := by
  unfold ClientMethod.queryCode
  split
  · rfl
  · rw [remarks_append, remarks_writingCode fun _ => rfl]
    simp

lemma remarks_headerCode (codecs : List ParamCodec) :
    remarks (ClientMethod.headerCode codecs) = [] := by
  unfold ClientMethod.headerCode
  split
  · rfl
  · change remarks (writingCode _ _ _ ++ .hanging _ _ _) = []
    rw [remarks_append, remarks_writingCode fun _ => rfl]
    simp

lemma remarks_methodPayload (body : BodyShape) : remarks (ClientMethod.bodyCode body) = [] := by
  have hform : ∀ multipart, remarks (ClientMethod.formCode multipart) = [] := by
    intro multipart
    cases multipart <;> simp [ClientMethod.formCode]
  unfold ClientMethod.bodyCode
  cases body with
  | none => rfl
  | text => simp
  | json type => simp
  | form structName fields multipart =>
    dsimp only
    split
    · simp [hform]
    · rw [remarks_append, remarks_writingCode fun _ => rfl, hform]
      rfl

/-- A method copies its URL into its comment. -/
lemma remarks_method (v : Version) (api : String) (s : Signature) (errors : List ErrorVariant) :
    remarks (ClientMethod.ofSignature naming v.urlPrefix api s errors).code =
      [sendsRemark v s.operation] := by
  have hcomment : remarks (ClientMethod.ofSignature naming v.urlPrefix api s errors).comment =
      [sendsRemark v s.operation] := by
    unfold ClientMethod.ofSignature
    dsimp only
    split <;> simp [sendsRemark, remark]
  have hbody : remarks (ClientMethod.ofSignature naming v.urlPrefix api s errors).body = [] := by
    unfold ClientMethod.ofSignature
    simp [copies_urlLine, remarks_queryCode, remarks_headerCode, remarks_methodPayload,
      remarks_clientDispatch]
  unfold ClientMethod.code
  simp [hcomment, hbody, copies_receiverLine]

end Clients

section Services

variable {e : Emission} {v : Version} {a : Api} {naming : Naming} {sigs : List Signature}

lemma remarks_traitMethodCode (s : Signature) : remarks (s.traitMethodCode naming) = [] := by
  simp [Signature.traitMethodCode, copies_receiverLine]

lemma remarks_spaced (codes : List Code) : remarks (spaced codes) = codes.flatMap remarks := by
  induction codes with
  | nil => rfl
  | cons code codes ih =>
    cases codes with
    | nil => simp [spaced]
    | cons next codes => simp [spaced, ih]

lemma remarks_serviceBody (h : e.signatures v a = .ok sigs) : remarks (e.serviceBody a sigs) =
    a.operations.flatMap typeRemarks ++ [remark "/// Operations of the `" a.name "` API."] := by
  simp [Emission.serviceBody, remarks_typesCode h, remarks_spaced, remarks_traitMethodCode,
    List.flatMap_map, remark]

lemma remarks_routerCode : remarks (e.routerCode v a sigs) =
    [remark "/// Router of the `" a.name "` API."] := by
  have hroute : ∀ g : RouteGroup, remarks g.code = [] := by
    intro g
    simp [RouteGroup.code, RouteGroup.methodLine, List.flatMap_map]
  simp [Emission.routerCode, hroute, List.flatMap_map, remark]

end Services

/-! ### Files -/

/-- The lines of a file that copy text. -/
def remarksOf (root : String) (f : TreeFile) : List Line :=
  match f.content with
  | .source s => remarks (s.code root)
  | .skeleton s => [remark "//! Implementation of the `" s.api "` API."]
  | .support _ | .index _ => []

/-- The comments on an API that copy text. -/
def apiRemarks (run : RunKind) (v : Version) (a : Api) : List Line :=
  match run with
  | .models => []
  | .client => a.operations.flatMap typeRemarks ++
    remark "/// Client of the `" a.name "` API." :: a.operations.map (sendsRemark v)
  | .service => a.operations.flatMap typeRemarks ++
    [remark "/// Operations of the `" a.name "` API.", remark "/// Router of the `" a.name "` API.",
      remark "//! Implementation of the `" a.name "` API."]

section Files

variable {e : Emission} {v : Version} {a : Api} {root : String} {f : TreeFile}
  {files : List TreeFile}

lemma remarks_source (s : SourceFile) : remarks (s.code root) = remarks s.body := by
  have himports : ∀ i : Imports, remarks i.code = [] := by
    intro i
    unfold Imports.code
    split
    · rfl
    · simp [List.flatMap_map]
  have hsubmodules : remarks s.submodulesCode = [] := by
    unfold SourceFile.submodulesCode
    split <;> simp
  have hparent :
      remarks (if s.opensParent then Code.texts ["use super::*;"] else .nothing) = [] := by
    split <;> simp
  simp [SourceFile.code, himports, hsubmodules, hparent]

lemma remarks_errorFile (h : e.errorFile = .ok f) : remarksOf root f = [] := by
  obtain ⟨variants, -, h⟩ := bind_eq_ok_iff.1 h
  obtain ⟨models, hmodels, h⟩ := bind_eq_ok_iff.1 h
  cases h
  refine (remarks_source _).trans ?_
  simp [SourceFile.plain, remarks_modelsCode hmodels, remarks_errorTypeCode]

lemma remarks_modelFiles (h : e.modelFiles v = .ok files) (hf : f ∈ files) :
    remarksOf root f = [] := by
  unfold Emission.modelFiles at h
  split at h
  · cases h
    cases hf
  · obtain ⟨body, hbody, h⟩ := bind_eq_ok_iff.1 h
    cases h
    obtain rfl := List.mem_singleton.1 hf
    exact (remarks_source _).trans (remarks_modelsCode hbody)

lemma remarks_rootRouterFile : remarksOf root e.rootRouterFile = [] := by
  refine (remarks_source _).trans ?_
  simp [SourceFile.plain, Emission.MergedApi.formalLine, Emission.MergedApi.mergeLine,
    List.flatMap_map]

lemma remarks_clientFile (h : e.clientFile v a = .ok f) :
    remarksOf root f = apiRemarks .client v a := by
  obtain ⟨sigs, hsigs, h⟩ := bind_eq_ok_iff.1 h
  obtain ⟨errors, -, h⟩ := bind_eq_ok_iff.1 h
  cases h
  have hmethods : sigs.map (fun s => sendsRemark v s.operation) =
      a.operations.map (sendsRemark v) :=
    map_of_mapM hsigs fun o _ s hs => by rw [(ofOperation_eq_ok_iff.1 hs).operation]
  have hbody : (e.clientMethods v a sigs errors).flatMap (fun m => remarks m.code) =
      a.operations.map (sendsRemark v) := by
    rw [← hmethods, Emission.clientMethods, List.flatMap_map, List.map_eq_flatMap]
    exact List.flatMap_congr fun s _ => remarks_method v a.name s errors
  have hstruct : remarks (Emission.clientStructCode a.name) =
      [remark "/// Client of the `" a.name "` API."] := by
    simp [Emission.clientStructCode, remark]
  have hconstructors : remarks Emission.clientConstructorsCode = [] := by
    simp [Emission.clientConstructorsCode]
  refine (remarks_source _).trans ?_
  simp [SourceFile.plain, remarks_typesCode hsigs, hstruct, hconstructors, hbody, apiRemarks,
    List.flatMap_map]

lemma mem_remarks_serviceFiles {l : Line} (h : e.serviceFiles v a = .ok files) :
    (∃ f ∈ files, l ∈ remarksOf root f) ↔ l ∈ a.operations.flatMap typeRemarks ++
      [remark "/// Operations of the `" a.name "` API.",
        remark "/// Router of the `" a.name "` API."] := by
  obtain ⟨sigs, hsigs, rfl⟩ := serviceFiles_source h
  have hhandlers : (e.handlers v a sigs).flatMap (fun h => remarks h.code) = [] := by
    simp [Emission.handlers, List.flatMap_map, remarks_handler]
  simp only [List.exists_mem_cons_iff, List.not_mem_nil, false_and, exists_false, or_false,
    remarksOf, remarks_source, remarks_serviceBody hsigs, remarks_append, remarks_routerCode,
    remarks_all, List.flatMap_map, remarks_blank, List.nil_append, hhandlers, List.append_nil]
  simp [or_assoc]

lemma remarks_skeletonFile (h : e.skeletonFile v a = .ok f) :
    remarksOf root f = [remark "//! Implementation of the `" a.name "` API."] := by
  obtain ⟨sigs, methods, -, rfl⟩ := skeletonFile_source h
  rfl

end Files

end ApiCodegen.Proofs
