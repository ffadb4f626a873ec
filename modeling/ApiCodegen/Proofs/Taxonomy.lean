import ApiCodegen.Proofs.Dispatch
import ApiCodegen.Wire.Response

/-!
# The error taxonomy on both sides

The service has one error variant and one arm for each error response, the standard ones first, and
writes the code of the response. The client has the same variants, and a method that gets a code
which its operation does not declare takes the branch of the error with that code. Both rest on the
tags: validation has compared these, and the table gives each its own code and its own name.
-/

namespace ApiCodegen.Proofs

/-! ### Entries -/

/-- The responses of the standard errors, or those that a description declares. -/
def declaredErrors (e : HttpErrors) (standard : Bool) : List ErrorResponse :=
  bif standard then HttpErrors.standardResponses else e.responses

/-- An error as it is made from a response of the taxonomy. -/
structure Entry (naming : Naming) (e : HttpErrors) (r : ErrorResponse) (x : ErrorVariant) :
    Prop where
  name : x.name = naming.variantName r.status
  status : x.status = r.status
  code : statusCode? r.status = some x.code
  type : ∃ here, (Scope.ofErrors e).resolve here r.type = .ok x.type
  standard : r ∈ declaredErrors e x.standard

section Entries

variable {naming : Naming} {e : HttpErrors} {variants : List ErrorVariant} {r : ErrorResponse}
  {x : ErrorVariant}

lemma entry_of_ofResponse {standard : Bool}
    (hr : r ∈ declaredErrors e standard)
    (h : ErrorVariant.ofResponse (.ofErrors e) naming standard r = .ok x) :
    Entry naming e r x := by
  unfold ErrorVariant.ofResponse at h
  cases hcode : statusCode? r.status with
  | none => simp [hcode] at h
  | some code =>
    simp only [hcode] at h
    obtain ⟨type, htype, hx⟩ := bind_eq_ok_iff.1 h
    cases hx
    exact ⟨rfl, rfl, hcode, ⟨_, htype⟩, hr⟩

lemma entries_of_mapM {standard : Bool} (h : (declaredErrors e standard).mapM
    (ErrorVariant.ofResponse (.ofErrors e) naming standard) = .ok variants) :
    List.Forall₂ (Entry naming e) (declaredErrors e standard) variants := by
  refine List.forall₂_iff_zip.2 ⟨(mapM_eq_ok_iff.1 h).length_eq, fun hzip => ?_⟩
  have hvariant := (List.forall₂_iff_zip.1 (mapM_eq_ok_iff.1 h)).2 hzip
  exact entry_of_ofResponse (List.of_mem_zip hzip).1 hvariant

/-- The errors are those of the responses, one by one. -/
theorem entries_of_ofErrors (h : ErrorVariant.ofErrors naming e = .ok variants) :
    List.Forall₂ (Entry naming e) e.allResponses variants := by
  obtain ⟨standard, hstandard, h⟩ := bind_eq_ok_iff.1 h
  obtain ⟨own, hown, h⟩ := bind_eq_ok_iff.1 h
  cases h
  have hfirst : List.Forall₂ (Entry naming e) (declaredErrors e true) standard :=
    entries_of_mapM hstandard
  have hsecond : List.Forall₂ (Entry naming e) (declaredErrors e false) own :=
    entries_of_mapM hown
  exact List.rel_append hfirst hsecond

end Entries

/-! ### Names and codes -/

section Distinct

variable {e : HttpErrors} {naming : Naming} {variants : List ErrorVariant} {x : ErrorVariant}

lemma statuses_nodup (h : ErrorRules e) : (e.allResponses.map (·.status)).Nodup := by
  have hstandard : HttpErrors.standardResponses.map (·.status) = standardErrors.map Prod.fst := rfl
  have hfixed : (standardErrors.map Prod.fst).Nodup := by decide
  unfold HttpErrors.allResponses
  rw [List.map_append, hstandard, List.nodup_append]
  refine ⟨hfixed, h.once, fun status hstatus other hother => ?_⟩
  obtain ⟨r, hr, rfl⟩ := List.mem_map.1 hother
  exact fun heq => h.notStandard r hr (heq ▸ hstatus)

lemma statuses_of_entries {rs : List ErrorResponse} (h : List.Forall₂ (Entry naming e) rs variants) :
    variants.map (·.status) = rs.map (·.status) := by
  induction h with
  | nil => rfl
  | cons hentry _ ih => rw [List.map_cons, List.map_cons, ih, hentry.status]

lemma entry_of_mem (h : List.Forall₂ (Entry naming e) e.allResponses variants)
    (hx : x ∈ variants) : ∃ r ∈ e.allResponses, Entry naming e r x :=
  exists_of_mem_forall₂ h hx

/-- What tells the tags of the table apart tells the errors apart. -/
lemma nodup_of_statuses {β : Type} {f : ErrorVariant → β} (hrules : ErrorRules e)
    (h : List.Forall₂ (Entry naming e) e.allResponses variants)
    (hf : ∀ x ∈ variants, ∀ y ∈ variants, f x = f y → x.status = y.status) :
    (variants.map f).Nodup := by
  have hstatuses : (variants.map (·.status)).Nodup := by
    rw [statuses_of_entries h]
    exact statuses_nodup hrules
  refine hstatuses.of_map.map_on fun x hx y hy heq => ?_
  exact List.inj_on_of_nodup_map hstatuses hx hy (hf x hx y hy heq)

lemma errorCodes_nodup (hrules : ErrorRules e)
    (h : List.Forall₂ (Entry naming e) e.allResponses variants) :
    (variants.map (·.code)).Nodup := by
  refine nodup_of_statuses hrules h fun x hx y hy heq => ?_
  obtain ⟨r, -, hr⟩ := entry_of_mem h hx
  obtain ⟨r', -, hr'⟩ := entry_of_mem h hy
  rw [hr.status, hr'.status]
  exact statusCode?_injective hr.code (heq ▸ hr'.code)

/-- The standard policy gives the tags of the table different names. -/
lemma pascalName_inj_on {tag tag' : String} {code code' : Nat} (h : statusCode? tag = some code)
    (h' : statusCode? tag' = some code')
    (hname : Naming.pascalName tag = Naming.pascalName tag') : tag = tag' := by
  have hnames : (statusCodes.map fun entry => Naming.pascalName entry.1).Nodup := by
    decide +kernel
  have hentry := List.inj_on_of_nodup_map hnames (mem_of_statusCode? h) (mem_of_statusCode? h')
    hname
  exact congrArg Prod.fst hentry

lemma errorNames_nodup (hrules : ErrorRules e)
    (h : List.Forall₂ (Entry .standard e) e.allResponses variants) :
    (variants.map (·.name)).Nodup := by
  refine nodup_of_statuses hrules h fun x hx y hy heq => ?_
  obtain ⟨r, -, hr⟩ := entry_of_mem h hx
  obtain ⟨r', -, hr'⟩ := entry_of_mem h hy
  rw [hr.status, hr'.status]
  refine pascalName_inj_on hr.code hr'.code ?_
  rw [hr.name, hr'.name] at heq
  exact heq

end Distinct

/-! ### What is written for an error -/

/-- The call that an error is handled by. -/
def callText : ErrorVariant.Handling → String
  | .badRequest => "respond::bad_request(log_fields, error),"
  | .notFound => "respond::not_found(log_fields, error.message),"
  | .internal => "respond::internal_server_error("
  | .document code => "respond::json(log_fields, " ++ toString code ++ ", &error),"

/-- The responses that the call may write. -/
def Writes : ErrorVariant.Handling → HttpResponse → Prop
  | .badRequest, response => ∃ body, response = .badRequest body
  | .notFound, response => ∃ message, response = .notFound message
  | .internal, response => ∃ message, response = .internalServerError message
  | .document code, response => ∃ body, response = .json code body

section Handled

variable {e : HttpErrors} {variants : List ErrorVariant} {x : ErrorVariant} {r : ErrorResponse}

lemma validStatus_of_statusCode? {tag : String} {code : Nat} (h : statusCode? tag = some code) :
    HttpResponse.validStatus code = code := by
  have hrange : ∀ entry ∈ statusCodes, HttpResponse.validStatus entry.2 = entry.2 := by decide
  exact hrange _ (mem_of_statusCode? h)

/-- The three standard errors have a writer each, and any other is written as a document. -/
lemma handling_status (h : Entry .standard e r x) : x.handling.status = x.code := by
  have hnames : Naming.pascalName "bad_request" = "BadRequest" ∧
      Naming.pascalName "not_found" = "NotFound" ∧
      Naming.pascalName "internal_server_error" = "InternalServerError" := by decide +kernel
  have hname : x.name = Naming.pascalName r.status := h.name
  have hcode := h.code
  have hdeclared := h.standard
  unfold ErrorVariant.handling
  cases hstandard : x.standard with
  | false => rfl
  | true =>
    rw [hstandard] at hdeclared
    have hthree : r.status = "bad_request" ∨ r.status = "not_found" ∨
        r.status = "internal_server_error" := by
      have hall : ∀ r ∈ HttpErrors.standardResponses, r.status = "bad_request" ∨
          r.status = "not_found" ∨ r.status = "internal_server_error" := by decide
      exact hall r hdeclared
    rcases hthree with hstatus | hstatus | hstatus
    · rw [hstatus] at hcode hname
      rw [hname, hnames.1]
      exact Option.some.inj hcode
    · rw [hstatus] at hcode hname
      rw [hname, hnames.2.1]
      exact Option.some.inj hcode
    · rw [hstatus] at hcode hname
      rw [hname, hnames.2.2]
      exact Option.some.inj hcode

lemma status_of_writes {response : HttpResponse} (h : Entry .standard e r x)
    (hwrites : Writes x.handling response) : response.status = x.code := by
  have hstatus := handling_status h
  cases hhandling : x.handling with
  | badRequest =>
    rw [hhandling] at hwrites hstatus
    obtain ⟨body, rfl⟩ := hwrites
    exact hstatus
  | notFound =>
    rw [hhandling] at hwrites hstatus
    obtain ⟨message, rfl⟩ := hwrites
    exact hstatus
  | internal =>
    rw [hhandling] at hwrites hstatus
    obtain ⟨message, rfl⟩ := hwrites
    exact hstatus
  | document code =>
    rw [hhandling] at hwrites hstatus
    obtain ⟨body, rfl⟩ := hwrites
    have hcode : code = x.code := hstatus
    rw [hcode]
    exact validStatus_of_statusCode? h.code

end Handled

/-! ### Enums and arms -/

/-- The bodies of the blocks with a head. -/
def bodiesOf (head : String) : Code → List Code
  | .block _ line body _ =>
    (if line.render = head then [body] else []) ++ bodiesOf head body
  | .seq first second => bodiesOf head first ++ bodiesOf head second
  | .hanging _ body _ => bodiesOf head body
  | .nothing | .line _ | .arm _ | .blank | .doc _ | .stray _ => []

/-- The pieces of code that stand one after the other. -/
def inSequence : Code → List Code
  | .nothing => []
  | .seq first second => inSequence first ++ inSequence second
  | code => [code]

/-- The first line of an arm matches an error and calls the writer that handles it. -/
def Handles (x : ErrorVariant) (arm : Code) : Prop :=
  arm.lines.head?.map Line.render =
    some ("ServiceError::" ++ x.name ++ "(error) => " ++ callText x.handling)

section Emitted

variable {naming : Naming} {variants : List ErrorVariant} {x : ErrorVariant} {head : String}

@[simp] lemma bodiesOf_append (first second : Code) :
    bodiesOf head (first ++ second) = bodiesOf head first ++ bodiesOf head second := rfl

@[simp] lemma bodiesOf_all (codes : List Code) :
    bodiesOf head (.all codes) = codes.flatMap (bodiesOf head) := by
  induction codes with
  | nil => rfl
  | cons code codes ih =>
    rw [List.flatMap_cons, ← ih]
    rfl

@[simp] lemma bodiesOf_texts (lines : List String) : bodiesOf head (.texts lines) = [] := by
  simp [Code.texts, bodiesOf]

@[simp] lemma bodiesOf_braces (line : Line) (body : Code) : bodiesOf head (.braces line body) =
    (if line.render = head then [body] else []) ++ bodiesOf head body := rfl

lemma bodiesOf_valueCode : bodiesOf head (x.valueCode naming) = [] := rfl

lemma bodiesOf_serviceVariant : bodiesOf head (serviceVariantCode naming x) = [] := by
  unfold serviceVariantCode
  split
  · simp [bodiesOf, ErrorVariant.docCode]
  · rw [bodiesOf_append, bodiesOf_valueCode]
    rfl

lemma bodiesOf_respondArm : bodiesOf head (respondArm x) = [] := by
  unfold respondArm
  cases x.handling <;> rfl

@[simp] lemma declared_append (first second : Code) :
    (first ++ second).declared = first.declared ++ second.declared := List.flatMap_append

@[simp] lemma declared_all (codes : List Code) :
    (Code.all codes).declared = codes.flatMap Code.declared := by
  unfold Code.declared
  rw [lines_all, List.flatMap_assoc]

@[simp] lemma declared_texts (lines : List String) : (Code.texts lines).declared = [] := by
  rw [Code.texts, declared_all, List.flatMap_map]
  exact List.flatMap_eq_nil_iff.2 fun _ _ => rfl

lemma declared_valueCode : (x.docCode ++ x.valueCode naming).declared = [x.name] := rfl

lemma declared_serviceVariant : (serviceVariantCode naming x).declared = [x.name] := by
  unfold serviceVariantCode
  split
  · rfl
  · rfl

lemma declared_variants {f : ErrorVariant → Code} (hf : ∀ x, (f x).declared = [x.name]) :
    (Code.all (variants.map f)).declared = variants.map (·.name) := by
  rw [declared_all, List.flatMap_map]
  simp only [hf, List.map_eq_flatMap]

lemma serviceError_declares :
    (bodiesOf "pub enum ServiceError" (serviceErrorCode naming variants)).map Code.declared =
      [variants.map (·.name)] := by
  have hbodies : bodiesOf "pub enum ServiceError" (serviceErrorCode naming variants) =
      [.all (variants.map (serviceVariantCode naming))] := by
    simp [serviceErrorCode, causeType, Line.render, Piece.render, List.flatMap_map,
      bodiesOf_serviceVariant, bodiesOf_respondArm, bodiesOf]
  rw [hbodies, List.map_singleton, declared_variants fun x => declared_serviceVariant]

lemma clientError_declares :
    (bodiesOf "pub enum ClientError" (clientErrorCode naming variants)).map Code.declared =
      [variants.map (·.name)] := by
  have hnone : variants.flatMap (fun x => bodiesOf "pub enum ClientError"
      (x.docCode ++ x.valueCode naming)) = [] := List.flatMap_eq_nil_iff.2 fun x _ => rfl
  change (bodiesOf _ (.texts _ ++ .braces _ (.all _ ++ .texts _))).map Code.declared = _
  rw [bodiesOf_append, bodiesOf_texts, bodiesOf_braces, bodiesOf_append, bodiesOf_all,
    List.flatMap_map, hnone, bodiesOf_texts]
  simp only [if_pos (show Line.render [.text "pub enum ", .declares "ClientError"] =
    "pub enum ClientError" by decide), List.nil_append, List.append_nil, List.map_singleton,
    declared_append, declared_variants fun x => declared_valueCode, declared_texts]

lemma respondError_arms :
    bodiesOf "match error" (serviceErrorCode naming variants) =
      [.all (variants.map respondArm)] := by
  have hnone : variants.flatMap (fun _ => ([] : List Code)) = [] := by simp
  simp [serviceErrorCode, causeType, Line.render, Piece.render, List.flatMap_map,
    bodiesOf_serviceVariant, bodiesOf_respondArm, bodiesOf, hnone]

@[simp] lemma inSequence_append (first second : Code) :
    inSequence (first ++ second) = inSequence first ++ inSequence second := rfl

@[simp] lemma inSequence_all (codes : List Code) :
    inSequence (.all codes) = codes.flatMap inSequence := by
  induction codes with
  | nil => rfl
  | cons code codes ih =>
    rw [List.flatMap_cons, ← ih]
    rfl

lemma inSequence_arms : inSequence (.all (variants.map respondArm)) = variants.map respondArm := by
  have harm : ∀ x, inSequence (respondArm x) = [respondArm x] := by
    intro x
    unfold respondArm
    cases x.handling <;> rfl
  rw [inSequence_all, List.flatMap_map, List.map_eq_flatMap]
  exact List.flatMap_congr fun x _ => harm x

lemma render_pattern (call : Line) :
    Line.render ([.text "ServiceError::", .item x.name, .text "(", .newLocal "error",
      .text ") => "] ++ call) = "ServiceError::" ++ x.name ++ "(error) => " ++ call.render := by
  rw [← String.toList_inj]
  simp [Line.render, Piece.render, Piece.newLocal]

lemma handles_of_call {arm : Code} {call : Line}
    (harm : arm.lines.head? = some ([.text "ServiceError::", .item x.name, .text "(",
      .newLocal "error", .text ") => "] ++ call)) (hcall : call.render = callText x.handling) :
    Handles x arm := by
  unfold Handles
  rw [harm, Option.map_some, render_pattern, hcall]

lemma handles_respondArm : Handles x (respondArm x) := by
  cases hhandling : x.handling with
  | badRequest =>
    refine handles_of_call (by rw [respondArm, hhandling]; rfl) ?_
    rw [hhandling]
    decide +kernel
  | notFound =>
    refine handles_of_call (by rw [respondArm, hhandling]; rfl) ?_
    rw [hhandling]
    decide +kernel
  | internal =>
    refine handles_of_call (by rw [respondArm, hhandling]; rfl) ?_
    rw [hhandling]
    decide +kernel
  | document code =>
    refine handles_of_call (by rw [respondArm, hhandling]; rfl) ?_
    rw [hhandling]
    change _ = "respond::json(log_fields, " ++ toString code ++ ", &error),"
    rw [← String.toList_inj]
    simp [Line.render, Piece.render, Piece.ofLocal]

end Emitted

/-! ### Dispatch of error codes -/

/-- The branch of an error in the methods of a client. -/
def errorBranch (x : ErrorVariant) : ClientBranch := ⟨x.code, .json x.type, .failure x.name⟩

section Branches

variable {naming : Naming} {sig : Signature} {variants : List ErrorVariant} {x : ErrorVariant}

/-- A code that no response declares leads past the responses to the error with that code. -/
lemma select_error (hdeclared : ∀ v ∈ sig.returns.variants, v.code ≠ x.code)
    (hcodes : (variants.map (·.code)).Nodup) (hx : x ∈ variants) :
    ClientBranch.select (ClientBranch.ofSignature sig variants) x.code = some (errorBranch x) := by
  have hcodes : ((variants.map errorBranch).map (·.code)).Nodup := by
    rw [List.map_map]
    exact hcodes
  have herror : (variants.map errorBranch).find? (·.code == x.code) = some (errorBranch x) :=
    find?_of_nodup_map hcodes (List.mem_map_of_mem hx)
  have hresponses : (sig.returns.variants.map fun v =>
      (⟨v.code, v.payload, sig.returns.outcome v⟩ : ClientBranch)).find? (·.code == x.code) =
      none := by
    rw [List.find?_eq_none]
    intro b hb
    obtain ⟨v, hv, rfl⟩ := List.mem_map.1 hb
    rw [beq_iff_eq]
    exact hdeclared v hv
  unfold ClientBranch.select ClientBranch.ofSignature
  rw [List.find?_append, hresponses]
  exact herror

lemma render_readError : ((errorBranch x).readLine naming).render =
    "let error: " ++ x.type.render naming .inApi ++ " = response::json(http_response)?;" := by
  rw [← String.toList_inj]
  simp [ClientBranch.readLine, errorBranch, ClientBranch.valueVar, ResolvedType.render, Line.render,
    Piece.render, Piece.ofLocal]

lemma render_returnError : (errorBranch x).returnLine.render =
    "return Err(ClientError::" ++ x.name ++ "(error));" := by
  rw [← String.toList_inj]
  simp [ClientBranch.returnLine, errorBranch, ClientBranch.valueVar, ClientBranch.value?,
    Outcome.line, Line.render, Piece.render]

end Branches

/-! ### Both sides -/

/-- What a method does with the code of an error. -/
structure TakesError (sig : Signature) (variants : List ErrorVariant) (x : ErrorVariant) : Prop where
  /-- The first test that holds is that of the error, and the emitted tests run its branch. -/
  selected : ClientBranch.select (ClientBranch.ofSignature sig variants) x.code =
    some (errorBranch x)
  run : trace x.code (ClientBranch.dispatch .standard (ClientBranch.ofSignature sig variants)) =
    (branchLines .standard (errorBranch x), true)
  read : ((errorBranch x).readLine .standard).render =
    "let error: " ++ x.type.render .standard .inApi ++ " = response::json(http_response)?;"
  returned : (errorBranch x).returnLine.render =
    "return Err(ClientError::" ++ x.name ++ "(error));"

/-- What service and client make of the error taxonomy. -/
structure Taxonomy (e : Emission) (variants : List ErrorVariant) : Prop where
  entries : List.Forall₂ (Entry e.naming e.spec.httpErrors) e.spec.httpErrors.allResponses variants
  names : (variants.map (·.name)).Nodup
  codes : (variants.map (·.code)).Nodup
  /-- The error file ends with the error type of the run, which has the errors for variants. -/
  file : ∃ f models, e.errorFile = .ok ⟨⟨.generated, [], "errors"⟩, .source f⟩ ∧
    f.body = models ++ e.errorTypeCode variants
  service : (bodiesOf "pub enum ServiceError" (serviceErrorCode e.naming variants)).map
    Code.declared = [variants.map (·.name)]
  client : (bodiesOf "pub enum ClientError" (clientErrorCode e.naming variants)).map
    Code.declared = [variants.map (·.name)]
  /-- The arms handle the errors one by one, and what they write has the codes of the errors. -/
  arms : ∃ body, bodiesOf "match error" (serviceErrorCode e.naming variants) = [body] ∧
    List.Forall₂ Handles variants (inSequence body)
  status : ∀ x ∈ variants, x.handling.status = x.code
  written : ∀ x ∈ variants, ∀ response, Writes x.handling response → response.status = x.code

section Sides

variable {e : HttpErrors} {variants : List ErrorVariant}

lemma forall₂_handles : List.Forall₂ Handles variants (variants.map respondArm) := by
  induction variants with
  | nil => exact .nil
  | cons x variants ih => exact .cons handles_respondArm ih

lemma taxonomy_of_rules {spec : Spec} (hrules : ErrorRules spec.httpErrors)
    (h : ErrorVariant.ofErrors .standard spec.httpErrors = .ok variants) (config : Config)
    (run : RunKind) : Taxonomy ⟨spec, config, .standard, run⟩ variants := by
  have hentries := entries_of_ofErrors h
  obtain ⟨models, hmodels⟩ : Succeeds (modelsCode (.ofErrors spec.httpErrors) .standard .inErrors
      ((Location.root.child "http_errors").child "models") spec.httpErrors.models) :=
    succeeds_modelsCode hrules.models
  refine ⟨hentries, errorNames_nodup hrules hentries, errorCodes_nodup hrules hentries, ?_,
    serviceError_declares, clientError_declares, ⟨_, respondError_arms, ?_⟩, fun x hx => ?_,
    fun x hx response hwrites => ?_⟩
  · exact ⟨_, models, bind_eq_ok_iff.2 ⟨variants, h, bind_eq_ok_iff.2 ⟨models, hmodels, rfl⟩⟩, rfl⟩
  · rw [inSequence_arms]
    exact forall₂_handles
  · obtain ⟨r, -, hr⟩ := entry_of_mem hentries hx
    exact handling_status hr
  · obtain ⟨r, -, hr⟩ := entry_of_mem hentries hx
    exact status_of_writes hr hwrites

lemma takesError_of_signature {s : Scope} {o : Operation} {here : Location} {sig : Signature}
    (hrules : ErrorRules e) (herrors : ErrorVariant.ofErrors .standard e = .ok variants)
    (h : Signature.ofOperation s .standard here o = .ok sig) {x : ErrorVariant} (hx : x ∈ variants)
    (hundeclared : ∀ r ∈ o.responses, statusCode? r.status ≠ some x.code) :
    TakesError sig variants x := by
  obtain ⟨hresponses, hdeclared⟩ := variants_of_signature h
  have hcodes : ∀ v ∈ sig.returns.variants, v.code ≠ x.code := by
    intro v hv heq
    have hr : v.response ∈ o.responses := hresponses ▸ List.mem_map_of_mem hv
    exact hundeclared _ hr (heq ▸ (hdeclared v hv).code)
  have hselected : ClientBranch.select (ClientBranch.ofSignature sig variants) x.code =
      some (errorBranch x) :=
    select_error hcodes (errorCodes_nodup hrules (entries_of_ofErrors herrors)) hx
  refine ⟨hselected, ?_, render_readError, render_returnError⟩
  rw [trace_dispatch, hselected]

end Sides

/-- Service and client agree on every error taxonomy that validation accepts, and every operation
that it accepts leaves the codes that it does not declare to the taxonomy. -/
theorem validated_taxonomy (spec : Spec) (config : Config) (run : RunKind)
    (h : Validation.checkErrors spec.httpErrors = .ok ()) :
    ∃ variants, ErrorVariant.ofErrors .standard spec.httpErrors = .ok variants ∧
      Taxonomy ⟨spec, config, .standard, run⟩ variants ∧
      ∀ s here there o, Validation.checkOperation s .standard here o = .ok () →
        ∃ sig, Signature.ofOperation s .standard there o = .ok sig ∧
          ∀ x ∈ variants, (∀ r ∈ o.responses, statusCode? r.status ≠ some x.code) →
            TakesError sig variants x := by
  have hrules := checkErrors_eq_ok_iff.1 h
  obtain ⟨variants, hvariants⟩ : Succeeds (ErrorVariant.ofErrors .standard spec.httpErrors) :=
    succeeds_ofErrors hrules
  refine ⟨variants, hvariants, taxonomy_of_rules hrules hvariants config run, ?_⟩
  intro s here there o ho
  obtain ⟨sig, hsig⟩ : Succeeds (Signature.ofOperation s .standard there o) :=
    succeeds_ofOperation (checkOperation_eq_ok_iff.1 ho)
  exact ⟨sig, hsig, fun x hx => takesError_of_signature hrules hvariants hsig hx⟩

/-- The errors of the shop, and an operation that declares a conflict and no other error. -/
theorem validated_taxonomy_shop :
    Validation.checkErrors shop.httpErrors = .ok () ∧
      Validation.checkOperation (.ofVersion shopVersion shop.httpErrors) .standard .root putOrder =
        .ok () ∧
      ∃ variants, ErrorVariant.ofErrors .standard shop.httpErrors = .ok variants ∧
        Taxonomy ⟨shop, .standard, .standard, .service⟩ variants ∧
        ∃ sig, Signature.ofOperation (.ofVersion shopVersion shop.httpErrors) .standard .root
            putOrder = .ok sig ∧
          ∀ x ∈ variants, x.code = 403 → TakesError sig variants x := by
  have he : Validation.checkErrors shop.httpErrors = .ok () := by decide +kernel
  have ho : Validation.checkOperation (.ofVersion shopVersion shop.httpErrors) .standard .root
      putOrder = .ok () := by decide +kernel
  obtain ⟨variants, hvariants, htaxonomy, hoperations⟩ :=
    validated_taxonomy shop .standard .service he
  obtain ⟨sig, hsig, htakes⟩ := hoperations _ .root .root putOrder ho
  refine ⟨he, ho, variants, hvariants, htaxonomy, sig, hsig, fun x hx hcode => htakes x hx ?_⟩
  have hundeclared : ∀ r ∈ putOrder.responses, statusCode? r.status ≠ some 403 := by decide
  rwa [hcode]

end ApiCodegen.Proofs
