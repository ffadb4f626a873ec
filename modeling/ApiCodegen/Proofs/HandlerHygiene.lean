import ApiCodegen.Proofs.Hygiene

/-!
# Hygienic handlers

In a handler every use of a variable refers to the variable that it stands for. The stages are taken
one after the other: the groups of parameters, the payload, and the dispatch on what the service
returns. Each needs the log fields and what an extractor has introduced for it.
-/

namespace ApiCodegen.Proofs

section Stages

variable {scope : List Var} {naming : Naming} {v : Var}

/-! ### Stages of a handler -/

lemma hygienic_contentType {expected : String} (hlog : Provides scope (own "log_fields"))
    (hheaders : Provides scope (own "request_headers")) :
    Hygienic scope (Handler.contentTypeCode expected) := by
  refine hygienic_braces.2 ⟨?_, hygienic_line.2 ?_⟩
  · simp [Handler.log, Piece.ofLocal, Piece.newLocal, hlog, hheaders]
  · intro w hw
    have hresponse : w = own "response" := by simpa [Piece.ofLocal] using hw
    rw [hresponse]
    refine provides_line_of_binds ?_ ?_
    · simp [Piece.newLocal]
    · simp [Handler.log, Piece.newLocal, Piece.ofLocal]

lemma hygienic_refusalArm (hlog : Provides scope (own "log_fields")) :
    Hygienic scope Handler.refusalArm := by
  have hne : key (own "error") ≠ key (own "log_fields") := by decide
  refine hygienic_arm_of (w := own "error") ?_ ?_
  · simp [Handler.log, Piece.newLocal, Piece.ofLocal]
  · simp [Handler.log, Piece.newLocal, Piece.ofLocal, hlog, hne]

/-- The arm that passes the payload on. -/
lemma hygienic_payloadArm :
    Hygienic scope (.arm [.text "Ok(", .binds Signature.bodyVar, .text ") => ",
      .reads Signature.bodyVar, .text ","]) := by
  refine hygienic_arm_of (w := Signature.bodyVar) ?_ ?_
  · simp
  · simp

lemma hygienic_textCode (hlog : Provides scope (own "log_fields"))
    (hheaders : Provides scope (own "request_headers"))
    (hbytes : Provides scope (own "request_body")) : Hygienic scope Handler.textCode := by
  have hne : key (own "error") ≠ key (own "log_fields") := by decide
  refine (hygienic_append_of_nil rfl).2
    ⟨hygienic_contentType hlog hheaders, hygienic_after.2 ⟨?_, ?_, ?_⟩⟩
  · simpa [Piece.ofLocal] using hbytes
  · refine (hygienic_append_of_nil rfl).2
      ⟨hygienic_payloadArm, hygienic_braces.2 ⟨by simp [Piece.newLocal], ?_⟩⟩
    have herror : Provides (lineBinds [.text "Err(", .newLocal "error", .text ") =>"] ++ scope)
        (own "error") :=
      provides_line_of_binds (by simp [Piece.newLocal]) (by simp [Piece.newLocal])
    have hlog' : Provides (lineBinds [.text "Err(", .newLocal "error", .text ") =>"] ++ scope)
        (own "log_fields") := hlog.line (by simp [Piece.newLocal, hne])
    refine hygienic_of_reads ?_ ?_
    · simp [Code.lines, Code.texts, Code.all, Handler.log, Piece.ofLocal]
    · simp [Code.lines, Code.texts, Code.all, Handler.log, Piece.ofLocal, herror, hlog']
  · simp

lemma hygienic_jsonCode {type : ResolvedType} (hlog : Provides scope (own "log_fields"))
    (hheaders : Provides scope (own "request_headers"))
    (hbytes : Provides scope (own "request_body")) :
    Hygienic scope (Handler.jsonCode naming type) := by
  refine (hygienic_append_of_nil rfl).2
    ⟨hygienic_contentType hlog hheaders, hygienic_after.2 ⟨?_, ?_, ?_⟩⟩
  · simpa [Piece.ofLocal] using hbytes
  · exact (hygienic_append_of_nil rfl).2 ⟨hygienic_payloadArm, hygienic_refusalArm hlog⟩
  · simp

lemma hygienic_emptyFormCode {structName : String} {multipart : Bool}
    (hlog : Provides scope (own "log_fields"))
    (hmultipart : multipart = true → Provides scope (own "multipart_body")) :
    Hygienic scope (Handler.emptyFormCode structName multipart) := by
  have hne : key (own "error") ≠ key (own "log_fields") := by decide
  have hstruct : ∀ scope, Hygienic scope (.line [.text "let ", .binds Signature.bodyVar,
      .text " = ", .spelled (.named "" structName), .text " \x7b\x7d;"]) := by
    intro scope
    rw [hygienic_line]
    simp
  cases multipart with
  | false => exact (hygienic_append_of_nil rfl).2 ⟨hygienic_nothing, hstruct scope⟩
  | true =>
    refine (hygienic_append_of_nil rfl).2
      ⟨hygienic_braces.2 ⟨?_, hygienic_line.2 ?_⟩, hstruct scope⟩
    · simp [Handler.multipartCall, Piece.newLocal, Piece.ofLocal, hmultipart rfl]
    · have herror : Provides (lineBinds ([.text "if let Err(", .newLocal "error", .text ") = "] ++
          Handler.multipartCall) ++ scope) (own "error") :=
        provides_line_of_binds (by simp [Piece.newLocal])
          (by simp [Handler.multipartCall, Piece.newLocal, Piece.ofLocal])
      have hlog' : Provides (lineBinds ([.text "if let Err(", .newLocal "error", .text ") = "] ++
          Handler.multipartCall) ++ scope) (own "log_fields") :=
        hlog.line (by simp [Handler.multipartCall, Piece.newLocal, Piece.ofLocal, hne])
      simp only [List.cons_append, List.nil_append] at herror hlog'
      simp [Handler.log, Piece.ofLocal, herror, hlog']

/-- The statement that takes the pairs out of a form of several parts. -/
lemma hygienic_pairsCode (hlog : Provides scope (own "log_fields"))
    (hmultipart : Provides scope (own "multipart_body")) :
    Hygienic scope (.block .after
      ([.text "let ", .newLocal "form_pairs", .text " = match "] ++ Handler.multipartCall)
      (.arm [.text "Ok(", .newLocal "pairs", .text ") => ", .ofLocal "pairs", .text ","] ++
        Handler.refusalArm)
      [.text "\x7d;"]) := by
  refine hygienic_after.2
    ⟨?_, (hygienic_append_of_nil rfl).2 ⟨?_, hygienic_refusalArm hlog⟩, by simp⟩
  · simp [Handler.multipartCall, Piece.newLocal, Piece.ofLocal, hmultipart]
  · refine hygienic_arm_of (w := own "pairs") ?_ ?_
    · simp [Piece.newLocal, Piece.ofLocal]
    · simp [Piece.newLocal, Piece.ofLocal]

/-- The variable with the pairs of a form, or with the bytes that they are read from. -/
def formSourceName (multipart : Bool) : String := if multipart then "form_pairs" else "request_body"

lemma readsFrom_formGroup (multipart : Bool) :
    ReadsFrom (Handler.formGroup multipart) (formSourceName multipart) := by
  cases multipart
  all_goals
    refine ⟨⟨rfl, by decide⟩, by decide, ?_, ?_, ?_⟩ <;>
      simp [Handler.formGroup, Handler.formSource, formSourceName, Handler.badRequest, Handler.log,
        Piece.ofLocal]

/-- The block that reads the fields of a form, wherever its pairs are found. -/
lemma hygienic_formBlock {structName : String} {fields : List ParamCodec} {multipart : Bool}
    (hfields : Distinct fields) (hlog : Provides scope (own "log_fields"))
    (hsource : Provides scope (own (formSourceName multipart))) :
    Hygienic scope (.block .after [.text "let ", .binds Signature.bodyVar, .text " ="]
      ((Handler.formGroup multipart).code naming fields ++
        .line ([.spelled (.named "" structName), .text " \x7b "] ++
          Line.joined ", " (fields.map fun c => [.reads c.var]) ++ [.text " \x7d"]))
      [.text "\x7d;"]) := by
  have hg := readsFrom_formGroup multipart
  have hgroup : Hygienic scope ((Handler.formGroup multipart).code naming fields) :=
    hygienic_group hg hfields (fun _ => hsource) hlog
  refine hygienic_after.2 ⟨by simp, hygienic_append.2 ⟨hgroup, hygienic_line.2 ?_⟩, by simp⟩
  intro w hw
  obtain ⟨c, hc, rfl⟩ : ∃ c ∈ fields, w = c.var := by simpa [mem_joined] using hw
  refine hfields.separate.provides (fun u hu => ?_) (introduced_group_of_mem hc)
  rcases mem_introduced_group hg hu with rfl | hfield
  · exact Or.inl hg.parser
  · exact Or.inr hfield

lemma hygienic_fieldsCode {structName : String} {fields : List ParamCodec} {multipart : Bool}
    (hfields : Distinct fields) (hlog : Provides scope (own "log_fields"))
    (hbytes : multipart = false → Provides scope (own "request_body"))
    (hmultipart : multipart = true → Provides scope (own "multipart_body")) :
    Hygienic scope (Handler.fieldsCode naming structName fields multipart) := by
  cases multipart with
  | false =>
    exact (hygienic_append_of_nil rfl).2
      ⟨hygienic_nothing, hygienic_formBlock hfields hlog (hbytes rfl)⟩
  | true =>
    have hne : key (own "form_pairs") ≠ key (own "log_fields") := by decide
    refine hygienic_append.2 ⟨hygienic_pairsCode hlog (hmultipart rfl),
      hygienic_formBlock hfields (hlog.line ?_) (provides_line_of_binds ?_ ?_)⟩
    · simp [Handler.multipartCall, Piece.newLocal, Piece.ofLocal, hne]
    · simp [Piece.newLocal, formSourceName]
    · simp [Handler.multipartCall, Piece.newLocal, Piece.ofLocal, formSourceName]

/-- The stage of the payload introduces the payload and, outside the block of a form, the pairs of a
form. -/
lemma mem_introduced_bodyCode {body : BodyShape} :
    v ∈ introduced (Handler.bodyCode naming body) ↔
      body ≠ .none ∧ v = Signature.bodyVar ∨
        Handler.isMultipart body = true ∧ fieldsOf body ≠ [] ∧ v = own "form_pairs" := by
  cases body with
  | none => simp [Handler.bodyCode, Handler.isMultipart, introduced]
  | text =>
    simp [Handler.bodyCode, Handler.textCode, Handler.contentTypeCode, Handler.isMultipart,
      Code.braces, introduced_append, introduced, mem_lineBinds, Piece.ofLocal]
  | json type =>
    simp [Handler.bodyCode, Handler.jsonCode, Handler.contentTypeCode, Handler.isMultipart,
      Code.braces, introduced_append, introduced, mem_lineBinds, Piece.ofLocal]
  | form structName fields multipart =>
    cases fields with
    | nil =>
      cases multipart <;>
        simp [Handler.bodyCode, Handler.emptyFormCode, Handler.contentTypeCode, Handler.isMultipart,
          fieldsOf, Code.braces, introduced_append, introduced, mem_lineBinds]
    | cons c cs =>
      cases multipart <;>
        simp [Handler.bodyCode, Handler.fieldsCode, Handler.contentTypeCode, Handler.isMultipart,
          Handler.multipartCall, fieldsOf, Code.braces, introduced_append, introduced,
          mem_lineBinds, Piece.newLocal, Piece.ofLocal]

lemma hygienic_bodyCode {body : BodyShape} (hfields : Distinct (fieldsOf body))
    (hlog : Provides scope (own "log_fields"))
    (hheaders : body ≠ .none → Provides scope (own "request_headers"))
    (hbytes : Handler.readsBytes body = true → Provides scope (own "request_body"))
    (hmultipart : Handler.isMultipart body = true → Provides scope (own "multipart_body")) :
    Hygienic scope (Handler.bodyCode naming body) := by
  cases body with
  | none => exact hygienic_nothing
  | text => exact hygienic_textCode hlog (hheaders (by simp)) (hbytes rfl)
  | json type => exact hygienic_jsonCode hlog (hheaders (by simp)) (hbytes rfl)
  | form structName fields multipart =>
    refine (hygienic_append_of_nil rfl).2 ⟨hygienic_contentType hlog (hheaders (by simp)), ?_⟩
    cases fields with
    | nil => exact hygienic_emptyFormCode hlog hmultipart
    | cons c cs =>
      refine hygienic_fieldsCode hfields hlog (fun hm => hbytes ?_) hmultipart
      rw [hm]
      rfl

/-- An arm of the dispatch introduces the response, if there is one. -/
lemma hygienic_serviceArm {a : ServiceArm} (hlog : Provides scope (own "log_fields")) :
    Hygienic scope (.arm a.line) := by
  have hne : key (own "response") ≠ key (own "log_fields") := by decide
  obtain ⟨outcome, code, payload⟩ := a
  refine hygienic_arm_of (w := own "response") ?_ ?_
  · cases outcome <;> cases payload <;>
      simp [ServiceArm.line, ServiceArm.pattern?, ServiceArm.writerLine, Outcome.line,
        Piece.newLocal, Piece.ofLocal]
  · cases outcome <;> cases payload <;>
      simp [ServiceArm.line, ServiceArm.pattern?, ServiceArm.writerLine, Outcome.line,
        Piece.newLocal, Piece.ofLocal, hlog, hne]

lemma hygienic_serviceDispatch {call : Line} {arms : List ServiceArm}
    (hbinds : ∀ w, .binds w ∉ call) (hcall : ∀ w, .reads w ∈ call → Provides scope w)
    (hlog : Provides scope (own "log_fields")) :
    Hygienic scope (ServiceArm.dispatch call arms) := by
  have hne : key (own "error") ≠ key (own "log_fields") := by decide
  change Hygienic scope (.braces _ (.all _ ++ .arm _))
  refine hygienic_braces.2 ⟨by simpa using hcall, ?_⟩
  rw [lineBinds_eq_nil (by simpa using hbinds), List.nil_append, hygienic_append_of_nil]
  · constructor
    · refine hygienic_all_of_nil ?_ ?_
      · simp [introduced]
      · rw [List.forall_mem_map]
        exact fun a _ => hygienic_serviceArm hlog
    · refine hygienic_arm_of (w := own "error") ?_ ?_
      · simp [ServiceArm.errorLine, Piece.ofLocal]
      · simp [ServiceArm.errorLine, Piece.ofLocal, hlog, hne]
  · rw [List.eq_nil_iff_forall_not_mem]
    simp [mem_introduced_all, introduced]

/-! ### Handlers -/

lemma readsFrom_urlGroup : ReadsFrom Handler.urlGroup "url_pairs" := by
  refine ⟨⟨rfl, by decide⟩, by decide, ?_, ?_, ?_⟩ <;>
    simp [Handler.urlGroup, Handler.log, Piece.ofLocal]

lemma readsFrom_headerGroup : ReadsFrom Handler.headerGroup "request_headers" := by
  refine ⟨⟨rfl, by decide⟩, by decide, ?_, ?_, ?_⟩ <;>
    simp [Handler.headerGroup, Handler.badRequest, Handler.log, Piece.ofLocal]

lemma readsFrom_queryGroup : ReadsFrom Handler.queryGroup "query_pairs" := by
  refine ⟨⟨rfl, by decide⟩, by decide, ?_, ?_, ?_⟩ <;>
    simp [Handler.queryGroup, Handler.badRequest, Handler.log, Piece.ofLocal]

/-- The variables that the extractors of a handler introduce. -/
def Extracted (sig : Signature) (v : Var) : Prop :=
  v = own "service_impl" ∨ sig.url ≠ [] ∧ v = own "url_pairs" ∨
    sig.query ≠ [] ∧ v = own "query_pairs" ∨
    (sig.header ≠ [] ∨ sig.body ≠ .none) ∧ v = own "request_headers" ∨
    Handler.isMultipart sig.body = true ∧ v = own "multipart_body" ∨
    Handler.readsBytes sig.body = true ∧ v = own "request_body"

lemma extracted_iff (traitName : String) {sig : Signature} :
    (∃ l ∈ Handler.extractorsOf traitName sig, .binds v ∈ l) ↔ Extracted sig v := by
  simp [Extracted, Handler.extractorsOf, Piece.newLocal, or_and_right, exists_or]

lemma reads_not_mem_extractors {traitName : String} {sig : Signature} :
    ∀ l ∈ Handler.extractorsOf traitName sig, .reads v ∉ l := by
  have hnone : ¬∃ l ∈ Handler.extractorsOf traitName sig, .reads v ∈ l := by
    simp [Handler.extractorsOf, Piece.newLocal, or_and_right, exists_or]
  exact fun l hl hv => hnone ⟨l, hl, hv⟩

lemma Extracted.reserved {sig : Signature} (h : Extracted sig v) : Reserved v := by
  rcases h with rfl | ⟨-, rfl⟩ | ⟨-, rfl⟩ | ⟨-, rfl⟩ | ⟨-, rfl⟩ | ⟨-, rfl⟩ <;>
    exact ⟨rfl, by decide⟩

/-- The variables that are passed to the service besides the parameters. -/
def payloadVars (sig : Signature) : List Var :=
  if sig.body = .none then [] else [Signature.bodyVar]

section HandlerStages

variable {sig : Signature} {a : Code} {known : List Var}

variable (naming) in
lemma Stage.handlerParams (h : Stage (FunctionVar sig) scope a known)
    (hsep : Separate (FunctionVar sig)) (hparams : Distinct sig.params)
    (hlog : own "log_fields" ∈ known) (hextracted : ∀ v, Extracted sig v → v ∈ known) :
    Stage (FunctionVar sig) scope
      (a ++ Handler.urlGroup.code naming sig.url ++ Handler.headerGroup.code naming sig.header ++
        Handler.queryGroup.code naming sig.query)
      (sig.query.map ParamCodec.var ++ (sig.header.map ParamCodec.var ++
        (sig.url.map ParamCodec.var ++ known))) := by
  have hquery : sig.query ⊆ sig.params := fun c hc =>
    List.mem_append_left _ (List.mem_append_left _ hc)
  have hheader : sig.header ⊆ sig.params := fun c hc =>
    List.mem_append_left _ (List.mem_append_right _ hc)
  have hurl : sig.url ⊆ sig.params := fun c hc => List.mem_append_right _ hc
  have hurlPairs : sig.url ≠ [] → own "url_pairs" ∈ known := fun hne =>
    hextracted _ (by simp [Extracted, hne])
  have hheaders : sig.header ≠ [] → own "request_headers" ∈ known := fun hne =>
    hextracted _ (by simp [Extracted, hne])
  have hqueryPairs : sig.query ≠ [] → own "query_pairs" ∈ known := fun hne =>
    hextracted _ (by simp [Extracted, hne])
  have hafterUrl := h.group naming hsep hparams hurl readsFrom_urlGroup hurlPairs hlog
  have hafterHeader := hafterUrl.group naming hsep hparams hheader readsFrom_headerGroup
    (fun hne => List.mem_append_right _ (hheaders hne)) (List.mem_append_right _ hlog)
  exact hafterHeader.group naming hsep hparams hquery readsFrom_queryGroup
    (fun hne => List.mem_append_right _ (List.mem_append_right _ (hqueryPairs hne)))
    (List.mem_append_right _ (List.mem_append_right _ hlog))

variable (naming) in
lemma Stage.handlerPayload (h : Stage (FunctionVar sig) scope a known)
    (hsep : Separate (FunctionVar sig)) (hfields : Distinct (fieldsOf sig.body))
    (hlog : own "log_fields" ∈ known) (hextracted : ∀ v, Extracted sig v → v ∈ known) :
    Stage (FunctionVar sig) scope (a ++ Handler.bodyCode naming sig.body)
      (payloadVars sig ++ known) := by
  refine h.next hsep (fun inner hknown => ?_) (fun w hw => ?_) (fun v hv => ?_)
  · refine hygienic_bodyCode hfields (hknown _ hlog) ?_ ?_ ?_
    · exact fun hbody => hknown _ (hextracted _ (by simp [Extracted, hbody]))
    · exact fun hbytes => hknown _ (hextracted _ (by simp [Extracted, hbytes]))
    · exact fun hparts => hknown _ (hextracted _ (by simp [Extracted, hparts]))
  · rcases mem_introduced_bodyCode.1 hw with hpayload | ⟨-, -, rfl⟩
    · exact Or.inr hpayload
    · exact Or.inl (Or.inl ⟨rfl, by decide⟩)
  · unfold payloadVars at hv
    split at hv
    · cases hv
    · rename_i hbody
      exact mem_introduced_bodyCode.2 (Or.inl ⟨hbody, List.mem_singleton.1 hv⟩)

/-- The statement that introduces the log fields and the one that uses them. -/
lemma Stage.handlerStart (hsep : Separate (FunctionVar sig))
    (hscope : ∀ v, v ∈ scope ↔ Extracted sig v) {l k : Line}
    (hbinds : ∀ v, .binds v ∈ l ↔ v = own "log_fields") (hreads : ∀ v, .reads v ∉ l)
    (hbinds' : ∀ v, .binds v ∉ k) (hreads' : ∀ v, .reads v ∈ k → v = own "log_fields") :
    Stage (FunctionVar sig) scope (.line l ++ .line k) (own "log_fields" :: scope) := by
  have hfunction : ∀ w ∈ scope, FunctionVar sig w := fun w hw =>
    Or.inl (Or.inl ((hscope w).1 hw).reserved)
  have hreserved : FunctionVar sig (own "log_fields") := Or.inl (Or.inl ⟨rfl, by decide⟩)
  have hlog : own "log_fields" ∈ lineBinds l := mem_lineBinds.2 ((hbinds _).2 rfl)
  have hmade : Stage (FunctionVar sig) scope (.line l) (lineBinds l ++ scope) :=
    Stage.ofLine hsep hfunction (fun w hw => absurd hw (hreads w))
      (fun w hw => (hbinds w).1 hw ▸ hreserved)
  have hused := hmade.line (l := k) hsep
    (fun w hw => hreads' w hw ▸ List.mem_append_left _ hlog) (fun w hw => absurd hw (hbinds' w))
  refine ⟨hused.hygienic, hused.all, List.forall_mem_cons.2 ⟨?_, fun w hw => ?_⟩⟩
  · exact hused.known _ (List.mem_append_right _ (List.mem_append_left _ hlog))
  · exact hused.known w (List.mem_append_right _ (List.mem_append_right _ hw))

/-- The body of a handler, behind a statement that introduces the log fields and one that uses
them. -/
lemma hygienic_handlerBody (hsep : Separate (FunctionVar sig)) (hparams : Distinct sig.params)
    (hfields : Distinct (fieldsOf sig.body)) (hscope : ∀ v, v ∈ scope ↔ Extracted sig v)
    {l k : Line} (hbinds : ∀ v, .binds v ∈ l ↔ v = own "log_fields") (hreads : ∀ v, .reads v ∉ l)
    (hbinds' : ∀ v, .binds v ∉ k) (hreads' : ∀ v, .reads v ∈ k → v = own "log_fields") :
    Hygienic scope (.line l ++ .line k ++ Handler.urlGroup.code naming sig.url ++
      Handler.headerGroup.code naming sig.header ++ Handler.queryGroup.code naming sig.query ++
      Handler.bodyCode naming sig.body ++
      ServiceArm.dispatch (Handler.callLine sig) (ServiceArm.ofSignature sig)) := by
  have hlogged := Stage.handlerStart hsep hscope hbinds hreads hbinds' hreads'
  have hlog : own "log_fields" ∈ own "log_fields" :: scope := List.mem_cons_self
  have hextracted : ∀ v, Extracted sig v → v ∈ own "log_fields" :: scope := fun v hv =>
    List.mem_cons_of_mem _ ((hscope v).2 hv)
  have hread := hlogged.handlerParams naming hsep hparams hlog hextracted
  have hpayload := hread.handlerPayload naming hsep hfields (by simp [hlog])
    (fun v hv => by simp [hextracted v hv])
  refine hpayload.last hsep fun inner hknown => hygienic_serviceDispatch ?_ ?_ ?_
  · simp [Handler.callLine, mem_joined, Piece.ofLocal]
  · intro w hw
    have hargument : w = own "service_impl" ∨ w ∈ Handler.arguments sig := by
      simpa [Handler.callLine, mem_joined, Piece.ofLocal] using hw
    refine hknown w ?_
    rcases hargument with rfl | hargument
    · simp [hextracted _ (Or.inl rfl : Extracted sig (own "service_impl"))]
    · change w ∈ payloadVars sig ++ sig.params.map ParamCodec.var at hargument
      rw [Signature.params, List.map_append, List.map_append] at hargument
      simp only [List.mem_append] at hargument ⊢
      tauto
  · exact hknown _ (by simp [hlog])

end HandlerStages

/-- Every use of a variable in a handler refers to that variable. -/
lemma hygienic_handler {traitName urlPrefix api : String} {sig : Signature}
    (hsep : Separate (FunctionVar sig)) (hparams : Distinct sig.params)
    (hfields : Distinct (fieldsOf sig.body)) :
    Hygienic [] (Handler.ofSignature naming traitName urlPrefix api sig).code := by
  refine hygienic_append.2 ⟨?_, hygienic_braces.2 ⟨by simp, ?_⟩⟩
  · refine hygienic_hanging.2 ⟨by simp, hygienic_all (P := fun _ => True) (by simp) ?_, by simp⟩
    rw [List.forall_mem_map]
    intro l hl bs _
    rw [hygienic_line]
    intro w hw
    exact absurd (by simpa using hw) (reads_not_mem_extractors l hl)
  · refine hygienic_handlerBody hsep hparams hfields (fun v => ?_) ?_ ?_ ?_ ?_
    · rw [← extracted_iff traitName, lineBinds_eq_nil (by simp), List.nil_append,
        List.append_nil]
      simp [Handler.ofSignature, introduced, mem_introduced_all, mem_lineBinds]
    · simp [Piece.newLocal]
    · simp [Piece.newLocal]
    · simp [Piece.ofLocal]
    · simp [Piece.ofLocal]

end Stages

end ApiCodegen.Proofs
