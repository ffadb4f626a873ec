import ApiCodegen.Proofs.HandlerHygiene

/-!
# Hygienic methods

In a method of a client every use of a variable refers to the variable that it stands for. URL, query
and headers are written while all variables in scope are separate. Then the method uses no parameter
but the payload, and its own variables may hide parameters.
-/

namespace ApiCodegen.Proofs

section Stages

variable {scope : List Var} {naming : Naming} {v : Var}

/-! ### Groups that are written -/

lemma reads_statement {w : ParamWriting} {writer : Var} {place : Line}
    (h : .reads v ∈ w.statement [.reads writer] place) : v = writer ∨ .reads v ∈ place := by
  obtain ⟨shape, name, formatted⟩ := w
  cases shape <;> cases formatted <;>
    simpa [ParamWriting.statement, ParamWriting.argument, ParamWriting.formatCall] using h

lemma binds_statement {w : ParamWriting} {writer : Var} {place : Line}
    (h : .binds v ∈ w.statement [.reads writer] place) : .binds v ∈ place := by
  obtain ⟨shape, name, formatted⟩ := w
  cases shape <;> cases formatted <;>
    simpa [ParamWriting.statement, ParamWriting.argument, ParamWriting.formatCall] using h

section Writing

variable {writer : Var} {place : ParamCodec → Line} {codecs : List ParamCodec}

/-- Code that writes introduces its writer only. -/
lemma introduced_writingCode (hne : codecs ≠ []) (hbinds : ∀ c ∈ codecs, ∀ v, .binds v ∉ place c) :
    introduced (writingCode writer place codecs) = [writer] := by
  have hstatements : introduced
      (.all (codecs.map fun c => .line (c.writing.statement [.reads writer] (place c)))) = [] := by
    rw [List.eq_nil_iff_forall_not_mem]
    intro v hv
    obtain ⟨code, hcode, hv⟩ := mem_introduced_all.1 hv
    obtain ⟨c, hc, rfl⟩ := List.mem_map.1 hcode
    exact hbinds c hc v (binds_statement (mem_lineBinds.1 hv))
  unfold writingCode
  rw [if_neg (by rwa [List.isEmpty_iff]), introduced_append, hstatements]
  rfl

lemma hygienic_writingCode (hbinds : ∀ c ∈ codecs, ∀ v, .binds v ∉ place c)
    (hplace : ∀ c ∈ codecs, ∀ v, .reads v ∈ place c → key writer ≠ key v ∧ Provides scope v) :
    Hygienic scope (writingCode writer place codecs) := by
  by_cases hne : codecs = []
  · subst hne
    exact hygienic_nothing
  unfold writingCode
  rw [if_neg (by rwa [List.isEmpty_iff])]
  refine hygienic_append.2 ⟨hygienic_line.2 (by simp), hygienic_all_of_nil ?_ ?_⟩
  · rw [List.forall_mem_map]
    exact fun c hc => lineBinds_eq_nil fun v hv => hbinds c hc v (binds_statement hv)
  · rw [List.forall_mem_map]
    intro c hc
    rw [hygienic_line]
    intro v hv
    rcases reads_statement hv with rfl | hv
    · exact provides_line_of_binds (by simp) (by simp)
    · obtain ⟨hkey, hprovides⟩ := hplace c hc v hv
      exact hprovides.line (by simp [hkey])

end Writing

/-- The code that writes parameters, if there are any, and adds them to the request. -/
def addedCode (writer : Var) (codecs : List ParamCodec) (add : Code) : Code :=
  if codecs.isEmpty then .nothing
  else writingCode writer (fun c => [.reads c.var]) codecs ++ add

section Added

variable {writer : Var} {codecs : List ParamCodec} {add : Code}

lemma hygienic_addedCode (hwriter : Reserved writer) (hdistinct : Distinct codecs)
    (hne : key writer ≠ key (own "request_builder"))
    (hbuilder : Provides scope (own "request_builder"))
    (hcodecs : ∀ c ∈ codecs, Provides scope c.var)
    (hadd : ∀ inner, Provides inner (own "request_builder") → Provides inner writer →
      Hygienic inner add) : Hygienic scope (addedCode writer codecs add) := by
  by_cases hempty : codecs = []
  · subst hempty
    exact hygienic_nothing
  unfold addedCode
  rw [if_neg (by rwa [List.isEmpty_iff]), hygienic_append, introduced_writingCode hempty (by simp)]
  refine ⟨hygienic_writingCode (by simp) fun c hc v hv => ?_,
    hadd _ (hbuilder.behind hne) provides_head⟩
  have hread : v = c.var := by simpa using hv
  rw [hread]
  refine ⟨fun hkey => hdistinct.unreserved c hc ?_, hcodecs c hc⟩
  rw [← hkey, hwriter.key_eq]
  exact hwriter.2

lemma reserved_of_addedCode (hwriter : Reserved writer) (hadd : ∀ w ∈ introduced add, Reserved w)
    (hv : v ∈ introduced (addedCode writer codecs add)) : Reserved v := by
  by_cases hempty : codecs = []
  · subst hempty
    exact absurd hv List.not_mem_nil
  unfold addedCode at hv
  rw [if_neg (by rwa [List.isEmpty_iff]), introduced_append,
    introduced_writingCode hempty (by simp)] at hv
  rcases List.mem_append.1 hv with hv | hv
  · exact hadd v hv
  · rwa [List.mem_singleton.1 hv]

end Added

/-! ### Stages of a method -/

/-- The statement that adds the query. -/
def queryLine : Line :=
  [.text "let ", .newLocal ClientMethod.builder, .text " = ", .ofLocal ClientMethod.builder,
    .text ".query(&", .ofLocal "query_writer", .text ".into_pairs());"]

/-- The statement that adds the headers. -/
def headerFold : Code :=
  .hanging [.text "let ", .newLocal ClientMethod.builder, .text " = ", .ofLocal "header_writer"]
    (.texts [".into_pairs()", ".into_iter()"] ++
      .line [.text ".fold(", .ofLocal ClientMethod.builder,
        .text ", |builder, (name, value)| builder.header(name, value));"])
    none

lemma queryCode_eq (codecs : List ParamCodec) :
    ClientMethod.queryCode codecs = addedCode (own "query_writer") codecs (.line queryLine) := rfl

lemma headerCode_eq (codecs : List ParamCodec) :
    ClientMethod.headerCode codecs = addedCode (own "header_writer") codecs headerFold := rfl

lemma hygienic_queryCode {codecs : List ParamCodec} (hdistinct : Distinct codecs)
    (hbuilder : Provides scope (own "request_builder"))
    (hcodecs : ∀ c ∈ codecs, Provides scope c.var) :
    Hygienic scope (ClientMethod.queryCode codecs) := by
  have hwriter : Reserved (own "query_writer") := ⟨rfl, by decide⟩
  rw [queryCode_eq]
  refine hygienic_addedCode hwriter hdistinct (by decide) hbuilder hcodecs ?_
  intro inner hb hw
  rw [hygienic_line]
  intro w hread
  have hown : w = own "request_builder" ∨ w = own "query_writer" := by
    simpa [queryLine, ClientMethod.builder, Piece.newLocal, Piece.ofLocal] using hread
  rcases hown with rfl | rfl
  · exact hb
  · exact hw

lemma hygienic_headerCode {codecs : List ParamCodec} (hdistinct : Distinct codecs)
    (hbuilder : Provides scope (own "request_builder"))
    (hcodecs : ∀ c ∈ codecs, Provides scope c.var) :
    Hygienic scope (ClientMethod.headerCode codecs) := by
  have hwriter : Reserved (own "header_writer") := ⟨rfl, by decide⟩
  rw [headerCode_eq]
  refine hygienic_addedCode hwriter hdistinct (by decide) hbuilder hcodecs ?_
  intro inner hb hw
  refine hygienic_hanging.2 ⟨?_, hygienic_of_reads ?_ ?_, by simp⟩
  · simpa [ClientMethod.builder, Piece.newLocal, Piece.ofLocal] using hw
  · simp [Code.texts, Code.all, Code.lines, Piece.ofLocal]
  · simpa [ClientMethod.builder, Code.texts, Code.all, Code.lines, Piece.ofLocal] using hb

lemma reserved_of_queryCode {codecs : List ParamCodec}
    (hv : v ∈ introduced (ClientMethod.queryCode codecs)) : Reserved v := by
  rw [queryCode_eq] at hv
  refine reserved_of_addedCode ⟨rfl, by decide⟩ (fun w hw => ?_) hv
  have hown : w = own "request_builder" := by
    simpa [introduced, mem_lineBinds, queryLine, ClientMethod.builder, Piece.newLocal,
      Piece.ofLocal] using hw
  rw [hown]
  exact ⟨rfl, by decide⟩

lemma reserved_of_headerCode {codecs : List ParamCodec}
    (hv : v ∈ introduced (ClientMethod.headerCode codecs)) : Reserved v := by
  rw [headerCode_eq] at hv
  refine reserved_of_addedCode ⟨rfl, by decide⟩ (fun w hw => ?_) hv
  have hown : w = own "request_builder" := by
    simpa [introduced, introduced_append, mem_lineBinds, headerFold, ClientMethod.builder,
      Piece.newLocal, Piece.ofLocal, Code.texts, Code.all] using hw
  rw [hown]
  exact ⟨rfl, by decide⟩

/-- The code that adds a form, wherever the writer of the form is found. -/
lemma hygienic_formCode {multipart : Bool} (hbuilder : Provides scope (own "request_builder"))
    (hwriter : Provides scope (own "form_writer")) :
    Hygienic scope (ClientMethod.formCode multipart) := by
  have hne : key (own "multipart_form") ≠ key (own "request_builder") := by decide
  cases multipart with
  | false =>
    refine hygienic_line.2 fun w hw => ?_
    have hread : w = own "request_builder" ∨ w = own "form_writer" := by
      simpa [ClientMethod.builder, Piece.newLocal, Piece.ofLocal] using hw
    rcases hread with rfl | rfl
    · exact hbuilder
    · exact hwriter
  | true =>
    refine hygienic_append.2 ⟨hygienic_hanging.2 ⟨?_, ?_, by simp⟩, hygienic_line.2 fun w hw => ?_⟩
    · simpa [Piece.newLocal, Piece.ofLocal] using hwriter
    · refine hygienic_of_reads ?_ ?_ <;> simp [Code.texts, Code.all, Code.lines]
    · have hread : w = own "request_builder" ∨ w = own "multipart_form" := by
        simpa [ClientMethod.builder, Piece.newLocal, Piece.ofLocal] using hw
      change Provides ([own "multipart_form"] ++ scope) w
      rcases hread with rfl | rfl
      · exact hbuilder.behind hne
      · exact provides_head

lemma provides_after_formCode (multipart : Bool) :
    Provides (introduced (ClientMethod.formCode multipart) ++ scope) (own "request_builder") := by
  cases multipart with
  | false => exact provides_head
  | true =>
    change Provides ([own "request_builder"] ++ ([own "multipart_form"] ++ scope)) _
    exact provides_head

/-- The code that writes a form introduces the writer, whether there are fields or not. -/
lemma hygienic_formFields (fields : List ParamCodec)
    (hpayload : Provides scope Signature.bodyVar) :
    ∃ c, c = (if fields.isEmpty then
        .line [.text "let ", .newLocal "form_writer", .text " = ParamsWriter::new();"]
      else
        writingCode (own "form_writer")
          (fun c => [.reads Signature.bodyVar, .text ".", .item c.ident]) fields) ∧
      Hygienic scope c ∧ introduced c = [own "form_writer"] := by
  have hne : key (own "form_writer") ≠ key Signature.bodyVar := by decide
  refine ⟨_, rfl, ?_⟩
  by_cases hempty : fields = []
  · rw [if_pos (by rwa [List.isEmpty_iff])]
    exact ⟨hygienic_line.2 (by simp [Piece.newLocal]), rfl⟩
  · rw [if_neg (by rwa [List.isEmpty_iff])]
    refine ⟨hygienic_writingCode (by simp) ?_, introduced_writingCode hempty (by simp)⟩
    intro c _ v hv
    have hread : v = Signature.bodyVar := by simpa using hv
    rw [hread]
    exact ⟨hne, hpayload⟩

lemma hygienic_methodPayload {body : BodyShape} (hbuilder : Provides scope (own "request_builder"))
    (hpayload : body ≠ .none → Provides scope Signature.bodyVar) :
    Hygienic scope (ClientMethod.bodyCode body) ∧
      Provides (introduced (ClientMethod.bodyCode body) ++ scope) (own "request_builder") := by
  cases body with
  | none => exact ⟨hygienic_nothing, hbuilder⟩
  | text =>
    refine ⟨hygienic_hanging.2 ⟨?_, hygienic_of_reads ?_ ?_, by simp⟩, provides_head⟩
    · simpa [ClientMethod.builder, Piece.newLocal, Piece.ofLocal] using hbuilder
    · simp [Code.texts, Code.all, Code.lines]
    · simpa [Code.texts, Code.all, Code.lines] using hpayload
  | json type =>
    refine ⟨hygienic_line.2 fun w hw => ?_, provides_head⟩
    have hread : w = own "request_builder" ∨ w = Signature.bodyVar := by
      simpa [ClientMethod.builder, Piece.newLocal, Piece.ofLocal] using hw
    rcases hread with rfl | rfl
    · exact hbuilder
    · exact hpayload (by simp)
  | form structName fields multipart =>
    have hne : key (own "form_writer") ≠ key (own "request_builder") := by decide
    obtain ⟨c, hc, hfields, hnew⟩ := hygienic_formFields fields (hpayload (by simp))
    have hcode : ClientMethod.bodyCode (.form structName fields multipart) =
        c ++ ClientMethod.formCode multipart := by
      rw [hc]
      rfl
    rw [hcode, introduced_append, hygienic_append, hnew, List.append_assoc]
    exact ⟨⟨hfields, hygienic_formCode (hbuilder.behind hne) provides_head⟩,
      provides_after_formCode multipart⟩

lemma reads_returnLine {b : ClientBranch} (h : .reads v ∈ b.returnLine) :
    b.payload ≠ .empty ∧ v = ClientBranch.valueVar b.outcome := by
  obtain ⟨code, payload, outcome⟩ := b
  cases payload with
  | empty =>
    cases outcome <;> simp [ClientBranch.returnLine, ClientBranch.value?, Outcome.line] at h
  | text | json _ =>
    refine ⟨by simp, ?_⟩
    cases outcome <;>
      simpa [ClientBranch.returnLine, ClientBranch.value?, Outcome.line] using h

lemma provides_readLine {b : ClientBranch} (hpayload : b.payload ≠ .empty) :
    Provides (lineBinds (b.readLine naming) ++ scope) (ClientBranch.valueVar b.outcome) := by
  obtain ⟨code, payload, outcome⟩ := b
  cases payload with
  | empty => exact absurd rfl hpayload
  | text | json _ =>
    refine provides_line_of_binds ?_ ?_
    · simp [ClientBranch.readLine]
    · simp [ClientBranch.readLine, Piece.ofLocal]

lemma reads_readLine {b : ClientBranch} (h : .reads v ∈ b.readLine naming) :
    v = own "http_response" := by
  obtain ⟨code, payload, outcome⟩ := b
  cases payload <;> simpa [ClientBranch.readLine, Piece.ofLocal] using h

lemma hygienic_branchCode {b : ClientBranch} (hstatus : Provides scope (own "status"))
    (hresponse : Provides scope (own "http_response")) :
    Hygienic scope (b.branchCode naming) := by
  change Hygienic scope (.braces _ (.line _ ++ .line _))
  refine hygienic_braces.2 ⟨by simpa [Piece.ofLocal] using hstatus, ?_⟩
  rw [lineBinds_eq_nil (by simp [Piece.ofLocal]), List.nil_append, hygienic_append, hygienic_line,
    hygienic_line]
  refine ⟨fun w hw => ?_, fun w hw => ?_⟩
  · rw [reads_readLine hw]
    exact hresponse
  · obtain ⟨hpayload, rfl⟩ := reads_returnLine hw
    exact provides_readLine hpayload

lemma hygienic_clientDispatch {branches : List ClientBranch}
    (hstatus : Provides scope (own "status")) (hresponse : Provides scope (own "http_response")) :
    Hygienic scope (ClientBranch.dispatch naming branches) := by
  have hbranches : introduced (.all (branches.map (ClientBranch.branchCode naming))) = [] := by
    rw [List.eq_nil_iff_forall_not_mem]
    simp [mem_introduced_all, ClientBranch.branchCode, Code.braces, introduced]
  refine (hygienic_append_of_nil hbranches).2 ⟨hygienic_all_of_nil ?_ ?_, hygienic_line.2 ?_⟩
  · simp [ClientBranch.branchCode, Code.braces, introduced]
  · rw [List.forall_mem_map]
    exact fun b _ => hygienic_branchCode hstatus hresponse
  · simpa [Piece.ofLocal] using hstatus

/-! ### Methods -/

lemma hygienic_line_of {l : Line} {w : Var} (hreads : lineReads l = [w]) (hw : Provides scope w) :
    Hygienic scope (.line l) := by
  rw [hygienic_line]
  intro v hv
  rw [← mem_lineReads, hreads, List.mem_singleton] at hv
  rwa [hv]

/-- What a method does once the request is complete. Its variables may hide parameters. -/
lemma hygienic_sending {branches : List ClientBranch} {l k m : Line}
    (hbuilder : Provides scope (own "request_builder"))
    (hl : lineBinds l = [own "http_response"]) (hl' : lineReads l = [own "request_builder"])
    (hk : lineBinds k = [own "status"]) (hk' : lineReads k = [own "http_response"])
    (hm : lineBinds m = []) (hm' : lineReads m = [own "status"]) :
    Hygienic scope
      (.line l ++ (.line k ++ (.line m ++ ClientBranch.dispatch naming branches))) := by
  have hne : key (own "status") ≠ key (own "http_response") := by decide
  have hresponse : Provides ([own "http_response"] ++ scope) (own "http_response") := provides_head
  have hstatus : Provides ([own "status"] ++ ([own "http_response"] ++ scope)) (own "status") :=
    provides_head
  rw [hygienic_append, hygienic_append, hygienic_append, introduced, introduced, introduced, hl, hk,
    hm]
  refine ⟨hygienic_line_of hl' hbuilder, hygienic_line_of hk' hresponse,
    hygienic_line_of hm' hstatus, ?_⟩
  exact hygienic_clientDispatch hstatus (hresponse.behind hne)

section MethodStages

variable {sig : Signature} {known : List Var}

lemma arguments_subset (t : UrlTemplate) (codecs : List ParamCodec) :
    t.arguments codecs ⊆ codecs := by
  intro c hc
  obtain ⟨name, -, hfound⟩ := List.mem_filterMap.1 hc
  exact List.mem_of_find?_eq_some hfound

lemma reads_urlLine {url : String} {codecs : List ParamCodec}
    (h : .reads v ∈ ClientMethod.urlLine url codecs) : ∃ c ∈ codecs, v = c.var := by
  have hargument : ∃ c ∈ (UrlTemplate.ofString url).arguments codecs, .reads v ∈ c.urlArgument := by
    simpa [ClientMethod.urlLine, Piece.newLocal] using h
  obtain ⟨c, hc, hv⟩ := hargument
  refine ⟨c, arguments_subset _ _ hc, ?_⟩
  unfold ParamCodec.urlArgument at hv
  split at hv <;> simpa [ParamWriting.formatCall] using hv

lemma binds_urlLine {url : String} {codecs : List ParamCodec} :
    .binds v ∈ ClientMethod.urlLine url codecs ↔ v = own "request_url" := by
  have hargument : ∀ c : ParamCodec, .binds v ∉ c.urlArgument := by
    intro c
    unfold ParamCodec.urlArgument
    split <;> simp [ParamWriting.formatCall]
  simp [ClientMethod.urlLine, Piece.newLocal, hargument]

variable (naming) in
/-- The variables that a method has for the parameters of its operation. -/
lemma clientFormals_iff :
    (∃ f ∈ sig.clientFormals naming .inApi, v = f.var) ↔
      (∃ c ∈ sig.params, v = c.var) ∨ sig.body ≠ .none ∧ v = Signature.bodyVar := by
  cases hbody : sig.body <;>
    simp [Signature.clientFormals, Signature.formals, hbody, or_comm]

/-- The request that is made from the URL. -/
lemma Stage.methodStart (hsep : Separate (FunctionVar sig)) {url : String} {l k : Line}
    (hscope : ∀ w, w ∈ scope ↔
      (∃ c ∈ sig.params, w = c.var) ∨ sig.body ≠ .none ∧ w = Signature.bodyVar)
    (hl : ∀ w, .binds w ∉ l) (hl' : ∀ w, .reads w ∈ l → w = own "request_url")
    (hk : ∀ w, .binds w ∈ k ↔ w = own "request_builder")
    (hk' : ∀ w, .reads w ∈ k → w = own "request_url") :
    Stage (FunctionVar sig) scope
      (.line (ClientMethod.urlLine url sig.url) ++ .line l ++ .line k)
      (own "request_builder" :: scope) := by
  have hfunction : ∀ w ∈ scope, FunctionVar sig w := by
    intro w hw
    rcases (hscope w).1 hw with hparam | hpayload
    · exact Or.inl (Or.inr hparam)
    · exact Or.inr hpayload
  have hreserved : FunctionVar sig (own "request_url") ∧ FunctionVar sig (own "request_builder") :=
    ⟨Or.inl (Or.inl ⟨rfl, by decide⟩), Or.inl (Or.inl ⟨rfl, by decide⟩)⟩
  have hmade : own "request_url" ∈ lineBinds (ClientMethod.urlLine url sig.url) :=
    mem_lineBinds.2 (binds_urlLine.2 rfl)
  have hurl : Stage (FunctionVar sig) scope (.line (ClientMethod.urlLine url sig.url))
      (lineBinds (ClientMethod.urlLine url sig.url) ++ scope) := by
    refine Stage.ofLine hsep hfunction (fun w hw => ?_) fun w hw => ?_
    · obtain ⟨c, hc, rfl⟩ := reads_urlLine hw
      exact (hscope _).2 (Or.inl ⟨c, List.mem_append_right _ hc, rfl⟩)
    · rw [binds_urlLine.1 hw]
      exact hreserved.1
  have hlogged := hurl.line hsep (fun w hw => (hl' w hw ▸ List.mem_append_left _ hmade))
    (fun w hw => absurd hw (hl w))
  have hbuilt := hlogged.line (l := k) hsep
    (fun w hw => hk' w hw ▸ List.mem_append_right _ (List.mem_append_left _ hmade))
    (fun w hw => (hk w).1 hw ▸ hreserved.2)
  refine ⟨hbuilt.hygienic, hbuilt.all, List.forall_mem_cons.2 ⟨?_, fun w hw => ?_⟩⟩
  · exact hbuilt.known _ (List.mem_append_left _ (mem_lineBinds.2 ((hk _).2 rfl)))
  · refine hbuilt.known w (List.mem_append_right _ ?_)
    exact List.mem_append_right _ (List.mem_append_right _ hw)

lemma Stage.methodParams {a : Code} (h : Stage (FunctionVar sig) scope a known)
    (hsep : Separate (FunctionVar sig)) (hparams : Distinct sig.params)
    (hbuilder : own "request_builder" ∈ known) (hknown : ∀ c ∈ sig.params, c.var ∈ known) :
    Stage (FunctionVar sig) scope
      (a ++ ClientMethod.queryCode sig.query ++ ClientMethod.headerCode sig.header) known := by
  have hquery : sig.query ⊆ sig.params := fun c hc =>
    List.mem_append_left _ (List.mem_append_left _ hc)
  have hheader : sig.header ⊆ sig.params := fun c hc =>
    List.mem_append_left _ (List.mem_append_right _ hc)
  have hafterQuery : Stage (FunctionVar sig) scope (a ++ ClientMethod.queryCode sig.query)
      known := by
    refine h.keep hsep (fun inner hfound => ?_) ?_
    · exact hygienic_queryCode (hparams.mono hquery) (hfound _ hbuilder)
        fun c hc => hfound _ (hknown c (hquery hc))
    · exact fun w hw => Or.inl (Or.inl (reserved_of_queryCode hw))
  refine hafterQuery.keep hsep (fun inner hfound => ?_) ?_
  · exact hygienic_headerCode (hparams.mono hheader) (hfound _ hbuilder)
      fun c hc => hfound _ (hknown c (hheader hc))
  · exact fun w hw => Or.inl (Or.inl (reserved_of_headerCode hw))

lemma hygienic_methodBody {urlPrefix api : String} {errors : List ErrorVariant}
    (hsep : Separate (FunctionVar sig)) (hparams : Distinct sig.params)
    (hscope : ∀ w, w ∈ scope ↔
      (∃ c ∈ sig.params, w = c.var) ∨ sig.body ≠ .none ∧ w = Signature.bodyVar) :
    Hygienic scope (ClientMethod.ofSignature naming urlPrefix api sig errors).body := by
  unfold ClientMethod.ofSignature
  rw [hygienic_assoc, hygienic_assoc, hygienic_assoc, hygienic_assoc]
  have hbuilder : own "request_builder" ∈ own "request_builder" :: scope := List.mem_cons_self
  refine Stage.last (Stage.methodParams (Stage.methodStart hsep hscope ?_ ?_ ?_ ?_) hsep hparams
    hbuilder fun c hc => ?_) hsep fun inner hknown => ?_
  · simp [Piece.ofLocal]
  · simp [Piece.ofLocal]
  · simp [ClientMethod.builder, Piece.newLocal, Piece.ofLocal]
  · simp [Piece.newLocal, Piece.ofLocal]
  · exact List.mem_cons_of_mem _ ((hscope _).2 (Or.inl ⟨c, hc, rfl⟩))
  · have hpayload : sig.body ≠ .none → Provides inner Signature.bodyVar := fun hbody =>
      hknown _ (List.mem_cons_of_mem _ ((hscope _).2 (Or.inr ⟨hbody, rfl⟩)))
    obtain ⟨hwritten, hbuilt⟩ := hygienic_methodPayload (hknown _ hbuilder) hpayload
    exact hygienic_append.2 ⟨hwritten, hygienic_sending hbuilt rfl rfl rfl rfl rfl rfl⟩

end MethodStages

/-- A comment has no variables. -/
lemma variables_comment {urlPrefix api : String} {errors : List ErrorVariant} {sig : Signature} :
    ∀ l ∈ (ClientMethod.ofSignature naming urlPrefix api sig errors).comment.lines,
      ∀ v, .binds v ∉ l ∧ .reads v ∉ l := by
  unfold ClientMethod.ofSignature
  cases hsome : sig.operation.description.isSome <;>
    simp [hsome, Code.texts, Code.all, Code.lines]

/-- Every use of a variable in a method refers to that variable. -/
lemma hygienic_method {urlPrefix api : String} {errors : List ErrorVariant} {sig : Signature}
    (hsep : Separate (FunctionVar sig)) (hparams : Distinct sig.params) :
    Hygienic [] (ClientMethod.ofSignature naming urlPrefix api sig errors).code := by
  have hcomment : introduced (ClientMethod.ofSignature naming urlPrefix api sig errors).comment =
      [] := introduced_eq_nil fun l hl v => (variables_comment l hl v).1
  refine (hygienic_append_of_nil hcomment).2 ⟨?_, hygienic_braces.2 ⟨?_, ?_⟩⟩
  · refine hygienic_of_reads (fun l hl v => (variables_comment l hl v).1) fun l hl v hv => ?_
    exact absurd hv (variables_comment l hl v).2
  · simp [Signature.receiverLine, Signature.formalsLine, mem_joined]
  · refine hygienic_methodBody hsep hparams fun w => ?_
    rw [List.append_nil, mem_lineBinds, ← clientFormals_iff naming]
    simp [ClientMethod.ofSignature, Signature.receiverLine, Signature.formalsLine, mem_joined]

end Stages

/-! ### Operations -/

/-- The variables of parameters and fields are different, and wherever handler and method use a
variable, that variable is the latest one of its name in scope. -/
structure HygienicFunctions (naming : Naming) (sig : Signature) : Prop where
  distinct : ((sig.params ++ fieldsOf sig.body).map ParamCodec.var).Nodup
  handler : ∀ traitName urlPrefix api,
    Hygienic [] (Handler.ofSignature naming traitName urlPrefix api sig).code
  method : ∀ urlPrefix api errors,
    Hygienic [] (ClientMethod.ofSignature naming urlPrefix api sig errors).code

section Operations

variable {s : Scope} {o : Operation} {sig : Signature}

lemma nodup_vars {codecs : List ParamCodec} (h : (codecs.map (·.ident)).Nodup) :
    (codecs.map ParamCodec.var).Nodup := by
  have hnames : (codecs.map (·.ident)) = (codecs.map ParamCodec.var).map Var.name := by
    rw [List.map_map]
    rfl
  rw [hnames] at h
  exact h.of_map

lemma nodup_parameterVars (ho : OperationRules s .standard o)
    (hf : FitsOperation .standard o sig) :
    ((sig.params ++ fieldsOf sig.body).map ParamCodec.var).Nodup := by
  have hparams : (sig.params.map ParamCodec.var).Nodup := nodup_vars (hf.params ▸ ho.idents)
  have hfields : ((fieldsOf sig.body).map ParamCodec.var).Nodup :=
    nodup_vars (hf.fields ▸ ho.fields)
  rw [List.map_append]
  refine hparams.append hfields ?_
  rw [List.disjoint_left]
  intro v hparam hfield
  obtain ⟨c, hc, rfl⟩ := List.mem_map.1 hparam
  obtain ⟨d, hd, heq⟩ := List.mem_map.1 hfield
  have hlocation : d.location = c.location :=
    Owner.parameter.inj (congrArg Var.owner heq)
  exact hf.paramsOutside c hc (hlocation.symm.trans (hf.fieldsInside d hd))

/-- In the handler and in the method of every operation that validation accepts, no parameter
captures a variable of the generator and none is captured. -/
theorem validated_functions_hygienic {here : Location}
    (ho : Validation.checkOperation s .standard here o = .ok ()) (there : Location) :
    ∃ sig, Signature.ofOperation s .standard there o = .ok sig ∧
      HygienicFunctions .standard sig := by
  rw [checkOperation_eq_ok_iff] at ho
  obtain ⟨sig, hsig⟩ : Succeeds (Signature.ofOperation s .standard there o) :=
    succeeds_ofOperation ho
  have hfits : FitsOperation .standard o sig := fitsOperation_of_signature hsig
  have hsep : Separate (FunctionVar sig) := separate_functionVar ho hfits
  have hparams : Distinct sig.params := distinct_params ho hfits
  refine ⟨sig, hsig, nodup_parameterVars ho hfits, fun _ _ _ => ?_, fun _ _ _ => ?_⟩
  · exact hygienic_handler hsep hparams (distinct_fields ho hfits)
  · exact hygienic_method hsep hparams

theorem validated_functions_hygienic_putOrder :
    Validation.checkOperation (.ofVersion shopVersion shop.httpErrors) .standard .root putOrder =
        .ok () ∧
      ∃ sig, Signature.ofOperation (.ofVersion shopVersion shop.httpErrors) .standard .root
          putOrder = .ok sig ∧ HygienicFunctions .standard sig := by
  have ho : Validation.checkOperation (.ofVersion shopVersion shop.httpErrors) .standard .root
      putOrder = .ok () := by decide +kernel
  exact ⟨ho, validated_functions_hygienic ho .root⟩

end Operations

end ApiCodegen.Proofs
