import ApiCodegen.Proofs.Emission
import ApiCodegen.Proofs.Scoping
import ApiCodegen.Proofs.Signatures
import Mathlib.Data.List.Nodup

/-!
# Hygiene of handlers and methods

The generator introduces variables of its own next to the parameters of an operation. Before all
parameters have been read these are the reserved ones, whose names no parameter has; what is
introduced later hides parameters that are not read any more. The fields of a form live in a block
of their own and may hide parameters of the same name there.
-/

namespace ApiCodegen.Proofs

/-! ### The variables of an operation -/

/-- The fields of a form. -/
def fieldsOf : BodyShape → List ParamCodec
  | .form _ fields _ => fields
  | .none | .text | .json _ => []

/-- A variable of the generator. -/
abbrev own (name : String) : Var := ⟨name, .generated⟩

def Reserved (v : Var) : Prop := v.owner = .generated ∧ v.name ∈ Signature.reservedIdents

/-- The variables of the generator and of some parameters. -/
def GroupVar (codecs : List ParamCodec) (v : Var) : Prop :=
  Reserved v ∨ ∃ c ∈ codecs, v = c.var

/-- The variables of a function before all parameters have been read. -/
def FunctionVar (sig : Signature) (v : Var) : Prop :=
  GroupVar sig.params v ∨ sig.body ≠ .none ∧ v = Signature.bodyVar

/-- Parameters whose variables have different names, none of which is reserved. -/
structure Distinct (codecs : List ParamCodec) : Prop where
  inj : ∀ c ∈ codecs, ∀ d ∈ codecs, key c.var = key d.var → c.var = d.var
  unreserved : ∀ c ∈ codecs, key c.var ∉ Signature.reservedIdents

/-- What the signature of an operation has from its parameters. -/
structure FitsOperation (naming : Naming) (o : Operation) (sig : Signature) : Prop where
  params : sig.params.map (·.ident) = (functionParams o).map fun p => naming.fieldName p.name
  fields : (fieldsOf sig.body).map (·.ident) = (formFields o).map fun p => naming.fieldName p.name
  paramsOutside : ∀ c ∈ sig.params, c.location ≠ .form
  fieldsInside : ∀ c ∈ fieldsOf sig.body, c.location = .form
  body : sig.body ≠ .none → o.body ≠ .empty

section Signatures

variable {s : Scope} {naming : Naming} {here : Location} {o : Operation} {sig : Signature}
  {location : ParamLocation}

lemma codec_of_ofParam {p : Param} {c : ParamCodec}
    (h : ParamCodec.ofParam s naming here location p = .ok c) :
    c.ident = naming.fieldName p.name ∧ c.location = location := by
  obtain ⟨shape, type, -, -, rfl⟩ := ofParam_eq_ok_iff.1 h
  exact ⟨rfl, rfl⟩

lemma codecs_of_mapM {ps : List Param} {cs : List ParamCodec}
    (h : ps.mapM (ParamCodec.ofParam s naming here location) = .ok cs) :
    cs.map (·.ident) = ps.map (fun p => naming.fieldName p.name) ∧
      ∀ c ∈ cs, c.location = location := by
  exact ⟨map_of_mapM h fun p _ c hc => (codec_of_ofParam hc).1,
    forall_of_mapM (fun p c hc => (codec_of_ofParam hc).2) h⟩

lemma fields_of_bodyBuilt {body : BodyShape} (h : BodyBuilt s naming here o body) :
    (fieldsOf body).map (·.ident) = (formFields o).map (fun p => naming.fieldName p.name) ∧
      (∀ c ∈ fieldsOf body, c.location = .form) ∧ (body ≠ .none → o.body ≠ .empty) := by
  unfold formFields
  cases h with
  | none hbody | text hbody | json hbody _ => simp [hbody, fieldsOf, RequestBody.formParams?]
  | multipart hbody hfields | urlEncoded hbody hfields =>
    obtain ⟨hidents, hlocation⟩ := codecs_of_mapM hfields
    rw [hbody]
    exact ⟨hidents, hlocation, fun _ => by simp⟩

lemma fitsOperation_of_signature (h : Signature.ofOperation s naming here o = .ok sig) :
    FitsOperation naming o sig := by
  have hbuilt := ofOperation_eq_ok_iff.1 h
  obtain ⟨hqueryIdents, hqueryLocation⟩ := codecs_of_mapM hbuilt.query
  obtain ⟨hheaderIdents, hheaderLocation⟩ := codecs_of_mapM hbuilt.header
  obtain ⟨hurlIdents, hurlLocation⟩ := codecs_of_mapM hbuilt.url
  obtain ⟨hfields, hinside, hnone⟩ := fields_of_bodyBuilt hbuilt.body
  refine ⟨?_, hfields, ?_, hinside, hnone⟩
  · simp only [Signature.params, functionParams, List.map_append, hqueryIdents, hheaderIdents,
      hurlIdents]
  · intro c hc
    rcases List.mem_append.1 hc with hc | hc
    · rcases List.mem_append.1 hc with hc | hc
      · rw [hqueryLocation c hc]
        decide
      · rw [hheaderLocation c hc]
        decide
    · rw [hurlLocation c hc]
      decide

end Signatures

/-! ### Names of variables -/

lemma Reserved.key_eq {v : Var} (h : Reserved v) : key v = v.name := by
  have hall : ∀ n ∈ Signature.reservedIdents, Naming.unraw n = n := by decide
  exact hall v.name h.2

section Names

variable {s : Scope} {o : Operation} {sig : Signature} {codecs : List ParamCodec}

lemma exists_param_of_idents {ps : List Param}
    (hidents : codecs.map (·.ident) = ps.map fun p => Naming.standard.fieldName p.name)
    {c : ParamCodec} (hc : c ∈ codecs) : ∃ p ∈ ps, c.ident = Naming.snakeName p.name := by
  have hident : c.ident ∈ codecs.map (·.ident) := List.mem_map_of_mem hc
  rw [hidents] at hident
  obtain ⟨p, hp, heq⟩ := List.mem_map.1 hident
  exact ⟨p, hp, heq.symm⟩

lemma distinct_of_idents {ps : List Param}
    (hidents : codecs.map (·.ident) = ps.map fun p => Naming.standard.fieldName p.name)
    (hnodup : (ps.map fun p => Naming.standard.fieldName p.name).Nodup)
    (hunreserved : ∀ p ∈ ps,
      Naming.unraw (Naming.standard.fieldName p.name) ∉ Signature.reservedIdents) :
    Distinct codecs := by
  refine ⟨fun c hc d hd hkey => ?_, fun c hc => ?_⟩
  · obtain ⟨p, -, hcp⟩ := exists_param_of_idents hidents hc
    obtain ⟨q, -, hdq⟩ := exists_param_of_idents hidents hd
    have hident : c.ident = d.ident := by
      change Naming.unraw c.ident = Naming.unraw d.ident at hkey
      rw [hcp, hdq] at hkey ⊢
      exact unraw_snakeName_inj hkey
    rw [List.inj_on_of_nodup_map (hidents ▸ hnodup) hc hd hident]
  · obtain ⟨p, hp, hcp⟩ := exists_param_of_idents hidents hc
    change Naming.unraw c.ident ∉ _
    rw [hcp]
    exact hunreserved p hp

lemma distinct_params (ho : OperationRules s .standard o) (hf : FitsOperation .standard o sig) :
    Distinct sig.params :=
  distinct_of_idents hf.params ho.idents fun p hp =>
    ho.unreserved p (List.mem_append_right _ hp)

lemma distinct_fields (ho : OperationRules s .standard o) (hf : FitsOperation .standard o sig) :
    Distinct (fieldsOf sig.body) :=
  distinct_of_idents hf.fields ho.fields fun p hp =>
    ho.unreserved p (List.mem_append_left _ hp)

lemma key_ne_body (ho : OperationRules s .standard o) (hf : FitsOperation .standard o sig)
    (hbody : sig.body ≠ .none) {c : ParamCodec} (hc : c ∈ sig.params) :
    key c.var ≠ Signature.bodyIdent := by
  obtain ⟨p, hp, hcp⟩ := exists_param_of_idents hf.params hc
  intro hkey
  change Naming.unraw c.ident = _ at hkey
  rw [hcp] at hkey
  have hname : Naming.snakeName p.name = Signature.bodyIdent := by
    rw [← marked_unraw_snakeName, hkey]
    decide
  exact ho.notBody (hf.body hbody) p hp hname

lemma Distinct.mono {codecs' : List ParamCodec} (h : Distinct codecs) (hsub : codecs' ⊆ codecs) :
    Distinct codecs' :=
  ⟨fun c hc d hd => h.inj c (hsub hc) d (hsub hd), fun c hc => h.unreserved c (hsub hc)⟩

lemma Distinct.separate (h : Distinct codecs) : Separate (GroupVar codecs) := by
  have hmixed : ∀ v w, Reserved v → (∃ c ∈ codecs, w = c.var) → key v ≠ key w := by
    rintro v w hv ⟨c, hc, rfl⟩ hkey
    apply h.unreserved c hc
    rw [← hkey, hv.key_eq]
    exact hv.2
  intro v w hv hw hkey
  rcases hv with hv | hv
  · rcases hw with hw | hw
    · rw [hv.key_eq, hw.key_eq] at hkey
      obtain ⟨name, owner⟩ := v
      obtain ⟨name', owner'⟩ := w
      cases hkey
      cases hv.1
      cases hw.1
      rfl
    · exact absurd hkey (hmixed v w hv hw)
  · rcases hw with hw | hw
    · exact absurd hkey.symm (hmixed w v hw hv)
    · obtain ⟨c, hc, rfl⟩ := hv
      obtain ⟨d, hd, rfl⟩ := hw
      exact h.inj c hc d hd hkey

lemma separate_functionVar (ho : OperationRules s .standard o)
    (hf : FitsOperation .standard o sig) : Separate (FunctionVar sig) := by
  have hkey : key Signature.bodyVar = Signature.bodyIdent := by decide
  have hmixed : ∀ v, GroupVar sig.params v → sig.body ≠ .none → key v ≠ key Signature.bodyVar := by
    rintro v (hv | ⟨c, hc, rfl⟩) hbody heq
    · have hreserved : Signature.bodyIdent ∉ Signature.reservedIdents := by decide
      apply hreserved
      rw [← hkey, ← heq, hv.key_eq]
      exact hv.2
    · exact key_ne_body ho hf hbody hc (heq.trans hkey)
  rintro v w (hv | ⟨hbody, rfl⟩) (hw | ⟨hbody', rfl⟩) heq
  · exact (distinct_params ho hf).separate v w hv hw heq
  · exact absurd heq (hmixed v hv hbody')
  · exact absurd heq.symm (hmixed w hw hbody)
  · rfl

end Names

/-! ### Groups that are read -/

section Groups

variable {g : ReadingGroup} {source : String} {naming : Naming} {codecs : List ParamCodec}
  {scope : List Var} {v : Var}

/-- A group whose parser is a variable of the generator and is made from another one. -/
structure ReadsFrom (g : ReadingGroup) (source : String) : Prop where
  parser : Reserved g.parser
  notLog : g.parser ≠ own "log_fields"
  binds : ∀ v, .binds v ∉ g.source
  reads : ∀ v, .reads v ∈ g.source → v = own source
  failure : ∀ faults v, .reads v ∈ g.failure faults → v = own "log_fields" ∨ .reads v ∈ faults

/-- The calls on a parser use nothing else. -/
lemma reads_expression {r : ParamReading} {parser : Var}
    (h : .reads v ∈ r.expression [.reads parser]) : v = parser := by
  obtain ⟨accessor, name, element, restricted, lifted⟩ := r
  cases accessor <;> cases restricted <;> cases lifted <;>
    simpa [ParamReading.expression, ParamReading.defaultArgument, ParamReading.allowedArgument]
      using h

lemma binds_expression {r : ParamReading} {parser : Var} :
    .binds v ∉ r.expression [.reads parser] := by
  obtain ⟨accessor, name, element, restricted, lifted⟩ := r
  cases accessor <;> cases restricted <;> cases lifted <;>
    simp [ParamReading.expression, ParamReading.defaultArgument, ParamReading.allowedArgument]

/-- The parser and the variables of the parameters before they are known to be there. -/
def groupCode (g : ReadingGroup) (naming : Naming) (codecs : List ParamCodec) : Code :=
  .line ([.text "let mut ", .binds g.parser, .text " = "] ++ g.source ++ [.text ";"]) ++
  .all (codecs.map fun c =>
    .line ([.text "let ", .binds c.var, .text " = "] ++
      (c.reading naming).expression [.reads g.parser] ++ [.text ";"]))

lemma mem_introduced_groupCode (hg : ReadsFrom g source) :
    v ∈ introduced (groupCode g naming codecs) ↔ v = g.parser ∨ ∃ c ∈ codecs, v = c.var := by
  unfold groupCode
  rw [introduced_append, List.mem_append, mem_introduced_all]
  simp [introduced, mem_lineBinds, hg.binds, binds_expression, or_comm]

/-- The statement that parts with the group if one of the parameters is not there. -/
def groupExit (g : ReadingGroup) (codecs : List ParamCodec) : Code :=
  .block .after
    (.text "let (" ::
      Line.joined ", " (codecs.map fun c => [.text "Some(", .binds c.var, .text ")"]) ++
      .text ",) = (" :: Line.joined ", " (codecs.map fun c => [.reads c.var]) ++ [.text ",) else"])
    (.line (g.failure [.reads g.parser, .text ".into_errors()"]))
    [.text "\x7d;"]

lemma group_code_eq (hne : codecs ≠ []) :
    g.code naming codecs = groupCode g naming codecs ++ groupExit g codecs := by
  unfold ReadingGroup.code
  rw [if_neg (by rwa [List.isEmpty_iff])]
  rfl

lemma mem_introduced_groupExit :
    v ∈ introduced (groupExit g codecs) ↔ ∃ c ∈ codecs, v = c.var := by
  simp [groupExit, introduced, mem_lineBinds, mem_joined]

lemma mem_introduced_group (hg : ReadsFrom g source)
    (hv : v ∈ introduced (g.code naming codecs)) : v = g.parser ∨ ∃ c ∈ codecs, v = c.var := by
  by_cases hne : codecs = []
  · subst hne
    exact absurd hv List.not_mem_nil
  · rw [group_code_eq hne, introduced_append, List.mem_append] at hv
    rcases hv with hv | hv
    · exact Or.inr (mem_introduced_groupExit.1 hv)
    · exact (mem_introduced_groupCode hg).1 hv

lemma introduced_group_of_mem {c : ParamCodec} (hc : c ∈ codecs) :
    c.var ∈ introduced (g.code naming codecs) := by
  rw [group_code_eq (List.ne_nil_of_mem hc), introduced_append]
  exact List.mem_append_left _ (mem_introduced_groupExit.2 ⟨c, hc, rfl⟩)

lemma hygienic_groupCode (hg : ReadsFrom g source) (hdistinct : Distinct codecs)
    (hsource : Provides scope (own source)) : Hygienic scope (groupCode g naming codecs) := by
  refine hygienic_append.2 ⟨hygienic_line.2 fun w hw => ?_, ?_⟩
  · rw [hg.reads w (by simpa using hw)]
    exact hsource
  refine hygienic_all (P := fun w => ∃ c ∈ codecs, w = c.var) ?_ ?_
  · rw [List.forall_mem_map]
    intro c hc w hw
    have hbind : w = c.var := by simpa [introduced, mem_lineBinds, binds_expression] using hw
    exact ⟨c, hc, hbind⟩
  · rw [List.forall_mem_map]
    intro c hc bs hbs
    rw [hygienic_line]
    intro w hw
    have hread : .reads w ∈ (c.reading naming).expression [.reads g.parser] := by simpa using hw
    rw [reads_expression hread, ← List.append_assoc]
    refine hdistinct.separate.provides (List.forall_mem_append.2 ⟨?_, ?_⟩) ?_
    · exact fun w hw => Or.inr (hbs w hw)
    · intro w hw
      have hbind : w = g.parser := by simpa [introduced, mem_lineBinds, hg.binds] using hw
      exact Or.inl (hbind ▸ hg.parser)
    · exact List.mem_append_right _ (by simp [introduced, mem_lineBinds])

/-- Reading a group is hygienic wherever its source and the log fields are found. -/
lemma hygienic_group (hg : ReadsFrom g source) (hdistinct : Distinct codecs)
    (hsource : codecs ≠ [] → Provides scope (own source))
    (hlog : Provides scope (own "log_fields")) : Hygienic scope (g.code naming codecs) := by
  by_cases hcodecs : codecs = []
  · subst hcodecs
    exact hygienic_nothing
  have hlocal : ∀ w ∈ introduced (groupCode g naming codecs), GroupVar codecs w := by
    intro w hw
    rcases (mem_introduced_groupCode hg).1 hw with rfl | hparam
    · exact Or.inl hg.parser
    · exact Or.inr hparam
  have hread : Hygienic scope (groupCode g naming codecs) :=
    hygienic_groupCode hg hdistinct (hsource hcodecs)
  rw [group_code_eq hcodecs, hygienic_append]
  refine ⟨hread, hygienic_after.2 ⟨?_, hygienic_line.2 ?_, by simp⟩⟩
  · intro w hw
    have hparam : ∃ c ∈ codecs, w = c.var := by simpa [mem_joined] using hw
    refine hdistinct.separate.provides hlocal ?_
    exact (mem_introduced_groupCode hg).2 (Or.inr hparam)
  · intro w hw
    rcases hg.failure _ w hw with rfl | hfaults
    · refine hlog.append fun u hu => ?_
      refine hdistinct.separate.key_ne (hlocal u hu) (Or.inl ⟨rfl, by decide⟩) ?_
      rcases (mem_introduced_groupCode hg).1 hu with rfl | ⟨c, -, rfl⟩
      · exact hg.notLog
      · exact fun h => Owner.noConfusion (congrArg Var.owner h)
    · have hw : w = g.parser := by simpa using hfaults
      refine hdistinct.separate.provides hlocal ?_
      exact (mem_introduced_groupCode hg).2 (Or.inl hw)

variable (naming) in
/-- A group of parameters as a stage of a function. -/
lemma Stage.group {sig : Signature} {a : Code} {known : List Var}
    (h : Stage (FunctionVar sig) scope a known) (hsep : Separate (FunctionVar sig))
    (hdistinct : Distinct sig.params) (hcodecs : codecs ⊆ sig.params) (hg : ReadsFrom g source)
    (hsource : codecs ≠ [] → own source ∈ known) (hlog : own "log_fields" ∈ known) :
    Stage (FunctionVar sig) scope (a ++ g.code naming codecs)
      (codecs.map ParamCodec.var ++ known) := by
  refine h.next hsep (fun inner hknown => ?_) (fun w hw => Or.inl ?_) ?_
  · exact hygienic_group hg (hdistinct.mono hcodecs) (fun hne => hknown _ (hsource hne))
      (hknown _ hlog)
  · rcases mem_introduced_group hg hw with rfl | ⟨c, hc, rfl⟩
    · exact Or.inl hg.parser
    · exact Or.inr ⟨c, hcodecs hc, rfl⟩
  · rw [List.forall_mem_map]
    exact fun c hc => introduced_group_of_mem hc

end Groups

end ApiCodegen.Proofs
