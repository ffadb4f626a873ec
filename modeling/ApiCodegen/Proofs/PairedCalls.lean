import ApiCodegen.Proofs.FileSources

/-!
# Calls with their counterparts

The layout of code is that of the calls that made it, one after the other (`steps_ofCalls`): where
blocks are found among the calls adds nothing. Code is paired if each call in it that goes in has a
counterpart that goes back. Nothing in a writer sees to that. It holds of each emitter by itself,
and of the loops of an emitter by what one turn writes.
-/

namespace ApiCodegen.Proofs

/-! ### The layout of calls -/

/-- The layout of a call. -/
def callSteps : Call → List Step
  | .code c => c.steps
  | .opening _ head => [.opening head.render]
  | .closing close => [.closing close.render]
  | .indent => [.indent]
  | .dedent => [.dedent]
  | .ends l => [.line l.render]

/-- The layout of what is complete. -/
def doneSteps (done : Option Code) : List Step :=
  done.elim [] Code.steps

/-- The layout of what is open, with what is complete before each opening. -/
def pendingSteps : List (Opened × Option Code) → List Step
  | [] => []
  | (opened, before) :: pending =>
    pendingSteps pending ++ doneSteps before ++ (Draft.loose opened).steps

section Layout

variable {d : Draft} {done : Option Code} {pending : List (Opened × Option Code)}

@[simp] lemma steps_append (a b : Code) : (a ++ b).steps = a.steps ++ b.steps := rfl

@[simp] lemma doneSteps_none : doneSteps none = [] := rfl

@[simp] lemma doneSteps_some (c : Code) : doneSteps (some c) = c.steps := rfl

@[simp] lemma doneSteps_append (c : Code) :
    doneSteps (Draft.append done c) = doneSteps done ++ c.steps := by
  cases done <;> rfl

@[simp] lemma steps_getD : (done.getD .nothing).steps = doneSteps done := by
  cases done <;> rfl

/-- A call lays out its own steps after those of the calls before. -/
lemma steps_call (c : Call) :
    pendingSteps (d.call c).pending ++ doneSteps (d.call c).done =
      pendingSteps d.pending ++ doneSteps d.done ++ callSteps c := by
  fun_cases Draft.call d c <;>
    simp [pendingSteps, callSteps, Code.steps, Code.closeSteps, Draft.loose, Stray.step]

lemma steps_close : (Draft.close done pending).steps = pendingSteps pending ++ doneSteps done := by
  induction pending generalizing done with
  | nil => exact steps_getD
  | cons first pending ih =>
    rw [Draft.close, ih, pendingSteps, doneSteps_append, steps_append, steps_getD]
    simp only [List.append_assoc]

/-- The layout of code is that of the calls that made it. -/
theorem steps_ofCalls (calls : List Call) :
    (Code.ofCalls calls).steps = calls.flatMap callSteps := by
  have hfold : ∀ d : Draft, (calls.foldl Draft.call d).finish.steps =
      pendingSteps d.pending ++ doneSteps d.done ++ calls.flatMap callSteps := by
    induction calls with
    | nil =>
      intro d
      rw [List.flatMap_nil, List.append_nil]
      exact steps_close
    | cons c calls ih =>
      intro d
      rw [List.foldl_cons, ih, steps_call, List.flatMap_cons, List.append_assoc]
  exact hfold ⟨none, []⟩

end Layout

/-! ### Paired calls -/

/-- Each call in the code that goes in has its counterpart. -/
@[simp] def Paired : Code → Prop
  | .nothing | .line _ | .arm _ | .blank | .doc _ => True
  | .block _ _ body _ | .hanging _ body _ => Paired body
  | .stray _ => False
  | .seq first second => Paired first ∧ Paired second

/-- Pairing is decided along the tree. -/
def decidePaired : (c : Code) → Decidable (Paired c)
  | .nothing | .line _ | .arm _ | .blank | .doc _ => .isTrue trivial
  | .block _ _ body _ | .hanging _ body _ => decidePaired body
  | .stray _ => .isFalse id
  | .seq first second => @instDecidableAnd _ _ (decidePaired first) (decidePaired second)

instance : DecidablePred Paired := decidePaired

/-- An opening without its closing is not paired, and a step back that comes first is not. -/
example : ¬Paired (.ofCalls [.opening .inside ["match value"], .line ["_ => 0,"]]) ∧
    ¬Paired (.ofCalls [.dedent, .line ["0"], .indent]) := by
  decide

section Pieces

variable {a b : Code} {codes : List Code}

@[simp] lemma paired_append : Paired (a ++ b) ↔ Paired a ∧ Paired b := Iff.rfl

@[simp] lemma paired_all : Paired (.all codes) ↔ ∀ c ∈ codes, Paired c := by
  induction codes with
  | nil => simp [Code.all]
  | cons c codes ih =>
    rw [List.forall_mem_cons, ← ih]
    exact Iff.rfl

@[simp] lemma paired_texts (lines : List String) : Paired (.texts lines) := by
  simp [Code.texts]

@[simp] lemma paired_braces (head : Line) : Paired (.braces head b) ↔ Paired b := Iff.rfl

end Pieces

/-! ### Models -/

section Models

variable {s : ModelScope} {model : String} {here : Location} {f : Field} {m : Model} {code : Code}

lemma paired_fieldCode (h : s.fieldCode model here f = .ok code) : Paired code := by
  obtain ⟨t, -, hcode⟩ := bind_eq_ok_iff.1 h
  cases hcode
  unfold ModelScope.attributeCode
  split <;> simp

lemma paired_itemCode (h : s.itemCode model here f = .ok code) : Paired code := by
  obtain ⟨t, -, hcode⟩ := bind_eq_ok_iff.1 h
  cases hcode
  simp

lemma paired_objectCode {fields : List Field} (h : s.objectCode m here fields = .ok code) :
    Paired code := by
  obtain ⟨body, hbody, hcode⟩ := bind_eq_ok_iff.1 h
  cases hcode
  simpa using forall_of_mapM (fun _ _ => paired_fieldCode) hbody

lemma paired_choiceCode {items : List Field} {discriminator : Option String}
    (h : s.choiceCode m here items discriminator = .ok code) : Paired code := by
  obtain ⟨body, hbody, hcode⟩ := bind_eq_ok_iff.1 h
  cases hcode
  have hitems := forall_of_mapM (fun _ _ => paired_itemCode) hbody
  cases discriminator <;> simpa using hitems

lemma paired_enumTextCode (name : String) (values : List EnumValue) :
    Paired (s.enumTextCode name values) := by
  simp [ModelScope.enumTextCode]

lemma paired_enumCode (values : List EnumValue) : Paired (s.enumCode m values) := by
  simp [ModelScope.enumCode, ModelScope.valueCode, paired_enumTextCode]

lemma paired_modelCode (h : s.modelCode here m = .ok code) : Paired code := by
  unfold ModelScope.modelCode at h
  cases hkind : m.kind with
  | object fields =>
    rw [hkind] at h
    exact paired_objectCode h
  | oneOf items discriminator =>
    rw [hkind] at h
    exact paired_choiceCode h
  | enum values =>
    rw [hkind] at h
    cases h
    exact paired_enumCode values

lemma paired_modelsCode {scope : Scope} {naming : Naming} {paths : TypePaths} {models : List Model}
    (h : modelsCode scope naming paths here models = .ok code) : Paired code := by
  obtain ⟨codes, hcodes, hcode⟩ := bind_eq_ok_iff.1 h
  cases hcode
  simpa using forall_of_mapM (fun _ _ => paired_modelCode) hcodes

end Models

/-! ### Operations -/

section Operations

variable {naming : Naming}

lemma paired_formCode (s : Signature) : Paired (s.formCode naming) := by
  unfold Signature.formCode
  cases s.body <;> simp

lemma paired_variantCode (v : ResponseVariant) : Paired (Signature.variantCode naming v) := by
  unfold Signature.variantCode
  split <;> simp

lemma paired_responseCode (s : Signature) : Paired (s.responseCode naming) := by
  unfold Signature.responseCode
  cases s.returns <;> simp [paired_variantCode]

lemma paired_groupCode (g : ReadingGroup) (codecs : List ParamCodec) :
    Paired (g.code naming codecs) := by
  unfold ReadingGroup.code
  split <;> simp

lemma paired_writingCode (writer : Var) (place : ParamCodec → Line) (codecs : List ParamCodec) :
    Paired (writingCode writer place codecs) := by
  unfold writingCode
  split <;> simp

lemma paired_clientDispatch (branches : List ClientBranch) :
    Paired (ClientBranch.dispatch naming branches) := by
  simp [ClientBranch.dispatch, ClientBranch.branchCode]

lemma paired_serviceDispatch (call : Line) (arms : List ServiceArm) :
    Paired (ServiceArm.dispatch call arms) := by
  simp [ServiceArm.dispatch]

end Operations

/-! ### Handlers -/

section Handlers

variable {naming : Naming}

lemma paired_contentTypeCode (expected : String) : Paired (Handler.contentTypeCode expected) := by
  simp [Handler.contentTypeCode]

lemma paired_handlerBody (body : BodyShape) : Paired (Handler.bodyCode naming body) := by
  cases body with
  | none => trivial
  | text => simp [Handler.bodyCode, Handler.textCode, paired_contentTypeCode]
  | json type =>
    simp [Handler.bodyCode, Handler.jsonCode, Handler.refusalArm, paired_contentTypeCode]
  | form structName fields multipart =>
    unfold Handler.bodyCode
    refine paired_append.2 ⟨paired_contentTypeCode _, ?_⟩
    split
    · cases multipart <;> simp [Handler.emptyFormCode]
    · cases multipart <;> simp [Handler.fieldsCode, Handler.refusalArm, paired_groupCode]

/-- A handler goes in for its arguments and for its body. -/
lemma paired_handler {h : Handler} (hbody : Paired h.body) : Paired h.code := by
  simpa [Handler.code] using hbody

lemma paired_handlerCode (traitName urlPrefix api : String) (s : Signature) :
    Paired (Handler.ofSignature naming traitName urlPrefix api s).code :=
  paired_handler (by
    simp [Handler.ofSignature, paired_groupCode, paired_handlerBody, paired_serviceDispatch])

end Handlers

/-! ### Methods of clients -/

section Methods

variable {naming : Naming}

lemma paired_queryCode (codecs : List ParamCodec) : Paired (ClientMethod.queryCode codecs) := by
  unfold ClientMethod.queryCode
  split <;> simp [paired_writingCode]

lemma paired_headerCode (codecs : List ParamCodec) : Paired (ClientMethod.headerCode codecs) := by
  unfold ClientMethod.headerCode
  split <;> simp [paired_writingCode]

lemma paired_sentForm (multipart : Bool) : Paired (ClientMethod.formCode multipart) := by
  cases multipart <;> simp [ClientMethod.formCode]

lemma paired_methodBody (body : BodyShape) : Paired (ClientMethod.bodyCode body) := by
  cases body with
  | none => trivial
  | text => simp [ClientMethod.bodyCode]
  | json type => simp [ClientMethod.bodyCode]
  | form structName fields multipart =>
    refine paired_append.2 ⟨?_, paired_sentForm multipart⟩
    split <;> simp [paired_writingCode]

lemma paired_method {m : ClientMethod} (hcomment : Paired m.comment) (hbody : Paired m.body) :
    Paired m.code := by
  simp [ClientMethod.code, hcomment, hbody]

lemma paired_methodCode (urlPrefix api : String) (s : Signature) (errors : List ErrorVariant) :
    Paired (ClientMethod.ofSignature naming urlPrefix api s errors).code := by
  refine paired_method ?_ ?_
  · unfold ClientMethod.ofSignature
    dsimp only
    split <;> simp
  · simp [ClientMethod.ofSignature, paired_queryCode, paired_headerCode, paired_methodBody,
      paired_clientDispatch]

end Methods

/-! ### Files -/

section Files

variable {e : Emission} {v : Version} {a : Api} {sigs : List Signature} {f : SourceFile}

lemma paired_errorTypeCode (variants : List ErrorVariant) : Paired (e.errorTypeCode variants) := by
  have hservice : ∀ v : ErrorVariant, Paired (serviceVariantCode e.naming v) := by
    intro v
    unfold serviceVariantCode ErrorVariant.docCode ErrorVariant.valueCode
    split <;> simp
  have harm : ∀ v : ErrorVariant, Paired (respondArm v) := by
    intro v
    unfold respondArm
    cases v.handling <;> simp
  unfold Emission.errorTypeCode
  split
  · trivial
  · simp [clientErrorCode, ErrorVariant.docCode, ErrorVariant.valueCode]
  · simp [serviceErrorCode, hservice, harm]

lemma paired_typesCode : Paired (Signature.typesCode e.naming sigs) := by
  simp [Signature.typesCode, paired_formCode, paired_responseCode]

lemma paired_spaced {codes : List Code} (h : ∀ c ∈ codes, Paired c) : Paired (spaced codes) := by
  fun_induction spaced codes with
  | case1 => trivial
  | case2 c => exact h c List.mem_cons_self
  | case3 c cs _ ih =>
    exact ⟨⟨h c List.mem_cons_self, trivial⟩, ih fun c' hc' => h c' (List.mem_cons_of_mem _ hc')⟩

lemma paired_serviceBody : Paired (e.serviceBody a sigs) := by
  have hmethods : Paired (spaced (sigs.map (·.traitMethodCode e.naming))) :=
    paired_spaced (by simp [Signature.traitMethodCode])
  simp [Emission.serviceBody, paired_typesCode, hmethods]

lemma paired_routerCode : Paired (e.routerCode v a sigs) := by
  simp [Emission.routerCode, RouteGroup.code]

/-- The lines in front of the code of a file keep to themselves. -/
lemma paired_file (root : String) (hbody : Paired f.body) : Paired (f.code root) := by
  have hmodules : Paired f.submodulesCode := by
    unfold SourceFile.submodulesCode
    split <;> simp
  have huses : Paired (Imports.ofUses root f.uses).code := by
    unfold Imports.code
    split <;> simp
  unfold SourceFile.code
  split <;> simp [hmodules, huses, hbody]

/-- A file of source text that a run emits. -/
theorem paired_of_emitted {path : TreePath} (h : Emitted e ⟨path, .source f⟩) : Paired f.body := by
  generalize hfile : TreeFile.mk path (.source f) = file at h
  cases h with
  | rootIndex | support | versionIndex | skeletonIndex | versionSkeletonIndex => cases hfile
  | errors hf =>
    obtain ⟨variants, -, hf⟩ := bind_eq_ok_iff.1 hf
    obtain ⟨models, hmodels, hf⟩ := bind_eq_ok_iff.1 hf
    cases hf
    cases hfile
    exact ⟨paired_modelsCode hmodels, paired_errorTypeCode variants⟩
  | router =>
    cases hfile
    simp [SourceFile.plain]
  | models hv hfiles hf =>
    unfold Emission.modelFiles at hfiles
    split at hfiles
    · cases hfiles
      cases hf
    · obtain ⟨body, hbody, hfiles⟩ := bind_eq_ok_iff.1 hfiles
      cases hfiles
      cases List.mem_singleton.1 hf
      cases hfile
      exact paired_modelsCode hbody
  | client hrun hv ha hf =>
    obtain ⟨sigs, -, hf⟩ := bind_eq_ok_iff.1 hf
    obtain ⟨errors, -, hf⟩ := bind_eq_ok_iff.1 hf
    cases hf
    cases hfile
    simp [SourceFile.plain, paired_typesCode, Emission.clientStructCode,
      Emission.clientConstructorsCode, Emission.clientMethods, paired_methodCode]
  | service hrun hv ha hfiles hf =>
    obtain ⟨sigs, -, rfl⟩ := serviceFiles_source hfiles
    rcases List.mem_pair.1 hf with rfl | rfl
    · cases hfile
      exact paired_serviceBody
    · cases hfile
      exact ⟨paired_routerCode, by simp [Emission.handlers, paired_handlerCode]⟩
  | skeleton hrun hv ha hf =>
    obtain ⟨sigs, methods, -, rfl⟩ := skeletonFile_source hf
    cases hfile

end Files

end ApiCodegen.Proofs
