import ApiCodegen.Proofs.CasedNames
import ApiCodegen.Proofs.HandlerNeeds
import Mathlib.Data.List.SplitBy

/-!
# Imports of routing files

Handlers are written one by one, and their file imports what the API as a whole needs. What one
handler uses of the imports under conditions is what the needs of its own operation bring.
-/

namespace ApiCodegen.Proofs

/-! ### What occurs in code -/

/-- A piece stands on a line of code. -/
def Occurs (p : Piece) (c : Code) : Prop :=
  ∃ l ∈ c.lines, p ∈ l

section Occurrences

variable {p : Piece} {a b : Code} {l : Line} {name : String}

lemma mem_importedNames_iff : name ∈ a.importedNames ↔ Occurs (.imported name) a := by
  have hline : ∀ l : Line, name ∈ l.importedNames ↔ .imported name ∈ l := by
    intro l
    unfold Line.importedNames
    rw [List.mem_filterMap]
    constructor
    · rintro ⟨p, hp, h⟩
      cases p <;> simp_all
    · exact fun h => ⟨_, h, rfl⟩
  unfold Code.importedNames
  rw [List.mem_flatMap]
  simp only [hline, Occurs]

lemma occurs_nothing : Occurs p .nothing ↔ False := by simp [Occurs, Code.lines]

lemma occurs_line : Occurs p (.line l) ↔ p ∈ l := by simp [Occurs, Code.lines]

lemma occurs_arm : Occurs p (.arm l) ↔ p ∈ l := by simp [Occurs, Code.lines]

lemma occurs_append : Occurs p (a ++ b) ↔ Occurs p a ∨ Occurs p b := by
  simp only [Occurs, lines_append, List.mem_append, or_and_right, exists_or]

lemma occurs_block {binding : Binding} {close : Line} :
    Occurs p (.block binding l a close) ↔ p ∈ l ∨ Occurs p a ∨ p ∈ close := by
  simp [Occurs, Code.lines, or_and_right, exists_or]

lemma occurs_hanging {close : Option Line} :
    Occurs p (.hanging l a close) ↔ p ∈ l ∨ Occurs p a ∨ ∃ k ∈ close, p ∈ k := by
  simp [Occurs, Code.lines, or_and_right, exists_or]

lemma occurs_all {codes : List Code} : Occurs p (.all codes) ↔ ∃ c ∈ codes, Occurs p c := by
  unfold Occurs
  rw [lines_all]
  simp only [List.mem_flatMap]
  tauto

end Occurrences

/-! ### What a handler uses -/

section Handlers

variable {naming : Naming} {name : String} {codecs : List ParamCodec} {g : ReadingGroup}
  {s : Signature}

lemma imported_expression {r : ParamReading} {parser : Var} :
    .imported name ∉ r.expression [.reads parser] := by
  obtain ⟨accessor, name, element, restricted, lifted⟩ := r
  cases accessor <;> cases restricted <;> cases lifted <;>
    simp [ParamReading.expression, ParamReading.defaultArgument, ParamReading.allowedArgument]

/-- A group uses what makes its parser and what refuses the request. -/
lemma occurs_group : Occurs (.imported name) (g.code naming codecs) ↔
    codecs ≠ [] ∧ (.imported name ∈ g.source ∨
      .imported name ∈ g.failure [.reads g.parser, .text ".into_errors()"]) := by
  by_cases hne : codecs = []
  · subst hne
    exact ⟨fun h => (occurs_nothing.1 h).elim, fun h => absurd rfl h.1⟩
  · rw [group_code_eq hne]
    simp [groupCode, groupExit, occurs_append, occurs_line, occurs_all, occurs_block, mem_joined,
      imported_expression, hne]

lemma isMultipart_iff {body : BodyShape} :
    Handler.isMultipart body = true ↔ kindOf body = .formData := by
  cases body with
  | none | text | json type => simp [Handler.isMultipart, kindOf]
  | form structName fields multipart => cases multipart <;> simp [Handler.isMultipart, kindOf]

lemma readsBytes_iff {body : BodyShape} : Handler.readsBytes body = true ↔
    kindOf body = .rawString ∨ kindOf body = .json ∨
      kindOf body = .formUrlEncoded ∧ fieldsOf body ≠ [] := by
  cases body with
  | none | text | json type => simp [Handler.readsBytes, kindOf]
  | form structName fields multipart =>
    cases multipart <;> simp [Handler.readsBytes, kindOf, fieldsOf]

lemma eq_none_iff {body : BodyShape} : body = .none ↔ kindOf body = .empty := by
  cases body with
  | none | text | json type => simp [kindOf]
  | form structName fields multipart => cases multipart <;> simp [kindOf]

/-- The parts of a request that a handler takes. -/
lemma occurs_extractors (traitName : String) :
    (∃ l ∈ Handler.extractorsOf traitName s, .imported name ∈ l) ↔
      s.url ≠ [] ∧ name = "Path" ∨ s.query ≠ [] ∧ name = "Query" ∨
        (s.header ≠ [] ∨ kindOf s.body ≠ .empty) ∧ name = "HeaderMap" ∨
        kindOf s.body = .formData ∧ (name = "Multipart" ∨ name = "MultipartRejection") ∨
        Handler.readsBytes s.body = true ∧ name = "Bytes" := by
  simp [Handler.extractorsOf, Piece.newLocal, or_and_right, exists_or, eq_none_iff, isMultipart_iff]

lemma occurs_contentType (expected : String) :
    Occurs (.imported name) (Handler.contentTypeCode expected) ↔ name = "content_type" := by
  simp [Handler.contentTypeCode, Code.braces, occurs_block, occurs_line, Handler.log,
    Piece.newLocal, Piece.ofLocal]

lemma occurs_formGroup {multipart : Bool} :
    Occurs (.imported name) ((Handler.formGroup multipart).code naming codecs) ↔
      codecs ≠ [] ∧ (multipart = false ∧ name = "form" ∨ name = "ParamsParser" ∨
        name = "BadRequestError" ∨ name = "ErrorLocation" ∨ name = "convert") := by
  have hsource : .imported name ∈ Handler.formSource multipart ↔
      multipart = false ∧ name = "form" := by
    cases multipart <;> simp [Handler.formSource, Piece.ofLocal]
  rw [occurs_group]
  simp [Handler.formGroup, hsource, Handler.badRequest, Handler.log, Piece.ofLocal, or_assoc,
    or_left_comm]

/-- A payload is read after its content type has been checked. -/
lemma occurs_bodyCode (body : BodyShape) :
    Occurs (.imported name) (Handler.bodyCode naming body) ↔
      kindOf body ≠ .empty ∧ name = "content_type" ∨
        kindOf body = .rawString ∧ (name = "BadRequestError" ∨ name = "ErrorLocation") ∨
        kindOf body = .json ∧ name = "json" ∨
        (kindOf body = .formData ∨ kindOf body = .formUrlEncoded ∧ fieldsOf body ≠ []) ∧
          name = "form" ∨
        fieldsOf body ≠ [] ∧ (name = "ParamsParser" ∨ name = "BadRequestError" ∨
          name = "ErrorLocation" ∨ name = "convert") := by
  cases body with
  | none => simp [Handler.bodyCode, occurs_nothing, kindOf, fieldsOf]
  | text =>
    simp [Handler.bodyCode, Handler.textCode, Code.braces, Code.texts, occurs_append, occurs_block,
      occurs_arm, occurs_line, occurs_hanging, occurs_all, occurs_contentType, Handler.log,
      Piece.newLocal, Piece.ofLocal, kindOf, fieldsOf]
  | json type =>
    simp [Handler.bodyCode, Handler.jsonCode, Handler.refusalArm, occurs_append, occurs_block,
      occurs_arm, occurs_contentType, Handler.log, Piece.newLocal, Piece.ofLocal, kindOf, fieldsOf]
  | form structName fields multipart =>
    cases fields with
    | nil =>
      cases multipart <;>
        simp [Handler.bodyCode, Handler.emptyFormCode, Handler.multipartCall, Code.braces,
          occurs_append, occurs_block, occurs_line, occurs_nothing, occurs_contentType, Handler.log,
          Piece.newLocal, Piece.ofLocal, kindOf, fieldsOf]
    | cons c cs =>
      cases multipart <;>
        simp [Handler.bodyCode, Handler.fieldsCode, Handler.multipartCall, Handler.refusalArm,
          occurs_append, occurs_block, occurs_line, occurs_arm, occurs_nothing, occurs_contentType,
          occurs_formGroup, mem_joined, Handler.log, Piece.newLocal, Piece.ofLocal, kindOf,
          fieldsOf]

lemma occurs_dispatch (arms : List ServiceArm) :
    ¬Occurs (.imported name) (ServiceArm.dispatch (Handler.callLine s) arms) := by
  have harm : ∀ a : ServiceArm, .imported name ∉ a.line := by
    rintro ⟨outcome, code, payload⟩
    cases outcome <;> cases payload <;>
      simp [ServiceArm.line, ServiceArm.pattern?, ServiceArm.writerLine, Outcome.line,
        Piece.newLocal, Piece.ofLocal]
  simp [ServiceArm.dispatch, Code.braces, occurs_block, occurs_append, occurs_all, occurs_arm,
    ServiceArm.errorLine, Handler.callLine, mem_joined, Piece.ofLocal, harm]

/-- What a handler uses, part by part. -/
lemma occurs_handler (traitName urlPrefix api : String) :
    Occurs (.imported name) (Handler.ofSignature naming traitName urlPrefix api s).code ↔
      (∃ l ∈ Handler.extractorsOf traitName s, .imported name ∈ l) ∨
      s.url ≠ [] ∧ name = "ParamsParser" ∨
      s.header ≠ [] ∧ (name = "ParamsParser" ∨ name = "content_type" ∨ name = "BadRequestError" ∨
        name = "ErrorLocation" ∨ name = "convert") ∨
      s.query ≠ [] ∧ (name = "ParamsParser" ∨ name = "BadRequestError" ∨ name = "ErrorLocation" ∨
        name = "convert") ∨
      Occurs (.imported name) (Handler.bodyCode naming s.body) := by
  have hextractors : Occurs (.imported name) (.all ((Handler.extractorsOf traitName s).map fun l =>
      .line (l ++ [.text ","]))) ↔ ∃ l ∈ Handler.extractorsOf traitName s, .imported name ∈ l := by
    simp [occurs_all, occurs_line]
  have hurl : Occurs (.imported name) (Handler.urlGroup.code naming s.url) ↔
      s.url ≠ [] ∧ name = "ParamsParser" := by
    rw [occurs_group]
    simp [Handler.urlGroup, Handler.log, Piece.ofLocal]
  have hheader : Occurs (.imported name) (Handler.headerGroup.code naming s.header) ↔
      s.header ≠ [] ∧ (name = "ParamsParser" ∨ name = "content_type" ∨ name = "BadRequestError" ∨
        name = "ErrorLocation" ∨ name = "convert") := by
    rw [occurs_group]
    simp [Handler.headerGroup, Handler.badRequest, Handler.log, Piece.ofLocal, or_assoc]
  have hquery : Occurs (.imported name) (Handler.queryGroup.code naming s.query) ↔
      s.query ≠ [] ∧ (name = "ParamsParser" ∨ name = "BadRequestError" ∨ name = "ErrorLocation" ∨
        name = "convert") := by
    rw [occurs_group]
    simp [Handler.queryGroup, Handler.badRequest, Handler.log, Piece.ofLocal]
  change Occurs _ (.hanging _ (.all _) none ++
    .braces _ (Handler.ofSignature naming traitName urlPrefix api s).body) ↔ _
  unfold Handler.ofSignature Code.braces
  simp only [occurs_append, occurs_hanging, occurs_block, hextractors, hurl, hheader, hquery,
    occurs_dispatch, occurs_line]
  simp [Piece.newLocal, Piece.ofLocal, or_assoc]

/-- A handler uses what an import under a condition brings exactly if the import stands for the
needs of the handler. -/
lemma occurs_iff_mem_uses {u : UsePath} (hu : u ∈ conditionalUses) (hname : name ∈ namesOf u)
    (traitName urlPrefix api : String) :
    Occurs (.imported name) (Handler.ofSignature naming traitName urlPrefix api s).code ↔
      u ∈ (needsOf s).uses := by
  have hlasts : lastSegment "axum::extract::Path" = "Path" ∧
      lastSegment "axum::extract::Query" = "Query" ∧
      lastSegment "axum::extract::Multipart" = "Multipart" ∧
      lastSegment "axum::extract::multipart::MultipartRejection" = "MultipartRejection" ∧
      lastSegment "axum::http::HeaderMap" = "HeaderMap" ∧
      lastSegment "axum::body::Bytes" = "Bytes" := by decide +kernel
  rw [occurs_handler, occurs_extractors, occurs_bodyCode, readsBytes_iff]
  simp only [conditionalUses, List.mem_cons, List.not_mem_nil, or_false] at hu
  rcases hu with rfl | rfl | rfl | rfl | rfl | rfl | rfl | rfl | rfl | rfl | rfl | rfl
  all_goals simp only [namesOf, hlasts, List.mem_cons, List.not_mem_nil, or_false,
    List.getLast?_singleton, Option.toList_some] at hname
  case inr.inl =>
    rcases hname with rfl | rfl <;> simp [HandlerNeeds.uses, mem_useIf_iff, needsOf] <;> grind
  all_goals
    subst hname
    simp [HandlerNeeds.uses, mem_useIf_iff, needsOf, HandlerNeeds.anyBody]
  case inr.inr.inr.inl => cases kindOf s.body <;> simp
  all_goals grind

lemma mem_conditionalNames_of_occurs {traitName urlPrefix api : String}
    (h : Occurs (.imported name) (Handler.ofSignature naming traitName urlPrefix api s).code) :
    name ∈ conditionalNames := by
  rw [occurs_handler, occurs_extractors, occurs_bodyCode] at h
  simp only [conditionalNames, List.mem_cons, List.not_mem_nil, or_false]
  grind

end Handlers

/-! ### Fixed texts -/

/-- A character of words. -/
def isWordChar (c : Char) : Bool := c.isAlphanum || c == '_'

/-- The groups of characters that follow neither a dot nor a colon, for the character before the
groups. -/
def headsAfter : Char → List (List Char) → List (List Char)
  | _, [] => []
  | before, g :: gs =>
    let rest := headsAfter (g.getLast?.getD before) gs
    if before = '.' ∨ before = ':' then rest else g :: rest

/-- The words of a text that may name what is imported: all but those that follow a dot or a colon,
which name a member of what stands before. -/
def heads (t : String) : List String :=
  (headsAfter ' ' (t.toList.splitBy fun a b => isWordChar a == isWordChar b)).map String.ofList

/-- A text names nothing that is imported under a condition. -/
def namesNone (t : String) : Bool :=
  (heads t).all fun word => !conditionalNames.contains word

/-- A piece that is a fixed text names nothing that is imported under a condition. -/
def plainPiece : Piece → Bool
  | .text t => namesNone t
  | .binds _ | .reads _ | .spelled _ | .quoted _ | .declares _ | .item _ | .imported _
  | .copied _ => true

/-- The fixed texts of a line name nothing that is imported under a condition. -/
def plainLine (l : Line) : Bool :=
  l.all plainPiece

/-- The fixed texts of code name nothing that is imported under a condition. -/
def plainCode (c : Code) : Bool :=
  c.lines.all plainLine

section FixedTexts

variable {t : String} {a b : Code} {l : Line} {ls : List Line} {naming : Naming}
  {codecs : List ParamCodec} {g : ReadingGroup} {s : Signature} {cs : List Char}

lemma mem_of_mem_headsAfter {before : Char} {gs : List (List Char)}
    (h : cs ∈ headsAfter before gs) : cs ∈ gs := by
  induction gs generalizing before with
  | nil => cases h
  | cons g gs ih =>
    rw [headsAfter] at h
    split at h
    · exact List.mem_cons_of_mem _ (ih h)
    · rcases List.mem_cons.1 h with rfl | h
      · exact List.mem_cons_self
      · exact List.mem_cons_of_mem _ (ih h)

/-- A text without letters names nothing. -/
lemma namesNone_of_any_eq_false (h : t.toList.any Char.isAlpha = false) : namesNone t = true := by
  have hletter : conditionalNames.all (fun name => name.toList.any Char.isAlpha) = true := by
    decide +kernel
  unfold namesNone
  rw [List.all_eq_true]
  intro word hword
  obtain ⟨cs, hcs, rfl⟩ := List.mem_map.1 hword
  rw [Bool.not_eq_true', ← Bool.not_eq_true, List.contains_iff_mem]
  intro hmem
  obtain ⟨c, hc, halpha⟩ := List.any_eq_true.1 (List.all_eq_true.1 hletter _ hmem)
  rw [String.toList_ofList] at hc
  have hin : c ∈ t.toList := by
    rw [← List.flatten_splitBy (fun a b => isWordChar a == isWordChar b) t.toList]
    exact List.mem_flatten_of_mem (mem_of_mem_headsAfter hcs) hc
  exact List.any_eq_false.1 h c hin halpha

lemma not_mem_heads {name : String} (h : namesNone t = true) (hname : name ∈ conditionalNames) :
    name ∉ heads t := by
  intro hhead
  have hnot := List.all_eq_true.1 h name hhead
  rw [List.contains_iff_mem.2 hname] at hnot
  cases hnot

example : namesNone "respond::json(&" = true ∧ namesNone "json::decode(&" = false := by
  decide +kernel

lemma namesNone_of_occurs (h : plainCode a = true) (ht : Occurs (.text t) a) :
    namesNone t = true := by
  obtain ⟨l, hl, hmem⟩ := ht
  exact List.all_eq_true.1 (List.all_eq_true.1 h l hl) _ hmem

@[simp] lemma plainLine_nil : plainLine [] = true := rfl

@[simp] lemma plainLine_cons {p : Piece} : plainLine (p :: l) = (plainPiece p && plainLine l) := rfl

@[simp] lemma plainLine_append {k : Line} : plainLine (l ++ k) = (plainLine l && plainLine k) :=
  List.all_append

lemma plainLine_joined {separator : String} (hseparator : namesNone separator = true)
    (h : ∀ l ∈ ls, plainLine l = true) : plainLine (Line.joined separator ls) = true := by
  induction ls with
  | nil => rfl
  | cons l ls ih =>
    have hl := h l List.mem_cons_self
    have hls := ih fun k hk => h k (List.mem_cons_of_mem _ hk)
    cases ls with
    | nil => exact hl
    | cons k ls =>
      have hstep : Line.joined separator (l :: k :: ls) =
          l ++ .text separator :: Line.joined separator (k :: ls) := rfl
      rw [hstep, plainLine_append, plainLine_cons, hl, hls, plainPiece, hseparator]
      rfl

lemma plainLine_commas {α : Type} {xs : List α} {line : α → Line}
    (h : ∀ x, plainLine (line x) = true) : plainLine (Line.joined ", " (xs.map line)) = true := by
  refine plainLine_joined (by decide +kernel) ?_
  rw [List.forall_mem_map]
  exact fun x _ => h x

lemma plainLine_reads {α : Type} {xs : List α} {var : α → Var} :
    plainLine (Line.joined ", " (xs.map fun x => [.reads (var x)])) = true :=
  plainLine_commas fun _ => rfl

@[simp] lemma plainCode_nothing : plainCode .nothing = true := rfl

@[simp] lemma plainCode_line : plainCode (.line l) = plainLine l := Bool.and_true _

@[simp] lemma plainCode_arm : plainCode (.arm l) = plainLine l := Bool.and_true _

@[simp] lemma plainCode_append : plainCode (a ++ b) = (plainCode a && plainCode b) :=
  List.all_append

@[simp] lemma plainCode_block {binding : Binding} {close : Line} :
    plainCode (.block binding l a close) = (plainLine l && plainCode a && plainLine close) := by
  simp [plainCode, Code.lines, Bool.and_assoc]

@[simp] lemma plainCode_hanging {close : Option Line} : plainCode (.hanging l a close) =
    (plainLine l && plainCode a && close.toList.all plainLine) := by
  simp [plainCode, Code.lines, Bool.and_assoc]

lemma plainCode_all {codes : List Code} (h : ∀ c ∈ codes, plainCode c = true) :
    plainCode (.all codes) = true := by
  unfold plainCode
  rw [lines_all, List.all_flatMap, List.all_eq_true]
  exact h

lemma plainLine_expression {r : ParamReading} {parser : Var} :
    plainLine (r.expression [.reads parser]) = true := by
  obtain ⟨accessor, name, element, restricted, lifted⟩ := r
  cases accessor <;> cases restricted <;> cases lifted <;>
    simp +decide [plainPiece, ParamReading.expression, ParamReading.method,
      ParamReading.defaultArgument, ParamReading.allowedArgument]

lemma namesNone_code (code : Nat) {rest : String} (hrest : rest.toList.any Char.isAlpha = false) :
    namesNone (", " ++ code.repr ++ rest) = true := by
  have hdigits : code.repr.toList.any Char.isAlpha = false := by
    rw [List.any_eq_false]
    intro c hc
    rw [Nat.repr_eq_ofList_toDigits, String.toList_ofList] at hc
    have hdigit : c.isDigit = true := Nat.isDigit_of_mem_toDigits (by decide) le_rfl hc
    rw [isAlpha_eq_false hdigit]
    exact Bool.false_ne_true
  have hstart : ", ".toList.any Char.isAlpha = false := by decide
  refine namesNone_of_any_eq_false ?_
  rw [String.toList_append, String.toList_append, List.any_append, List.any_append, hstart, hdigits,
    hrest]
  rfl

lemma plainCode_group (hsource : plainLine g.source = true)
    (hfailure : plainLine (g.failure [.reads g.parser, .text ".into_errors()"]) = true) :
    plainCode (g.code naming codecs) = true := by
  by_cases hne : codecs = []
  · subst hne
    rfl
  have hvalues : plainCode (.all (codecs.map fun c => .line ([.text "let ", .binds c.var,
      .text " = "] ++ (c.reading naming).expression [.reads g.parser] ++ [.text ";"]))) = true := by
    refine plainCode_all ?_
    rw [List.forall_mem_map]
    intro c _
    simp +decide [plainPiece, plainLine_expression]
  have hfound : ∀ c : ParamCodec, plainLine [.text "Some(", .binds c.var, .text ")"] = true := by
    simp +decide [plainPiece]
  rw [group_code_eq hne, plainCode_append, groupCode, plainCode_append, hvalues]
  simp +decide [groupExit, plainPiece, hsource, hfailure, plainLine_commas hfound,
    plainLine_reads]

lemma plainLine_badRequest {place message : String} {faults : Line}
    (hplace : namesNone ("::" ++ place ++ ", ") = true) (hfaults : plainLine faults = true) :
    plainLine (Handler.badRequest place message faults) = true := by
  simp +decide [Handler.badRequest, Handler.log, Piece.ofLocal, plainPiece, hplace, hfaults]

lemma plainLine_of_mem_extractors {traitName : String} (h : l ∈ Handler.extractorsOf traitName s) :
    plainLine l = true := by
  simp only [Handler.extractorsOf, List.mem_append, List.mem_singleton, List.mem_ite_nil_right] at h
  rcases h with ((((rfl | ⟨-, rfl⟩) | ⟨-, rfl⟩) | ⟨-, rfl⟩) | ⟨-, rfl⟩) | ⟨-, rfl⟩ <;>
    simp +decide [plainPiece, Piece.newLocal]

lemma plainCode_contentType (expected : String) :
    plainCode (Handler.contentTypeCode expected) = true := by
  simp +decide [Handler.contentTypeCode, Code.braces, Handler.log, Piece.newLocal, Piece.ofLocal,
    plainPiece]

lemma plainCode_emptyForm (structName : String) (multipart : Bool) :
    plainCode (Handler.emptyFormCode structName multipart) = true := by
  cases multipart <;>
    simp +decide [Handler.emptyFormCode, Handler.multipartCall, Code.braces, Handler.log,
      Piece.newLocal, Piece.ofLocal, plainPiece]

lemma plainCode_fields (structName : String) (multipart : Bool) :
    plainCode (Handler.fieldsCode naming structName codecs multipart) = true := by
  have hgroup : plainCode ((Handler.formGroup multipart).code naming codecs) = true := by
    refine plainCode_group ?_ (plainLine_badRequest (by decide +kernel) ?_)
    · cases multipart <;> decide
    · simp +decide [plainPiece]
  cases multipart <;>
    simp +decide [Handler.fieldsCode, Handler.multipartCall, Handler.refusalArm, Handler.log,
      Piece.newLocal, Piece.ofLocal, plainPiece, hgroup, plainLine_reads]

lemma plainCode_bodyCode (body : BodyShape) : plainCode (Handler.bodyCode naming body) = true := by
  cases body with
  | none => rfl
  | text =>
    simp +decide [Handler.bodyCode, Handler.textCode, Code.braces, Code.texts, Code.all,
      Handler.log, Piece.newLocal, Piece.ofLocal, plainPiece, plainCode_contentType]
  | json type =>
    simp +decide [Handler.bodyCode, Handler.jsonCode, Handler.refusalArm, Handler.log,
      Piece.newLocal, Piece.ofLocal, plainPiece, plainCode_contentType]
  | form structName fields multipart =>
    rw [Handler.bodyCode, plainCode_append, plainCode_contentType]
    split
    · exact plainCode_emptyForm structName multipart
    · exact plainCode_fields structName multipart

lemma plainLine_arm (arm : ServiceArm) : plainLine arm.line = true := by
  have hcode : ∀ rest ∈ [")", ", ", ", &"], namesNone (", " ++ arm.code.repr ++ rest) = true :=
    fun rest hrest => namesNone_code arm.code (by
      revert rest
      decide)
  obtain ⟨outcome, code, payload⟩ := arm
  cases payload <;> cases outcome <;>
    simp +decide [ServiceArm.line, ServiceArm.writerLine, ServiceArm.pattern?, Outcome.line,
      Piece.newLocal, Piece.ofLocal, plainPiece, hcode]

lemma plainCode_dispatch (arms : List ServiceArm) :
    plainCode (ServiceArm.dispatch (Handler.callLine s) arms) = true := by
  have harms : plainCode (.all (arms.map fun a => .arm a.line)) = true := by
    refine plainCode_all ?_
    rw [List.forall_mem_map]
    intro arm _
    rw [plainCode_arm, plainLine_arm]
  simp +decide [ServiceArm.dispatch, ServiceArm.errorLine, Handler.callLine, Code.braces,
    Piece.ofLocal, plainPiece, harms, plainLine_reads]

/-- Handlers name what is imported under a condition only where they are marked to. -/
lemma plainCode_handler (traitName urlPrefix api : String) :
    plainCode (Handler.ofSignature naming traitName urlPrefix api s).code = true := by
  have hextractors : plainCode (.all ((Handler.extractorsOf traitName s).map fun l =>
      .line (l ++ [.text ","]))) = true := by
    refine plainCode_all ?_
    rw [List.forall_mem_map]
    intro l hl
    simp +decide [plainPiece, plainLine_of_mem_extractors hl]
  have hurl : plainCode (Handler.urlGroup.code naming s.url) = true :=
    plainCode_group (by decide +kernel) (by decide +kernel)
  have hheader : plainCode (Handler.headerGroup.code naming s.header) = true := by
    refine plainCode_group (by decide +kernel) (plainLine_badRequest ?_ ?_) <;> decide +kernel
  have hquery : plainCode (Handler.queryGroup.code naming s.query) = true := by
    refine plainCode_group (by decide +kernel) (plainLine_badRequest ?_ ?_) <;> decide +kernel
  unfold Handler.code Handler.ofSignature
  simp +decide [Code.braces, Piece.newLocal, Piece.ofLocal, plainPiece, hextractors, hurl, hheader,
    hquery, plainCode_bodyCode, plainCode_dispatch]

end FixedTexts

/-! ### Exact imports -/

/-- Under the imports of their file, handlers have exactly the imports that they use, among those
that are under a condition. -/
structure ExactImports (root : String) (uses : List UsePath) (handlers : List Handler) : Prop where
  /-- An import stands in the file exactly if some handler uses a name that it brings. -/
  exact : ∀ u, Conditional u → ∀ name ∈ namesOf u,
    (Imported root uses u ↔ ∃ h ∈ handlers, name ∈ h.code.importedNames)
  /-- Every such import brings a name. -/
  brings : ∀ u, Conditional u → namesOf u ≠ []
  /-- Handlers mark no other names as imported. -/
  complete : ∀ h ∈ handlers, ∀ name ∈ h.code.importedNames, ∃ u, Conditional u ∧ name ∈ namesOf u
  /-- No fixed text of a handler has a name that it does not mark. -/
  marked : ∀ h ∈ handlers, ∀ t, Occurs (.text t) h.code → ∀ u, Conditional u →
    ∀ name ∈ namesOf u, name ∉ heads t

section Exact

variable {e : Emission} {v : Version} {a : Api} {sigs : List Signature}

lemma exactImports_of_signatures (h : e.signatures v a = .ok sigs) :
    ExactImports e.config.modulePath (HandlerNeeds.ofApi a).uses (e.handlers v a sigs) where
  exact u hu name hname := by
    have hmem : u ∈ conditionalUses := conditional_iff.1 hu
    have hcode : ∀ s, name ∈ (Handler.ofSignature e.naming (e.traitName a) v.urlPrefix a.name
        s).code.importedNames ↔ u ∈ (needsOf s).uses := by
      intro s
      rw [mem_importedNames_iff, occurs_iff_mem_uses hmem hname]
    rw [imported_uses_iff hmem, ofApi_eq h, mem_uses_needsOfAll hmem, Emission.handlers]
    simp only [List.mem_map, exists_exists_and_eq_and, hcode]
  brings u hu := namesOf_ne_nil hu
  complete := by
    rw [Emission.handlers, List.forall_mem_map]
    intro s _ name hname
    rw [mem_importedNames_iff] at hname
    exact mem_conditionalNames_iff.1 (mem_conditionalNames_of_occurs hname)
  marked := by
    rw [Emission.handlers, List.forall_mem_map]
    intro s _ t ht u hu name hname hhead
    have hnone : namesNone t = true := namesNone_of_occurs (plainCode_handler _ _ _) ht
    exact not_mem_heads hnone (mem_conditionalNames_iff.2 ⟨u, hu, hname⟩) hhead

/-- The routing file of an API whose signatures build consists of its router and of its handlers,
and its imports under conditions are exactly those that the handlers use. -/
theorem conditional_imports_exact (h : e.signatures v a = .ok sigs) :
    ∃ service routing : SourceFile,
      e.serviceFiles v a = .ok [⟨.ofDirectory .generated (e.apiDirs v a), .source service⟩,
        ⟨⟨.generated, e.apiDirs v a, "routing"⟩, .source routing⟩] ∧
      routing.body = e.routerCode v a sigs ++
        .all ((e.handlers v a sigs).map fun handler => .blank ++ handler.code) ∧
      ExactImports e.config.modulePath routing.uses (e.handlers v a sigs) := by
  let service : SourceFile := ⟨["routing"], false,
    .internal ["errors"] (.name "ServiceError") :: e.apiUses v a, e.serviceBody a sigs⟩
  let routing : SourceFile := ⟨[], true, (HandlerNeeds.ofApi a).uses, e.routerCode v a sigs ++
    .all ((e.handlers v a sigs).map fun handler => .blank ++ handler.code)⟩
  have hfiles : e.serviceFiles v a = .ok [
      ⟨.ofDirectory .generated (e.apiDirs v a), .source service⟩,
      ⟨⟨.generated, e.apiDirs v a, "routing"⟩, .source routing⟩] := by
    rw [Emission.serviceFiles, h]
    rfl
  exact ⟨service, routing, hfiles, rfl, exactImports_of_signatures h⟩

end Exact

/-- The routing file of the orders of the shop, whose payload is read with its imports. -/
theorem conditional_imports_exact_shop :
    ∃ sigs, (Emission.mk shop .standard .standard .service).signatures shopVersion
        ⟨"orders", [putOrder]⟩ = .ok sigs ∧
      ∃ service routing : SourceFile,
        (Emission.mk shop .standard .standard .service).serviceFiles shopVersion
          ⟨"orders", [putOrder]⟩ = .ok [
            ⟨.ofDirectory .generated ["v1", "orders"], .source service⟩,
            ⟨⟨.generated, ["v1", "orders"], "routing"⟩, .source routing⟩] ∧
        ExactImports "crate::spec" routing.uses
          ((Emission.mk shop .standard .standard .service).handlers shopVersion
            ⟨"orders", [putOrder]⟩ sigs) := by
  refine ⟨_, rfl, ?_⟩
  obtain ⟨service, routing, hfiles, -, hexact⟩ :=
    conditional_imports_exact (e := ⟨shop, .standard, .standard, .service⟩) (v := shopVersion)
      (a := ⟨"orders", [putOrder]⟩) rfl
  exact ⟨service, routing, hfiles, hexact⟩

end ApiCodegen.Proofs
