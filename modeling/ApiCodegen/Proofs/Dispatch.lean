import ApiCodegen.Proofs.Emission
import ApiCodegen.Proofs.Signatures
import Mathlib.Data.List.Nodup

/-!
# Dispatch of responses, there and back

The service writes the status of the arm that its result takes; the client reads its tests from the
top and takes the first that holds. Statuses lead back to their responses since variants differ and
the table gives different tags different codes. The tests and the arms are read off the code that is
emitted.
-/

namespace ApiCodegen.Proofs

/-! ### Codes of declared responses -/

/-- Under keys that differ, a search by the key of a member finds that member. -/
lemma find?_of_nodup_map {α κ : Type} [BEq κ] [LawfulBEq κ] {key : α → κ} {as : List α}
    (h : (as.map key).Nodup) {a : α} (ha : a ∈ as) :
    as.find? (fun b => key b == key a) = some a := by
  induction as with
  | nil => exact absurd ha List.not_mem_nil
  | cons b as ih =>
    rw [List.map_cons, List.nodup_cons] at h
    obtain ⟨hb, hrest⟩ := h
    rcases List.mem_cons.1 ha with rfl | hmem
    · exact List.find?_cons_of_pos (beq_self_eq_true _)
    · rw [List.find?_cons_of_neg, ih hrest hmem]
      rw [beq_iff_eq]
      exact fun heq => hb (heq ▸ List.mem_map_of_mem hmem)

lemma mem_of_statusCode? {tag : String} {code : Nat} (h : statusCode? tag = some code) :
    (tag, code) ∈ statusCodes := by
  obtain ⟨before, after, heq, -⟩ := List.lookup_eq_some_iff.1 h
  rw [heq]
  exact List.mem_append_right _ List.mem_cons_self

lemma statusCode?_injective {tag tag' : String} {code : Nat} (h : statusCode? tag = some code)
    (h' : statusCode? tag' = some code) : tag = tag' := by
  have hcodes : (statusCodes.map Prod.snd).Nodup := by decide
  have heq := List.inj_on_of_nodup_map hcodes (mem_of_statusCode? h) (mem_of_statusCode? h') rfl
  exact congrArg Prod.fst heq

/-- A variant has the name and the code of its response. -/
structure Declared (naming : Naming) (v : ResponseVariant) : Prop where
  name : v.name = naming.variantName v.response.status
  code : statusCode? v.response.status = some v.code

section Signatures

variable {s : Scope} {naming : Naming} {here : Location} {o : Operation} {sig : Signature}

lemma declared_of_variantOf {r : Response} {v : ResponseVariant}
    (h : Signature.variantOf s naming here r = .ok v) : v.response = r ∧ Declared naming v := by
  obtain ⟨code, payload, hcode, -, rfl⟩ := variantOf_eq_ok_iff.1 h
  exact ⟨rfl, rfl, hcode⟩

lemma outcome_returnsOf (enumName : String) (variants : List ResponseVariant)
    (v : ResponseVariant) : (Signature.returnsOf enumName variants).outcome v =
      if variants.length = 1 then .bare else .variant enumName v.name := by
  unfold Signature.returnsOf
  split
  · rfl
  · rename_i hlength
    rw [if_neg]
    · rfl
    · rintro hone
      obtain ⟨w, rfl⟩ := List.length_eq_one_iff.1 hone
      exact hlength w rfl

lemma declared_of_forall₂ {rs : List Response} {vs : List ResponseVariant}
    (h : List.Forall₂ (fun r v => Signature.variantOf s naming here r = .ok v) rs vs) :
    vs.map (·.response) = rs ∧ ∀ v ∈ vs, Declared naming v := by
  induction h with
  | nil => exact ⟨rfl, fun v hv => absurd hv List.not_mem_nil⟩
  | cons hv _ ih =>
    obtain ⟨hresponse, hdeclared⟩ := declared_of_variantOf hv
    refine ⟨?_, ?_⟩
    · rw [List.map_cons, hresponse, ih.1]
    · rw [List.forall_mem_cons]
      exact ⟨hdeclared, ih.2⟩

lemma returns_of_signature (h : Signature.ofOperation s naming here o = .ok sig) :
    ∃ variants, sig.returns = Signature.returnsOf (Signature.responseName naming o) variants ∧
      variants.map (·.response) = o.responses ∧ ∀ v ∈ variants, Declared naming v := by
  obtain ⟨variants, hvariants, hreturns⟩ := (ofOperation_eq_ok_iff.1 h).returns
  exact ⟨variants, hreturns, declared_of_forall₂ (mapM_eq_ok_iff.1 hvariants)⟩

lemma variants_of_signature (h : Signature.ofOperation s naming here o = .ok sig) :
    sig.returns.variants.map (·.response) = o.responses ∧
      ∀ v ∈ sig.returns.variants, Declared naming v := by
  obtain ⟨variants, hreturns, hresponses, hdeclared⟩ := returns_of_signature h
  rw [hreturns, variants_returnsOf]
  exact ⟨hresponses, hdeclared⟩

/-- The only response is its value, any other a variant of the enum of the operation. -/
lemma outcome_of_signature (h : Signature.ofOperation s naming here o = .ok sig)
    (v : ResponseVariant) : sig.returns.outcome v =
      if o.responses.length = 1 then .bare
      else .variant (Signature.responseName naming o) v.name := by
  obtain ⟨variants, hreturns, hresponses, -⟩ := returns_of_signature h
  rw [hreturns, outcome_returnsOf, ← hresponses, List.length_map]

lemma names_nodup (ho : OperationRules s naming o)
    (h : Signature.ofOperation s naming here o = .ok sig) :
    (sig.returns.variants.map (·.name)).Nodup := by
  obtain ⟨hresponses, hdeclared⟩ := variants_of_signature h
  have hnames : sig.returns.variants.map (·.name) =
      o.responses.map fun r => naming.variantName r.status := by
    rw [← hresponses, List.map_map]
    exact List.map_congr_left fun v hv => (hdeclared v hv).name
  rw [hnames]
  exact ho.variants

/-- Validation compares the names of variants. That is enough: one code means one tag, and a policy
gives one tag one name. -/
lemma codes_nodup (ho : OperationRules s naming o)
    (h : Signature.ofOperation s naming here o = .ok sig) :
    (sig.returns.variants.map (·.code)).Nodup := by
  have hdeclared := (variants_of_signature h).2
  have hnames := names_nodup ho h
  refine hnames.of_map.map_on fun v hv w hw hcode => ?_
  have hstatus : v.response.status = w.response.status :=
    statusCode?_injective (hdeclared v hv).code (hcode ▸ (hdeclared w hw).code)
  have hname : v.name = w.name := by
    rw [(hdeclared v hv).name, (hdeclared w hw).name, hstatus]
  exact List.inj_on_of_nodup_map hnames hv hw hname

end Signatures

/-! ### The tests of the client -/

def statusTest (status : Nat) : String := "if status == " ++ toString status

lemma statusTest_inj {a b : Nat} : statusTest a = statusTest b ↔ a = b := by
  refine ⟨fun h => ?_, fun h => h ▸ rfl⟩
  have hdigits : Nat.toDigits 10 a = Nat.toDigits 10 b := by
    rw [← Nat.toList_repr, ← Nat.toList_repr]
    exact congrArg String.toList (String.append_right_inj _ |>.1 h)
  rw [← Nat.ofDigitChars_ten_toDigits (n := a), hdigits, Nat.ofDigitChars_ten_toDigits]

/-- Whether a statement leaves the function. -/
def leaves : Line → Bool
  | .text s :: _ => "return ".toList.isPrefixOf s.toList
  | _ => false

/-- The statements that run on a status, and whether the last of them leaves the function. A block
is entered if its head is the test of the status. -/
def trace (status : Nat) : Code → List Line × Bool
  | .line l => ([l], leaves l)
  | .block _ head body _ =>
    if head.render = statusTest status then trace status body else ([], false)
  | .seq first second =>
    let before := trace status first
    if before.2 then before
    else
      let after := trace status second
      (before.1 ++ after.1, after.2)
  | .nothing | .arm _ | .blank | .doc _ | .hanging _ _ _ | .stray _ => ([], false)

def branchLines (naming : Naming) (b : ClientBranch) : List Line :=
  [b.readLine naming, b.returnLine]

/-- The statement behind all tests. -/
def unexpectedLine : Line :=
  [.text "Err(ClientError::UnexpectedStatus(", .ofLocal "status", .text "))"]

section Tests

variable {status : Nat} {naming : Naming}

lemma leaves_readLine (b : ClientBranch) : leaves (b.readLine naming) = false := by
  unfold ClientBranch.readLine
  cases b.payload with
  | empty => rfl
  | text => rfl
  | json type => rfl

lemma leaves_returnLine (b : ClientBranch) : leaves b.returnLine = true := by
  have hok : ∀ l, leaves (.text "return Ok(" :: l) = true := fun _ => rfl
  have herr : ∀ l, leaves (.text "return Err(" :: l) = true := fun _ => rfl
  unfold ClientBranch.returnLine
  cases b.outcome with
  | bare => exact hok _
  | variant enumName name => exact hok _
  | failure name => exact herr _

lemma trace_branchCode (b : ClientBranch) :
    trace status (b.branchCode naming) =
      if b.code = status then (branchLines naming b, true) else ([], false) := by
  have hhead : Line.render [.text "if ", .ofLocal "status", .text (" == " ++ toString b.code)] =
      statusTest b.code := by
    simp only [Line.render, List.map_cons, List.map_nil, Piece.render, Piece.ofLocal,
      String.join_cons, String.join_nil, String.append_empty, ← String.append_assoc]
    rfl
  have hbody : trace status (.line (b.readLine naming) ++ .line b.returnLine) =
      (branchLines naming b, true) := by
    change trace status (.seq (.line (b.readLine naming)) (.line b.returnLine)) = _
    simp only [trace, leaves_readLine, leaves_returnLine, branchLines]
    rfl
  have hcode : b.branchCode naming =
      .block .inside [.text "if ", .ofLocal "status", .text (" == " ++ toString b.code)]
        (.line (b.readLine naming) ++ .line b.returnLine) [.text "\x7d"] := rfl
  rw [hcode, trace, hhead, hbody]
  by_cases hcode : b.code = status
  · rw [if_pos (statusTest_inj.2 hcode), if_pos hcode]
  · rw [if_neg (fun h => hcode (statusTest_inj.1 h)), if_neg hcode]

/-- The emitted tests run what `select` finds, and fall through to the statement behind them. -/
theorem trace_dispatch (branches : List ClientBranch) :
    trace status (ClientBranch.dispatch naming branches) =
      match ClientBranch.select branches status with
      | some b => (branchLines naming b, true)
      | none => ([unexpectedLine], false) := by
  have hchain : trace status (.all (branches.map (ClientBranch.branchCode naming))) =
      match ClientBranch.select branches status with
      | some b => (branchLines naming b, true)
      | none => ([], false) := by
    unfold ClientBranch.select
    induction branches with
    | nil => rfl
    | cons b branches ih =>
      change trace status (.seq (b.branchCode naming) (.all (branches.map _))) = _
      rw [trace, trace_branchCode, ih]
      by_cases hcode : b.code = status
      · rw [if_pos hcode, List.find?_cons_of_pos (by rw [hcode, beq_self_eq_true])]
        rfl
      · rw [if_neg hcode, List.find?_cons_of_neg (by rwa [beq_iff_eq])]
        rfl
  change trace status (.seq (.all (branches.map _)) (.line unexpectedLine)) = _
  rw [trace, hchain]
  cases ClientBranch.select branches status with
  | some b => rfl
  | none => rfl

end Tests

/-! ### The arms of the service -/

/-- An arm of the emitted match: the pattern of the result, and the call that writes it. -/
structure EmittedArm where
  pattern : Line
  call : Line
deriving DecidableEq

/-- What stands between the pattern of a result and the call. -/
def arrow : Piece := .text ") => "

/-- Reads an arm for a result off its line. -/
def emittedArm? : Line → Option EmittedArm
  | .text "Ok(" :: rest =>
    match rest.dropWhile (· != arrow) with
    | [] => none
    | _ :: action =>
      if action.getLast? = some (.text ",") then
        some ⟨rest.takeWhile (· != arrow), action.dropLast⟩
      else none
  | _ => none

/-- The arms for results that stand in a match, in order. -/
def emittedArms : Code → List EmittedArm
  | .block .inside _ body _ => body.lines.filterMap emittedArm?
  | _ => []

/-- The arm that a result takes: the first whose pattern it has. -/
def takenArm (arms : List EmittedArm) (result : Line) : Option EmittedArm :=
  arms.find? (·.pattern == result)

def patternLine (a : ServiceArm) : Line := a.outcome.line a.pattern?

lemma lines_all (codes : List Code) : (Code.all codes).lines = codes.flatMap Code.lines := by
  induction codes with
  | nil => rfl
  | cons c codes ih =>
    rw [List.flatMap_cons, ← ih]
    rfl

section Arms

variable {call : Line} {arms : List ServiceArm}

lemma arrow_not_mem_pattern (a : ServiceArm) : ∀ p ∈ patternLine a, (p != arrow) = true := by
  unfold patternLine ServiceArm.pattern? Outcome.line
  cases a.outcome with
  | bare => cases a.payload <;> simp [arrow, Piece.newLocal]
  | variant enumName name => cases a.payload <;> simp [arrow, Piece.newLocal]
  | failure name => cases a.payload <;> simp [arrow, Piece.newLocal]

lemma emittedArm?_line (a : ServiceArm) :
    emittedArm? a.line = some ⟨patternLine a, a.writerLine⟩ := by
  have hline : a.line =
      .text "Ok(" :: (patternLine a ++ arrow :: (a.writerLine ++ [.text ","])) := by
    simp [ServiceArm.line, patternLine, arrow]
  have hdrop : (patternLine a ++ arrow :: (a.writerLine ++ [.text ","])).dropWhile (· != arrow) =
      arrow :: (a.writerLine ++ [.text ","]) := by
    rw [List.dropWhile_append_of_pos (arrow_not_mem_pattern a)]
    exact List.dropWhile_cons_of_neg (by simp)
  have htake : (patternLine a ++ arrow :: (a.writerLine ++ [.text ","])).takeWhile (· != arrow) =
      patternLine a := by
    rw [List.takeWhile_append_of_pos (arrow_not_mem_pattern a),
      List.takeWhile_cons_of_neg (by simp), List.append_nil]
  rw [hline, emittedArm?]
  simp only [hdrop, htake, List.getLast?_concat, List.dropLast_concat, if_true]

lemma lines_arms (arms : List ServiceArm) :
    (Code.all (arms.map fun a => .arm a.line)).lines = arms.map ServiceArm.line := by
  rw [lines_all, List.flatMap_map, List.map_eq_flatMap]
  rfl

/-- The emitted match has the arms that it was made from, in their order. -/
lemma emittedArms_dispatch :
    emittedArms (ServiceArm.dispatch call arms) =
      arms.map fun a => ⟨patternLine a, a.writerLine⟩ := by
  have herror : emittedArm? ServiceArm.errorLine = none := rfl
  change ((Code.all _).lines ++ [ServiceArm.errorLine]).filterMap emittedArm? = _
  rw [lines_arms, List.filterMap_append, List.filterMap_map, List.filterMap_cons_none herror,
    List.filterMap_nil, List.append_nil]
  rw [← List.filterMap_eq_map]
  exact List.filterMap_congr fun a _ => emittedArm?_line a

lemma lines_dispatch :
    (ServiceArm.dispatch call arms).lines =
      (.text "match " :: call) ::
        (arms.map ServiceArm.line ++ [ServiceArm.errorLine, ["\x7d"]]) := by
  change _ :: (((Code.all _).lines ++ [ServiceArm.errorLine]) ++ [_]) = _
  rw [lines_arms, List.append_assoc]
  rfl

end Arms

/-! ### Patterns -/

/-- What the pattern of a variant has behind its name. -/
def patternValue : PayloadKind → String
  | .empty => ""
  | .text | .json => "(response)"

lemma bracket_not_mem_of_isIdentifier {name : String} (h : Naming.isIdentifier name = true) :
    '(' ∉ name.toList := by
  have hunraw : '(' ∉ (Naming.unraw name).toList := by
    intro hmem
    simp only [Naming.isIdentifier, Bool.and_eq_true, List.all_eq_true] at h
    exact absurd (h.2 '(' hmem) (by decide)
  unfold Naming.unraw at hunraw
  split at hunraw
  · rename_i rest heq
    rw [heq]
    simpa using hunraw
  · exact hunraw

lemma takeWhile_patternValue {name : String} (h : Naming.isIdentifier name = true)
    (kind : PayloadKind) :
    (name ++ patternValue kind).toList.takeWhile (· != '(') = name.toList := by
  have hname : ∀ c ∈ name.toList, (c != '(') = true := by
    intro c hc
    rw [bne_iff_ne]
    rintro rfl
    exact bracket_not_mem_of_isIdentifier h hc
  rw [String.toList_append, List.takeWhile_append_of_pos hname]
  cases kind with
  | empty => exact List.append_nil _
  | text => exact List.append_nil _
  | json => exact List.append_nil _

section Patterns

variable {enumName name name' : String} {code code' : Nat} {kind kind' : PayloadKind}

lemma render_patternLine : (patternLine ⟨.variant enumName name, code, kind⟩).render =
    (Spelling.named "" enumName).render ++ "::" ++ (name ++ patternValue kind) := by
  rw [← String.toList_inj]
  unfold patternLine patternValue ServiceArm.pattern? Outcome.line
  cases kind with
  | empty => simp [Line.render, Piece.render]
  | text => simp [Line.render, Piece.render, Piece.newLocal]
  | json => simp [Line.render, Piece.render, Piece.newLocal]

lemma patternLine_inj (h : patternLine ⟨.variant enumName name, code, kind⟩ =
    patternLine ⟨.variant enumName name', code', kind'⟩) : name = name' := by
  have hitem : some (Piece.item name) = some (Piece.item name') :=
    congrArg (fun l : Line => l[2]?) h
  exact Piece.item.inj (Option.some.inj hitem)

lemma patternText_inj (hname : Naming.isIdentifier name = true)
    (hname' : Naming.isIdentifier name' = true)
    (h : (patternLine ⟨.variant enumName name, code, kind⟩).render =
      (patternLine ⟨.variant enumName name', code', kind'⟩).render) : name = name' := by
  rw [render_patternLine, render_patternLine, String.append_right_inj] at h
  rw [← String.toList_inj, ← takeWhile_patternValue hname kind, h, takeWhile_patternValue hname']

end Patterns

/-! ### Client and service -/

def armOf (sig : Signature) (v : ResponseVariant) : ServiceArm :=
  ⟨sig.returns.outcome v, v.code, v.payload.kind⟩

def branchOf (sig : Signature) (v : ResponseVariant) : ClientBranch :=
  ⟨v.code, v.payload, sig.returns.outcome v⟩

/-- How the client keeps what it has read of a payload. -/
def bindingText (naming : Naming) : Payload → String
  | .empty => ""
  | .text => "let result = "
  | .json type => "let result: " ++ (type.spell naming .inApi).render ++ " = "

/-- The statement by which the client reads a payload. -/
def readText (naming : Naming) (v : ResponseVariant) : String :=
  bindingText naming v.payload ++ "response::" ++ v.payload.kind.name ++ "(http_response)?;"

/-- What a writer is given after the status. -/
def valueArgument : PayloadKind → String
  | .empty => ")"
  | .text => ", response)"
  | .json => ", &response)"

/-- The call by which the service writes a response: its status with the writer of its payload. -/
def writerText (v : ResponseVariant) : String :=
  "respond::" ++ v.payload.kind.name ++ "(&log_fields, " ++ toString v.code ++
    valueArgument v.payload.kind

/-- A response as a result, around the variable with its value: the value of the only response, or
the variant of the response. -/
def resultText (returns : Returns) (v : ResponseVariant) (value : String) : String :=
  match returns, v.payload with
  | .single _, .empty => "()"
  | .single _, .text | .single _, .json _ => value
  | .multiple enumName _, .empty => enumName ++ "::" ++ v.name
  | .multiple enumName _, .text | .multiple enumName _, .json _ =>
    enumName ++ "::" ++ v.name ++ "(" ++ value ++ ")"

/-- What client and service make of one response. -/
structure Agree (naming : Naming) (sig : Signature) (errors : List ErrorVariant)
    (v : ResponseVariant) : Prop where
  /-- In the emitted match the result of the response takes the arm that is written for it: its
  pattern is the result, and it writes the code with the writer of the payload. -/
  taken : ∀ call, ∃ arm,
    takenArm (emittedArms (ServiceArm.dispatch call (ServiceArm.ofSignature sig)))
        (patternLine (armOf sig v)) = some arm ∧
      arm.pattern.render = resultText sig.returns v "response" ∧ arm.call.render = writerText v
  /-- The code selects the branch of the response. -/
  selected : ClientBranch.select (ClientBranch.ofSignature sig errors) v.code =
    some (branchOf sig v)
  /-- On the code the emitted tests read the payload as the arm wrote it, and return the result that
  the arm has matched. -/
  run : Prod.map (List.map Line.render) id
      (trace v.code (ClientBranch.dispatch naming (ClientBranch.ofSignature sig errors))) =
    ([readText naming v, "return Ok(" ++ resultText sig.returns v "result" ++ ");"], true)

/-- The dispatch of the client is inverse to that of the service. -/
structure DispatchInverse (naming : Naming) (o : Operation) (sig : Signature)
    (errors : List ErrorVariant) : Prop where
  responses : sig.returns.variants.map (·.response) = o.responses
  outcome : ∀ v ∈ sig.returns.variants, sig.returns.outcome v =
    if o.responses.length = 1 then .bare
    else .variant (Signature.responseName naming o) (naming.variantName v.response.status)
  /-- The emitted match has one arm for each response, in their order. -/
  arms : ∀ call,
    (emittedArms (ServiceArm.dispatch call (ServiceArm.ofSignature sig))).map
        (fun a => (a.pattern.render, a.call.render)) =
      sig.returns.variants.map fun v => (resultText sig.returns v "response", writerText v)
  /-- Besides these arms the match has only the one for failed calls. -/
  lines : ∀ call,
    (ServiceArm.dispatch call (ServiceArm.ofSignature sig)).lines.map Line.render =
      ("match " ++ Line.render call) ::
        (sig.returns.variants.map (fun v =>
            "Ok(" ++ resultText sig.returns v "response" ++ ") => " ++ writerText v ++ ",") ++
          ["Err(error) => errors::respond_error(&log_fields, error),", "\x7d"])
  agree : ∀ v ∈ sig.returns.variants, Agree naming sig errors v
  codes : (sig.returns.variants.map (·.code)).Nodup
  patterns : ∀ call,
    ((emittedArms (ServiceArm.dispatch call (ServiceArm.ofSignature sig))).map (·.pattern)).Nodup
  /-- The patterns differ as texts too, unless a policy makes variants that are no identifiers. -/
  patternTexts : (∀ v ∈ sig.returns.variants, Naming.isIdentifier v.name = true) → ∀ call,
    ((emittedArms (ServiceArm.dispatch call (ServiceArm.ofSignature sig))).map
      fun a => a.pattern.render).Nodup
  unexpected : ∀ status, (∀ v ∈ sig.returns.variants, v.code ≠ status) →
    (∀ e ∈ errors, e.code ≠ status) →
    Prod.map (List.map Line.render) id
        (trace status (ClientBranch.dispatch naming (ClientBranch.ofSignature sig errors))) =
      (["Err(ClientError::UnexpectedStatus(status))"], false)

section Texts

variable {naming : Naming} {sig : Signature} {v : ResponseVariant}

lemma render_writerLine : (armOf sig v).writerLine.render = writerText v := by
  rw [← String.toList_inj]
  unfold ServiceArm.writerLine writerText valueArgument armOf
  cases v.payload with
  | empty => simp [Line.render, Piece.render, Piece.ofLocal, Payload.kind, PayloadKind.name]
  | text => simp [Line.render, Piece.render, Piece.ofLocal, Payload.kind, PayloadKind.name]
  | json type => simp [Line.render, Piece.render, Piece.ofLocal, Payload.kind, PayloadKind.name]

lemma render_item (enumName name : String) (rest : Line) :
    Line.render ([.spelled (.named "" enumName), .text "::", .item name] ++ rest) =
      enumName ++ "::" ++ name ++ rest.render := by
  have hname : (Spelling.named "" enumName).render = enumName := String.empty_append
  rw [Line.render, List.map_append, String.join_append]
  simp only [List.map_cons, List.map_nil, String.join_cons, String.join_nil, String.append_empty,
    Piece.render, hname, String.append_assoc]
  rfl

lemma render_bracketed (p : Piece) :
    Line.render [.text "(", p, .text ")"] = "(" ++ p.render ++ ")" := by
  rw [← String.toList_inj]
  simp [Line.render, Piece.render]

/-- The result of a response without a value. -/
lemma render_outcome_none {value : String} (h : v.payload = .empty) :
    ((sig.returns.outcome v).line none).render = resultText sig.returns v value := by
  unfold resultText
  rw [h]
  cases sig.returns with
  | single w => rfl
  | multiple enumName variants =>
    exact (render_item enumName v.name []).trans String.append_empty

/-- The result of a response around its value. -/
lemma render_outcome_some (h : v.payload ≠ .empty) (p : Piece) :
    ((sig.returns.outcome v).line (some p)).render = resultText sig.returns v p.render := by
  have hbare : Line.render [p] = p.render := by
    rw [Line.render, List.map_cons, List.map_nil, String.join_cons, String.join_nil,
      String.append_empty]
  have hvariant : ∀ enumName : String,
      Line.render ([.spelled (.named "" enumName), .text "::", .item v.name] ++
        [.text "(", p, .text ")"]) = enumName ++ "::" ++ v.name ++ "(" ++ p.render ++ ")" := by
    intro enumName
    rw [render_item, render_bracketed, ← String.append_assoc, ← String.append_assoc]
  unfold resultText
  cases hpayload : v.payload with
  | empty => exact absurd hpayload h
  | text =>
    cases sig.returns with
    | single w => exact hbare
    | multiple enumName variants => exact hvariant enumName
  | json type =>
    cases sig.returns with
    | single w => exact hbare
    | multiple enumName variants => exact hvariant enumName

lemma render_pattern_armOf :
    (patternLine (armOf sig v)).render = resultText sig.returns v "response" := by
  unfold patternLine ServiceArm.pattern? armOf
  cases hpayload : v.payload with
  | empty => exact render_outcome_none hpayload
  | text => exact render_outcome_some (by simp [hpayload]) _
  | json type => exact render_outcome_some (by simp [hpayload]) _

lemma render_line_armOf : (armOf sig v).line.render =
    "Ok(" ++ resultText sig.returns v "response" ++ ") => " ++ writerText v ++ "," := by
  have hparts : (armOf sig v).line.render =
      "Ok(" ++ (patternLine (armOf sig v)).render ++ ") => " ++ (armOf sig v).writerLine.render ++
        "," := by
    rw [← String.toList_inj]
    simp [ServiceArm.line, patternLine, Line.render, Piece.render]
  rw [hparts, render_pattern_armOf, render_writerLine]

lemma valueVar_outcome : ClientBranch.valueVar (sig.returns.outcome v) = ⟨"result", .generated⟩ := by
  cases sig.returns with
  | single w => rfl
  | multiple enumName variants => rfl

lemma render_readLine : ((branchOf sig v).readLine naming).render = readText naming v := by
  rw [← String.toList_inj]
  unfold ClientBranch.readLine readText bindingText branchOf
  cases v.payload with
  | empty => simp [Line.render, Piece.render, Piece.ofLocal, Payload.kind, PayloadKind.name]
  | text =>
    simp [Line.render, Piece.render, Piece.ofLocal, Payload.kind, PayloadKind.name,
      valueVar_outcome]
  | json type =>
    simp [Line.render, Piece.render, Piece.ofLocal, Payload.kind, PayloadKind.name,
      valueVar_outcome]

lemma render_returnLine : (branchOf sig v).returnLine.render =
    "return Ok(" ++ resultText sig.returns v "result" ++ ");" := by
  have hparts : (branchOf sig v).returnLine =
      .text "return Ok(" :: (sig.returns.outcome v).line (branchOf sig v).value? ++
        [.text ");"] := by
    unfold ClientBranch.returnLine branchOf
    cases sig.returns with
    | single w => rfl
    | multiple enumName variants => rfl
  have hresult : ((sig.returns.outcome v).line (branchOf sig v).value?).render =
      resultText sig.returns v "result" := by
    have hvar : ClientBranch.valueVar (branchOf sig v).outcome = ⟨"result", .generated⟩ :=
      valueVar_outcome
    unfold ClientBranch.value?
    rw [hvar]
    unfold branchOf
    cases hpayload : v.payload with
    | empty => exact render_outcome_none hpayload
    | text => exact render_outcome_some (by simp [hpayload]) _
    | json type => exact render_outcome_some (by simp [hpayload]) _
  rw [hparts, ← hresult, ← String.toList_inj]
  simp [Line.render, Piece.render]

end Texts

section Inverse

variable {s : Scope} {naming : Naming} {here : Location} {o : Operation} {sig : Signature}
  {errors : List ErrorVariant}

lemma nodup_map_arms {β : Type} {f : ServiceArm → β}
    (hnames : (sig.returns.variants.map (·.name)).Nodup)
    (hf : ∀ enumName, ∀ v ∈ sig.returns.variants, ∀ w ∈ sig.returns.variants,
      f ⟨.variant enumName v.name, v.code, v.payload.kind⟩ =
        f ⟨.variant enumName w.name, w.code, w.payload.kind⟩ → v.name = w.name) :
    ((ServiceArm.ofSignature sig).map f).Nodup := by
  unfold ServiceArm.ofSignature
  rw [List.map_map]
  cases hreturns : sig.returns with
  | single v => exact List.nodup_singleton _
  | multiple enumName variants =>
    rw [hreturns] at hnames hf
    refine hnames.of_map.map_on fun v hv w hw heq => ?_
    exact List.inj_on_of_nodup_map hnames hv hw (hf enumName v hv w hw heq)

lemma emittedArms_of_signature (call : Line) :
    emittedArms (ServiceArm.dispatch call (ServiceArm.ofSignature sig)) =
      sig.returns.variants.map fun v =>
        ⟨patternLine (armOf sig v), (armOf sig v).writerLine⟩ := by
  rw [emittedArms_dispatch, ServiceArm.ofSignature, List.map_map]
  rfl

lemma render_dispatch (call : Line) :
    (ServiceArm.dispatch call (ServiceArm.ofSignature sig)).lines.map Line.render =
      ("match " ++ Line.render call) ::
        (sig.returns.variants.map (fun v =>
            "Ok(" ++ resultText sig.returns v "response" ++ ") => " ++ writerText v ++ ",") ++
          ["Err(error) => errors::respond_error(&log_fields, error),", "\x7d"]) := by
  have harms : (ServiceArm.ofSignature sig).map (fun a => a.line.render) =
      sig.returns.variants.map fun v =>
        "Ok(" ++ resultText sig.returns v "response" ++ ") => " ++ writerText v ++ "," := by
    rw [ServiceArm.ofSignature, List.map_map]
    exact List.map_congr_left fun v _ => render_line_armOf
  have hhead : Line.render (.text "match " :: call) = "match " ++ Line.render call := by
    rw [Line.render, List.map_cons, String.join_cons]
    rfl
  rw [lines_dispatch, List.map_cons, List.map_append, List.map_map, hhead]
  exact congrArg (_ :: ·) (congrArg (· ++ _) harms)

lemma patterns_nodup (h : (sig.returns.variants.map (·.name)).Nodup) (call : Line) :
    ((emittedArms (ServiceArm.dispatch call (ServiceArm.ofSignature sig))).map
      (·.pattern)).Nodup := by
  rw [emittedArms_dispatch, List.map_map]
  exact nodup_map_arms h fun _ _ _ _ _ heq => patternLine_inj heq

lemma takenArm_of_signature (h : (sig.returns.variants.map (·.name)).Nodup) {v : ResponseVariant}
    (hv : v ∈ sig.returns.variants) (call : Line) :
    takenArm (emittedArms (ServiceArm.dispatch call (ServiceArm.ofSignature sig)))
        (patternLine (armOf sig v)) =
      some ⟨patternLine (armOf sig v), (armOf sig v).writerLine⟩ := by
  have hmem : (⟨patternLine (armOf sig v), (armOf sig v).writerLine⟩ : EmittedArm) ∈
      emittedArms (ServiceArm.dispatch call (ServiceArm.ofSignature sig)) := by
    rw [emittedArms_of_signature]
    exact List.mem_map_of_mem hv
  exact find?_of_nodup_map (patterns_nodup h call) hmem

/-- A declared response is found before any error of the same code. -/
lemma select_declared (h : (sig.returns.variants.map (·.code)).Nodup) {v : ResponseVariant}
    (hv : v ∈ sig.returns.variants) :
    ClientBranch.select (ClientBranch.ofSignature sig errors) v.code = some (branchOf sig v) := by
  have hcodes : ((sig.returns.variants.map (branchOf sig)).map (·.code)).Nodup := by
    rw [List.map_map]
    exact h
  have hfind := find?_of_nodup_map hcodes (List.mem_map_of_mem hv)
  unfold ClientBranch.select ClientBranch.ofSignature
  rw [List.find?_append]
  exact congrArg (Option.or · _) hfind

lemma select_unexpected {status : Nat} (hdeclared : ∀ v ∈ sig.returns.variants, v.code ≠ status)
    (herrors : ∀ e ∈ errors, e.code ≠ status) :
    ClientBranch.select (ClientBranch.ofSignature sig errors) status = none := by
  unfold ClientBranch.select ClientBranch.ofSignature
  rw [List.find?_eq_none]
  intro b hb
  rw [beq_iff_eq]
  rcases List.mem_append.1 hb with hb | hb
  · obtain ⟨v, hv, rfl⟩ := List.mem_map.1 hb
    exact hdeclared v hv
  · obtain ⟨e, he, rfl⟩ := List.mem_map.1 hb
    exact herrors e he

lemma agree_of_signature (ho : OperationRules s naming o)
    (h : Signature.ofOperation s naming here o = .ok sig) {v : ResponseVariant}
    (hv : v ∈ sig.returns.variants) : Agree naming sig errors v := by
  have hselected : ClientBranch.select (ClientBranch.ofSignature sig errors) v.code =
      some (branchOf sig v) := select_declared (codes_nodup ho h) hv
  refine ⟨fun call => ⟨_, takenArm_of_signature (names_nodup ho h) hv call,
    render_pattern_armOf, render_writerLine⟩, hselected, ?_⟩
  rw [trace_dispatch, hselected]
  simp only [branchLines, Prod.map, List.map_cons, List.map_nil, render_readLine,
    render_returnLine, id_eq]

end Inverse

/-- For every operation and every error taxonomy that validation accepts, client and service
dispatch responses inversely. -/
theorem validated_dispatchInverse {s : Scope} {naming : Naming} {here : Location} {o : Operation}
    {e : HttpErrors} (ho : Validation.checkOperation s naming here o = .ok ())
    (he : Validation.checkErrors e = .ok ()) (there : Location) :
    ∃ sig errors, Signature.ofOperation s naming there o = .ok sig ∧
      ErrorVariant.ofErrors naming e = .ok errors ∧ DispatchInverse naming o sig errors := by
  rw [checkOperation_eq_ok_iff] at ho
  rw [checkErrors_eq_ok_iff] at he
  obtain ⟨sig, hsig⟩ : Succeeds (Signature.ofOperation s naming there o) := succeeds_ofOperation ho
  obtain ⟨errors, herrors⟩ : Succeeds (ErrorVariant.ofErrors naming e) := succeeds_ofErrors he
  obtain ⟨hresponses, hdeclared⟩ := variants_of_signature hsig
  have hnames := names_nodup ho hsig
  refine ⟨sig, errors, hsig, herrors, hresponses, fun v hv => ?_, fun call => ?_,
    fun call => ?_, fun v hv => agree_of_signature ho hsig hv, codes_nodup ho hsig,
    patterns_nodup hnames, fun hident call => ?_, fun status hstatus herrors => ?_⟩
  · rw [outcome_of_signature hsig, (hdeclared v hv).name]
  · rw [emittedArms_of_signature, List.map_map]
    exact List.map_congr_left fun v _ => Prod.ext render_pattern_armOf render_writerLine
  · exact render_dispatch call
  · rw [emittedArms_dispatch, List.map_map]
    exact nodup_map_arms hnames fun _ v hv w hw heq =>
      patternText_inj (hident v hv) (hident w hw) heq
  · have hline : unexpectedLine.render = "Err(ClientError::UnexpectedStatus(status))" := by
      decide +kernel
    rw [trace_dispatch, select_unexpected hstatus herrors]
    simp only [Prod.map, List.map_cons, List.map_nil, hline, id_eq]

theorem validated_dispatchInverse_putOrder :
    Validation.checkOperation (.ofVersion shopVersion shop.httpErrors) .standard .root putOrder =
        .ok () ∧
      Validation.checkErrors shop.httpErrors = .ok () ∧
      ∃ sig errors, Signature.ofOperation (.ofVersion shopVersion shop.httpErrors) .standard .root
          putOrder = .ok sig ∧
        ErrorVariant.ofErrors .standard shop.httpErrors = .ok errors ∧
        DispatchInverse .standard putOrder sig errors := by
  have ho : Validation.checkOperation (.ofVersion shopVersion shop.httpErrors) .standard .root
      putOrder = .ok () := by decide +kernel
  have he : Validation.checkErrors shop.httpErrors = .ok () := by decide +kernel
  exact ⟨ho, he, validated_dispatchInverse ho he .root⟩

end ApiCodegen.Proofs
