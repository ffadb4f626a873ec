import ApiCodegen.Proofs.FileTexts
import ApiCodegen.Proofs.Hygiene
import ApiCodegen.Proofs.ParamCoding
import ApiCodegen.Proofs.Rendering
import ApiCodegen.Proofs.Taxonomy

/-!
# The parameters of an operation on all sides

A handler passes its values by position, so what it decodes, what it passes and what methods take
have to be one sequence, which four emitters write. The lists are read off what they write: the
methods that lines start, the call that a handler matches on, and the statements that decode. A form
is one value, and its fields are decoded inside the block of that value.
-/

namespace ApiCodegen.Proofs

/-! ### Methods and calls -/

/-- What is read off the pieces of code that stand one after the other. -/
def readOff {α : Type} (read? : Code → Option α) (code : Code) : List α :=
  (inSequence code).filterMap read?

/-- The parameters from some place of a list up to its end. -/
def listedFormals? : Line → Option (List Signature.Formal)
  | .binds v :: .text ": " :: .spelled type :: .text ")" :: _ => some [⟨v, type⟩]
  | .binds v :: .text ": " :: .spelled type :: .text ", " :: rest =>
    (listedFormals? rest).map (⟨v, type⟩ :: ·)
  | _ => none

/-- The method that a line starts, with its parameters behind the receiver. -/
def declaredMethod? : Line → Option (String × List Signature.Formal)
  | .text _ :: .declares name :: .text "(&self" :: .text ")" :: _ => some (name, [])
  | .text _ :: .declares name :: .text "(&self, " :: rest => (listedFormals? rest).map (name, ·)
  | _ => none

/-- The method that a piece of code is. -/
def method? (code : Code) : Option (String × List Signature.Formal) :=
  code.lines.head?.bind declaredMethod?

/-- The variables from some place of a call up to its end. -/
def passedVars? : Line → Option (List Var)
  | [.text ").await"] => some []
  | [.reads v, .text ").await"] => some [v]
  | .reads v :: .text ", " :: rest => (passedVars? rest).map (v :: ·)
  | _ => none

/-- The method of the service that a block matches on, with the variables that it is called on. -/
def serviceCall? : Code → Option (String × List Var)
  | .block _ (.text "match " :: .reads service :: .text "." :: .item name :: .text "(" :: rest)
      _ _ =>
    if service = own "service_impl" then (passedVars? rest).map (name, ·) else none
  | _ => none

section Methods

variable {α : Type} {read? : Code → Option α} {naming : Naming} {sig : Signature}

lemma readOff_append (first second : Code) :
    readOff read? (first ++ second) = readOff read? first ++ readOff read? second := by
  unfold readOff
  rw [inSequence_append, List.filterMap_append]

lemma readOff_all (codes : List Code) :
    readOff read? (.all codes) = codes.flatMap (readOff read?) := by
  unfold readOff
  rw [inSequence_all, List.filterMap_flatMap]

lemma readOff_line (l : Line) : readOff read? (.line l) = (read? (.line l)).toList := by
  unfold readOff
  cases h : read? (.line l) <;> simp [inSequence, h]

lemma readOff_block (binding : Binding) (head : Line) (body : Code) (close : Line) :
    readOff read? (.block binding head body close) =
      (read? (.block binding head body close)).toList := by
  unfold readOff
  cases h : read? (.block binding head body close) <;> simp [inSequence, h]

lemma listedFormals?_line {formals : List Signature.Formal} (hne : formals ≠ []) (rest : Line) :
    listedFormals? (Signature.formalsLine formals ++ .text ")" :: rest) = some formals := by
  induction formals with
  | nil => exact absurd rfl hne
  | cons f formals ih =>
    cases formals with
    | nil => rfl
    | cons g formals =>
      have hstep : Signature.formalsLine (f :: g :: formals) ++ .text ")" :: rest =
          .binds f.var :: .text ": " :: .spelled f.type :: .text ", " ::
            (Signature.formalsLine (g :: formals) ++ .text ")" :: rest) := by
        simp [Signature.formalsLine, Line.joined]
      rw [hstep, listedFormals?, ih (List.cons_ne_nil g formals)]
      rfl

lemma declaredMethod?_receiver (start name : String) (formals : List Signature.Formal)
    (rest : Line) :
    declaredMethod? ([.text start, .declares name] ++ Signature.receiverLine formals ++ rest) =
      some (name, formals) := by
  cases formals with
  | nil => rfl
  | cons f formals =>
    have hline : [.text start, .declares name] ++ Signature.receiverLine (f :: formals) ++ rest =
        .text start :: .declares name :: .text "(&self, " ::
          (Signature.formalsLine (f :: formals) ++ .text ")" :: rest) := by
      simp [Signature.receiverLine]
    rw [hline, declaredMethod?, listedFormals?_line (List.cons_ne_nil f formals)]
    rfl

lemma readOff_traitMethod : readOff method? (sig.traitMethodCode naming) =
    [(sig.fnName, sig.serviceFormals naming .inApi)] := by
  unfold Signature.traitMethodCode
  rw [readOff_append, readOff_line]
  change [] ++ (declaredMethod? _).toList = _
  rw [declaredMethod?_receiver]
  rfl

lemma readOff_clientMethod (urlPrefix api : String) (errors : List ErrorVariant) :
    readOff method? (ClientMethod.ofSignature naming urlPrefix api sig errors).code =
      [(sig.fnName, sig.clientFormals naming .inApi)] := by
  have hcomment :
      readOff method? (ClientMethod.ofSignature naming urlPrefix api sig errors).comment = [] := by
    unfold ClientMethod.ofSignature
    dsimp only
    split
    · rfl
    · rfl
  change readOff method?
    ((ClientMethod.ofSignature naming urlPrefix api sig errors).comment ++ .block _ _ _ _) = _
  rw [readOff_append, hcomment, readOff_block]
  change [] ++ (declaredMethod? _).toList = _
  rw [declaredMethod?_receiver]
  rfl

lemma passedVars?_line (vars : List Var) :
    passedVars? (Line.joined ", " (vars.map fun v => [.reads v]) ++ [.text ").await"]) =
      some vars := by
  induction vars with
  | nil => rfl
  | cons v vars ih =>
    cases vars with
    | nil => rfl
    | cons w vars =>
      have hstep : Line.joined ", " ((v :: w :: vars).map fun v => [.reads v]) ++
          [.text ").await"] = .reads v :: .text ", " ::
            (Line.joined ", " ((w :: vars).map fun v => [.reads v]) ++ [.text ").await"]) := rfl
      rw [hstep, passedVars?, ih]
      rfl

lemma serviceCall_dispatch (arms : List ServiceArm) :
    readOff serviceCall? (ServiceArm.dispatch (Handler.callLine sig) arms) =
      [(sig.fnName, Handler.arguments sig)] := by
  change readOff serviceCall? (.block _ _ _ _) = _
  rw [readOff_block]
  change Option.toList ((passedVars? (Line.joined ", " ((Handler.arguments sig).map fun v =>
    [.reads v]) ++ [.text ").await"])).map (sig.fnName, ·)) = _
  rw [passedVars?_line]
  rfl

end Methods

/-! ### Values that a handler decodes -/

/-- The variable that a line introduces with a struct without fields or what a parser reads, and
the type of the value, which for a reading is the type of what is there. -/
def decodedByLine? : Line → Option Signature.Formal
  | [.text "let ", .binds v, .text " = ", .spelled type, .text " \x7b\x7d;"] => some ⟨v, type⟩
  | .text "let " :: .binds v :: .text " = " :: .reads parser :: rest =>
    if rest.getLast? = some (.text ";") then
      (readingOf? (.reads parser :: rest.dropLast)).map fun r => ⟨v, resultSpelling r⟩
    else none
  | _ => none

/-- The type of the struct that code ends with. -/
def structOf? (code : Code) : Option Spelling :=
  code.lines.getLast?.bind fun
    | .spelled type :: .text " \x7b " :: _ => some type
    | _ => none

/-- The variable that a statement decodes a value into, with the type of the value. -/
def decoded? : Code → Option Signature.Formal
  | .line l => decodedByLine? l
  | .block .after head body _ =>
    match head with
    | .text "let " :: .binds v :: .text " = match String::from_utf8(" :: _ =>
      some ⟨v, .primitive .string⟩
    | .text "let " :: .binds v :: .text ": " :: .spelled type :: .text " = match " :: _ =>
      some ⟨v, type⟩
    | [.text "let ", .binds v, .text " ="] => (structOf? body).map (⟨v, ·⟩)
    | _ => none
  | _ => none

/-- The head of the statement that goes on with variables only if their values are there. -/
def presentHead (vars : List Var) : Line :=
  .text "let (" :: Line.joined ", " (vars.map fun v => [.text "Some(", .binds v, .text ")"]) ++
    .text ",) = (" :: Line.joined ", " (vars.map fun v => [.reads v]) ++ [.text ",) else"]

/-- The variables that a statement goes on with only if their values are there. -/
def present? : Code → Option (List Var)
  | .block .after head _ _ =>
    if head = presentHead (lineReads head) then some (lineReads head) else none
  | _ => none

/-- A parameter as the service takes it. -/
def formalOfCodec (naming : Naming) (c : ParamCodec) : Signature.Formal :=
  ⟨c.var, c.type.spell naming .inApi⟩

/-- The payload as the service takes it, if there is one. -/
def payloadFormals (naming : Naming) : BodyShape → List Signature.Formal
  | .none => []
  | .text => [⟨Signature.bodyVar, .primitive .string⟩]
  | .json type => [⟨Signature.bodyVar, type.spell naming .inApi⟩]
  | .form structName _ _ => [⟨Signature.bodyVar, .named "" structName⟩]

section Decoding

variable {α : Type} {read? : Code → Option α} {naming : Naming} {codecs : List ParamCodec}
  {g : ReadingGroup} {sig : Signature}

lemma decodedByLine?_reading (v parser : Var) (r : ParamReading) :
    decodedByLine? ([.text "let ", .binds v, .text " = "] ++ r.expression [.reads parser] ++
      [.text ";"]) = some ⟨v, resultSpelling r⟩ := by
  obtain ⟨rest, hrest⟩ : ∃ rest, r.expression [.reads parser] = .reads parser :: rest :=
    ⟨_, by simp [ParamReading.expression]; rfl⟩
  have hline : [.text "let ", .binds v, .text " = "] ++ r.expression [.reads parser] ++
      [.text ";"] = .text "let " :: .binds v :: .text " = " :: .reads parser ::
        (rest ++ [.text ";"]) := by
    rw [hrest]
    rfl
  rw [hline, decodedByLine?, List.getLast?_concat, if_pos rfl, List.dropLast_concat, ← hrest,
    readingOf?_expression]
  rfl

lemma lineReads_joined (separator : String) (lines : List Line) :
    lineReads (Line.joined separator lines) = lines.flatMap lineReads := by
  induction lines with
  | nil => rfl
  | cons l lines ih =>
    cases lines with
    | nil => simp [Line.joined]
    | cons k lines =>
      have hstep : Line.joined separator (l :: k :: lines) =
          l ++ .text separator :: Line.joined separator (k :: lines) := rfl
      rw [hstep, List.flatMap_cons, ← ih]
      simp [lineReads]

lemma lineReads_presentHead (vars : List Var) : lineReads (presentHead vars) = vars := by
  have hbinds : lineReads (Line.joined ", "
      (vars.map fun v => [.text "Some(", .binds v, .text ")"])) = [] := by
    rw [lineReads_joined, List.flatMap_map]
    exact List.flatMap_eq_nil_iff.2 fun _ _ => rfl
  have hreads : lineReads (Line.joined ", " (vars.map fun v => [.reads v])) = vars := by
    rw [lineReads_joined, List.flatMap_map]
    exact List.flatMap_singleton' vars
  unfold presentHead lineReads at *
  simp [List.filterMap_append, hbinds, hreads]

/-- What is read off a group: the line with the parser, a line for each parameter, and the statement
that goes on if all of them are there. -/
lemma readOff_group (hne : codecs ≠ []) :
    readOff read? (g.code naming codecs) =
      (read? (.line ([.text "let mut ", .binds g.parser, .text " = "] ++ g.source ++
        [.text ";"]))).toList ++
      codecs.flatMap (fun c => (read? (.line ([.text "let ", .binds c.var, .text " = "] ++
        (c.reading naming).expression [.reads g.parser] ++ [.text ";"]))).toList) ++
      (read? (groupExit g codecs)).toList := by
  have hexit : readOff read? (groupExit g codecs) = (read? (groupExit g codecs)).toList :=
    readOff_block _ _ _ _
  rw [group_code_eq hne, readOff_append, hexit, groupCode, readOff_append, readOff_line,
    readOff_all, List.flatMap_map]
  simp only [readOff_line]

/-- Only the last statement of a group is a block. -/
lemma readOff_group_of_lines (hlines : ∀ l, read? (.line l) = none) (hne : codecs ≠ []) :
    readOff read? (g.code naming codecs) = (read? (groupExit g codecs)).toList := by
  have hnone : codecs.flatMap (fun _ => ([] : List α)) = [] :=
    List.flatMap_eq_nil_iff.2 fun _ _ => rfl
  rw [readOff_group hne]
  simp only [hlines, Option.toList_none, hnone, List.nil_append]

lemma serviceCall_group : readOff serviceCall? (g.code naming codecs) = [] := by
  by_cases hne : codecs = []
  · subst hne
    rfl
  · exact readOff_group_of_lines (fun _ => rfl) hne

lemma decoded_group
    (h : ∀ c ∈ codecs, resultSpelling (c.reading naming) = c.type.spell naming .inApi) :
    readOff decoded? (g.code naming codecs) = codecs.map (formalOfCodec naming) := by
  by_cases hne : codecs = []
  · subst hne
    rfl
  have hvalues : codecs.flatMap (fun c => (decodedByLine? ([.text "let ", .binds c.var,
      .text " = "] ++ (c.reading naming).expression [.reads g.parser] ++ [.text ";"])).toList) =
      codecs.map (formalOfCodec naming) := by
    rw [List.map_eq_flatMap]
    refine List.flatMap_congr fun c hc => ?_
    rw [decodedByLine?_reading, h c hc]
    rfl
  rw [readOff_group hne]
  change [] ++ codecs.flatMap _ ++ [] = _
  rw [List.nil_append, List.append_nil]
  exact hvalues

lemma present_group :
    (readOff present? (g.code naming codecs)).flatten = codecs.map ParamCodec.var := by
  by_cases hne : codecs = []
  · subst hne
    rfl
  have hhead : presentHead (codecs.map ParamCodec.var) = .text "let (" ::
      Line.joined ", " (codecs.map fun c => [.text "Some(", .binds c.var, .text ")"]) ++
      .text ",) = (" :: Line.joined ", " (codecs.map fun c => [.reads c.var]) ++
      [.text ",) else"] := by
    unfold presentHead
    rw [List.map_map, List.map_map]
    rfl
  have hexit : present? (groupExit g codecs) = some (codecs.map ParamCodec.var) := by
    unfold groupExit
    rw [← hhead, present?, lineReads_presentHead, if_pos rfl]
  rw [readOff_group_of_lines (fun _ => rfl) hne, hexit]
  exact List.append_nil _

/-- The block of a form ends with its struct. -/
lemma structOf?_form (fields : Code) (type : Spelling) (rest : Line) :
    structOf? (fields ++ .line (.spelled type :: .text " \x7b " :: rest)) = some type := by
  have hlines : ∀ l, (Code.line l).lines = [l] := fun _ => rfl
  unfold structOf?
  rw [lines_append, hlines, List.getLast?_concat]
  rfl

lemma decoded_bodyCode (body : BodyShape) :
    readOff decoded? (Handler.bodyCode naming body) = payloadFormals naming body := by
  cases body with
  | none | text | json type => rfl
  | form structName fields multipart =>
    cases fields with
    | nil => cases multipart <;> rfl
    | cons c cs =>
      have hstruct := structOf?_form ((Handler.formGroup multipart).code naming (c :: cs))
        (.named "" structName)
        (Line.joined ", " ((c :: cs).map fun c => [.reads c.var]) ++ [.text " \x7d"])
      have hblock : readOff decoded? (.block .after
          [.text "let ", .binds Signature.bodyVar, .text " ="]
          ((Handler.formGroup multipart).code naming (c :: cs) ++
            .line (.spelled (.named "" structName) :: .text " \x7b " ::
              (Line.joined ", " ((c :: cs).map fun c => [.reads c.var]) ++ [.text " \x7d"])))
          [.text "\x7d;"]) = [⟨Signature.bodyVar, .named "" structName⟩] := by
        rw [readOff_block, decoded?, hstruct]
        rfl
      cases multipart <;> exact hblock

lemma serviceCall_bodyCode (body : BodyShape) :
    readOff serviceCall? (Handler.bodyCode naming body) = [] := by
  cases body with
  | none | text | json type => rfl
  | form structName fields multipart => cases fields <;> cases multipart <;> rfl

lemma present_bodyCode (body : BodyShape) :
    readOff present? (Handler.bodyCode naming body) = [] := by
  cases body with
  | none | text | json type => rfl
  | form structName fields multipart => cases fields <;> cases multipart <;> rfl

variable (naming) (traitName urlPrefix api : String)

lemma serviceCall_handler :
    readOff serviceCall? (Handler.ofSignature naming traitName urlPrefix api sig).body =
      [(sig.fnName, Handler.arguments sig)] := by
  unfold Handler.ofSignature
  simp only [readOff_append, readOff_line, serviceCall_group, serviceCall_bodyCode,
    serviceCall_dispatch]
  rfl

/-- A handler decodes in the order URL, headers, query and payload. -/
lemma decoded_handler
    (h : ∀ c ∈ sig.params, resultSpelling (c.reading naming) = c.type.spell naming .inApi) :
    readOff decoded? (Handler.ofSignature naming traitName urlPrefix api sig).body =
      sig.url.map (formalOfCodec naming) ++ sig.header.map (formalOfCodec naming) ++
        sig.query.map (formalOfCodec naming) ++ payloadFormals naming sig.body := by
  have hquery := fun c hc => h c (List.mem_append_left _ (List.mem_append_left _ hc))
  have hheader := fun c hc => h c (List.mem_append_left _ (List.mem_append_right _ hc))
  have hurl := fun c hc => h c (List.mem_append_right _ hc)
  have hdispatch : readOff decoded?
      (ServiceArm.dispatch (Handler.callLine sig) (ServiceArm.ofSignature sig)) = [] := rfl
  unfold Handler.ofSignature
  simp only [readOff_append, readOff_line, decoded_group hurl, decoded_group hheader,
    decoded_group hquery, decoded_bodyCode, hdispatch, List.append_nil]
  rfl

lemma present_handler :
    (readOff present? (Handler.ofSignature naming traitName urlPrefix api sig).body).flatten =
      (sig.url ++ sig.header ++ sig.query).map ParamCodec.var := by
  have hdispatch : readOff present?
      (ServiceArm.dispatch (Handler.callLine sig) (ServiceArm.ofSignature sig)) = [] := rfl
  unfold Handler.ofSignature
  simp only [readOff_append, readOff_line, List.flatten_append, present_group, present_bodyCode,
    hdispatch, List.map_append]
  simp [present?]

end Decoding

/-! ### All sides -/

/-- The names of the arguments of an operation: the payload, if there is one, and the parameters of
the query, of the headers and of the URL. -/
def argumentNames (naming : Naming) (o : Operation) : List String :=
  (if o.body = .empty then [] else [Signature.bodyIdent]) ++
    (functionParams o).map fun p => naming.fieldName p.name

/-- The type of what is borrowed from a value of a type. -/
inductive Borrows : Spelling → Spelling → Prop
  | text : Borrows (.primitive .string) .text
  | reference (type : Spelling) : Borrows type (.borrowed type)

/-- A parameter of a client against that of the service, which only the payload differs from. -/
inductive Lends : Signature.Formal → Signature.Formal → Prop
  | payload {type type' : Spelling} (h : Borrows type type') :
    Lends ⟨Signature.bodyVar, type'⟩ ⟨Signature.bodyVar, type⟩
  | parameter {f : Signature.Formal} (h : f.var ≠ Signature.bodyVar) : Lends f f

/-- The parameters whose variables a part of the request introduces. -/
def ofOwner (owner : Owner) (formals : List Signature.Formal) : List Signature.Formal :=
  formals.filter fun f => f.var.owner = owner

/-- The sides of an operation against the parameters of its method in the service. -/
structure ParametersAgree (naming : Naming) (o : Operation) (sig : Signature)
    (formals : List Signature.Formal) : Prop where
  names : formals.map (·.var.name) = argumentNames naming o
  service : readOff method? (sig.traitMethodCode naming) = [(sig.fnName, formals)]
  /-- The handler calls the method once, on these variables in this order. -/
  called : ∀ traitName urlPrefix api,
    readOff serviceCall? (Handler.ofSignature naming traitName urlPrefix api sig).body =
      [(sig.fnName, formals.map (·.var))]
  /-- What the handler decodes has the types of the parameters, place by place in each part of the
  request. -/
  decoded : ∀ traitName urlPrefix api owner,
    ofOwner owner
        (readOff decoded? (Handler.ofSignature naming traitName urlPrefix api sig).body) =
      ofOwner owner formals
  /-- The handler goes on if the values are there of all that it decodes besides the payload. -/
  present : ∀ traitName urlPrefix api,
    (readOff present? (Handler.ofSignature naming traitName urlPrefix api sig).body).flatten =
      ((readOff decoded? (Handler.ofSignature naming traitName urlPrefix api sig).body).map
        (·.var)).filter (· ≠ Signature.bodyVar)
  client : ∀ urlPrefix api errors, ∃ lent,
    readOff method? (ClientMethod.ofSignature naming urlPrefix api sig errors).code =
      [(sig.fnName, lent)] ∧ List.Forall₂ Lends lent formals
  /-- The template of skeletons writes the parameters with an underscore before their names. -/
  skeleton : ∀ first, ∃ rest,
    Template.method.render (Emission.skeletonMethod naming sig).toJson first =
      .ok ((if first then "" else "\n") ++ "    async fn " ++ sig.fnName ++ "(&self" ++
        String.join (formals.map fun f =>
          ", _" ++ Naming.unraw f.var.name ++ ": " ++ f.type.render) ++ ")" ++ rest)

section Skeletons

/-- Repetition over values that are all rendered. -/
lemma render_each {α : Type} {name : String} {body : Template} {context : Json} {as : List α}
    {toJson : α → Json} {text : α → String} {first : Bool}
    (hfield : context.field? name = some (.arr (as.map toJson)))
    (hbody : ∀ a first, body.render (toJson a) first = .ok (text a)) :
    (Template.each name body).render context first = .ok (String.join (as.map text)) := by
  have hneeded : Template.needed context name = .ok (.arr (as.map toJson)) := by
    simp only [Template.needed, hfield]
  rw [Template.render, hneeded]
  cases as with
  | nil => rfl
  | cons a as =>
    have hrest : (as.map toJson).mapM (fun item => body.render item false) =
        .ok (as.map text) := by
      rw [mapM_eq_ok_iff, List.forall₂_map_left_iff, List.forall₂_map_right_iff, List.forall₂_same]
      exact fun a _ => hbody a false
    refine bind_eq_ok_iff.2 ⟨_, rfl, bind_eq_ok_iff.2 ⟨_, hbody a true, bind_eq_ok_iff.2
      ⟨_, hrest, ?_⟩⟩⟩
    rw [List.map_cons, String.join_cons]
    rfl

/-- A method is written with the list of its parameters. -/
lemma exists_render_method (m : SkeletonMethod) (first : Bool) :
    ∃ rest, Template.method.render m.toJson first =
      .ok ((if first then "" else "\n") ++ "    async fn " ++ m.name ++ "(&self" ++
        String.join (m.params.map fun p => ", " ++ p.1 ++ ": " ++ p.2.render) ++ ")" ++ rest) := by
  let paramTemplate := Template.all [.text ", ", .field "name", .text ": ", .field "ty"]
  obtain ⟨more, hmethod⟩ : ∃ more, Template.method = .seq (.unlessFirst (.text "\n"))
      (.seq (.text "    async fn ") (.seq (.field "name") (.seq (.text "(&self")
        (.seq (.each "params" paramTemplate) (.seq (.text ") -> Result<") more))))) := ⟨_, rfl⟩
  have hfirst : (Template.unlessFirst (.text "\n")).render m.toJson first =
      .ok (if first then "" else "\n") := by
    cases first <;> rfl
  have hparams : (Template.each "params" paramTemplate).render m.toJson first =
      .ok (String.join (m.params.map fun p => ", " ++ p.1 ++ ": " ++ p.2.render)) := by
    refine render_each rfl fun p first => ?_
    obtain ⟨name, type⟩ := p
    have hjoined : ", " ++ (name ++ (": " ++ (type.render ++ ""))) =
        ", " ++ name ++ ": " ++ type.render := by
      simp only [String.append_empty, String.append_assoc]
    exact congrArg Except.ok hjoined
  obtain ⟨text, hmore⟩ : Succeeds (more.render m.toJson first) := by
    have hfits := fits_method m
    rw [hmethod] at hfits
    exact succeeds_render hfits.2.2.2.2.2.2
  have hclose : ") -> Result<" = ")" ++ " -> Result<" := by decide
  refine ⟨" -> Result<" ++ text, ?_⟩
  rw [hmethod, render_seq hfirst (render_seq rfl (render_seq rfl (render_seq rfl
    (render_seq hparams (render_seq rfl hmore))))), hclose]
  simp only [String.append_assoc]
  rfl

end Skeletons

section Agreement

variable {s : Scope} {naming : Naming} {here : Location} {o : Operation} {sig : Signature}
  {location : ParamLocation} {codecs : List ParamCodec}

lemma resultSpelling_reading {p : Param} {c : ParamCodec} (h : FitsParam c location p) :
    resultSpelling (c.reading naming) = c.type.spell naming .inApi := by
  let types : Spelling → WireType := fun _ => ⟨⟨Unit, fun _ => none, []⟩, fun _ => "", fun _ => ""⟩
  have hagree : CodecAgrees types naming location p c (c.reading naming) c.writing :=
    codecAgrees_reading h
  exact hagree.result

lemma resultSpelling_of_mapM {ps : List Param}
    (h : ps.mapM (ParamCodec.ofParam s naming here location) = .ok codecs) :
    ∀ c ∈ codecs, resultSpelling (c.reading naming) = c.type.spell naming .inApi :=
  forall_of_mapM (fun _ _ hcodec => resultSpelling_reading (fitsParam_of_ofParam hcodec)) h

lemma resultSpelling_of_signature (h : Signature.ofOperation s naming here o = .ok sig) :
    ∀ c ∈ sig.params, resultSpelling (c.reading naming) = c.type.spell naming .inApi := by
  have hbuilt := ofOperation_eq_ok_iff.1 h
  exact List.forall_mem_append.2 ⟨List.forall_mem_append.2 ⟨resultSpelling_of_mapM hbuilt.query,
    resultSpelling_of_mapM hbuilt.header⟩, resultSpelling_of_mapM hbuilt.url⟩

lemma serviceFormals_eq : sig.serviceFormals naming .inApi =
    payloadFormals naming sig.body ++ sig.params.map (formalOfCodec naming) := by
  unfold Signature.serviceFormals
  cases sig.body <;> rfl

lemma arguments_eq : Handler.arguments sig = (sig.serviceFormals naming .inApi).map (·.var) := by
  rw [serviceFormals_eq, List.map_append, List.map_map]
  unfold Handler.arguments
  cases sig.body <;> rfl

lemma names_payloadFormals {body : BodyShape} (h : BodyBuilt s naming here o body) :
    (payloadFormals naming body).map (·.var.name) =
      if o.body = .empty then [] else [Signature.bodyIdent] := by
  cases h with
  | none hbody | text hbody | json hbody _ | multipart hbody _ | urlEncoded hbody _ =>
    rw [hbody]
    rfl

lemma names_serviceFormals (h : Signature.ofOperation s naming here o = .ok sig) :
    (sig.serviceFormals naming .inApi).map (·.var.name) = argumentNames naming o := by
  have hpayload := names_payloadFormals (ofOperation_eq_ok_iff.1 h).body
  rw [serviceFormals_eq, List.map_append, hpayload, List.map_map, argumentNames,
    ← (fitsOperation_of_signature h).params]
  rfl

lemma ofOwner_append (owner : Owner) (first second : List Signature.Formal) :
    ofOwner owner (first ++ second) = ofOwner owner first ++ ofOwner owner second :=
  List.filter_append first second

/-- The parameters of one part of the request are of one owner. -/
lemma ofOwner_codecs (h : ∀ c ∈ codecs, c.location = location) (owner : Owner) :
    ofOwner owner (codecs.map (formalOfCodec naming)) =
      if owner = .parameter location then codecs.map (formalOfCodec naming) else [] := by
  have howner : ∀ f ∈ codecs.map (formalOfCodec naming), f.var.owner = .parameter location := by
    rw [List.forall_mem_map]
    exact fun c hc => congrArg Owner.parameter (h c hc)
  unfold ofOwner
  split
  · subst owner
    exact List.filter_eq_self.2 fun f hf => decide_eq_true (howner f hf)
  · refine List.filter_eq_nil_iff.2 fun f hf => ?_
    rw [howner f hf, decide_eq_true_eq]
    exact Ne.symm ‹_›

lemma ofOwner_payload (body : BodyShape) (owner : Owner) :
    ofOwner owner (payloadFormals naming body) =
      if owner = .body then payloadFormals naming body else [] := by
  cases body <;> cases owner <;> rfl

lemma filter_payload (body : BodyShape) :
    ((payloadFormals naming body).map (·.var)).filter (· ≠ Signature.bodyVar) = [] := by
  cases body <;> rfl

lemma filter_codecs : ((codecs.map (formalOfCodec naming)).map (·.var)).filter
    (· ≠ Signature.bodyVar) = codecs.map ParamCodec.var := by
  have hall : ∀ v ∈ codecs.map ParamCodec.var, decide (v ≠ Signature.bodyVar) = true := by
    refine List.forall_mem_map.2 fun c _ => decide_eq_true fun h => ?_
    exact Owner.noConfusion (congrArg Var.owner h)
  rw [List.map_map]
  exact List.filter_eq_self.2 hall

lemma lends_clientFormals :
    List.Forall₂ Lends (sig.clientFormals naming .inApi) (sig.serviceFormals naming .inApi) := by
  have hparams : List.Forall₂ Lends (sig.params.map (formalOfCodec naming))
      (sig.params.map (formalOfCodec naming)) := by
    refine List.forall₂_same.2 (List.forall_mem_map.2 fun c _ => .parameter fun h => ?_)
    exact Owner.noConfusion (congrArg Var.owner h)
  unfold Signature.clientFormals Signature.serviceFormals
  cases sig.body with
  | none => exact hparams
  | text => exact .cons (.payload .text) hparams
  | json type => exact .cons (.payload (.reference _)) hparams
  | form structName fields multipart => exact .cons (.payload (.reference _)) hparams

/-- The groups are decoded in another order than they are passed in, each in its own order. -/
lemma ofOwner_decoded (h : Signature.ofOperation s naming here o = .ok sig)
    (traitName urlPrefix api : String) (owner : Owner) :
    ofOwner owner
        (readOff decoded? (Handler.ofSignature naming traitName urlPrefix api sig).body) =
      ofOwner owner (sig.serviceFormals naming .inApi) := by
  have hbuilt := ofOperation_eq_ok_iff.1 h
  obtain ⟨-, hquery⟩ := codecs_of_mapM hbuilt.query
  obtain ⟨-, hheader⟩ := codecs_of_mapM hbuilt.header
  obtain ⟨-, hurl⟩ := codecs_of_mapM hbuilt.url
  rw [decoded_handler _ _ _ _ (resultSpelling_of_signature h), serviceFormals_eq, Signature.params]
  simp only [List.map_append, ofOwner_append, ofOwner_codecs hquery, ofOwner_codecs hheader,
    ofOwner_codecs hurl, ofOwner_payload]
  cases owner with
  | generated => rfl
  | body => simp
  | parameter location => cases location <;> simp

lemma exists_render_skeleton (first : Bool) : ∃ rest,
    Template.method.render (Emission.skeletonMethod naming sig).toJson first =
      .ok ((if first then "" else "\n") ++ "    async fn " ++ sig.fnName ++ "(&self" ++
        String.join ((sig.serviceFormals naming .inApi).map fun f =>
          ", _" ++ Naming.unraw f.var.name ++ ": " ++ f.type.render) ++ ")" ++ rest) := by
  have hunderscore : ", _" = ", " ++ "_" := by decide
  have hparams : (Emission.skeletonMethod naming sig).params.map
      (fun p => ", " ++ p.1 ++ ": " ++ p.2.render) =
      (sig.serviceFormals naming .inApi).map fun f =>
        ", _" ++ Naming.unraw f.var.name ++ ": " ++ f.type.render := by
    unfold Emission.skeletonMethod
    rw [List.map_map, hunderscore]
    simp only [String.append_assoc]
    rfl
  rw [← hparams]
  exact exists_render_method (Emission.skeletonMethod naming sig) first

/-- All sides of an operation whose signature builds have the same parameters, under any naming
policy. -/
theorem signature_parameters_agree (h : Signature.ofOperation s naming here o = .ok sig) :
    ∃ formals, ParametersAgree naming o sig formals := by
  refine ⟨sig.serviceFormals naming .inApi, {
    names := names_serviceFormals h
    service := readOff_traitMethod
    called := fun traitName urlPrefix api => ?_
    decoded := ofOwner_decoded h
    present := fun traitName urlPrefix api => ?_
    client := fun urlPrefix api errors => ⟨_, readOff_clientMethod _ _ _, lends_clientFormals⟩
    skeleton := exists_render_skeleton }⟩
  · rw [serviceCall_handler, arguments_eq]
  · rw [present_handler, decoded_handler _ _ _ _ (resultSpelling_of_signature h)]
    simp only [List.map_append, List.filter_append, filter_codecs, filter_payload, List.append_nil]

end Agreement

/-- The order of the shop, with parameters of every part of the request. -/
theorem signature_parameters_agree_shop :
    ∃ sig, Signature.ofOperation (.ofVersion shopVersion shop.httpErrors) .standard .root putOrder =
        .ok sig ∧
      ∃ formals, ParametersAgree .standard putOrder sig formals ∧
        formals.map (·.var.name) = ["body", "color", "trace_id", "id"] := by
  have ho : Validation.checkOperation (.ofVersion shopVersion shop.httpErrors) .standard .root
      putOrder = .ok () := by decide +kernel
  obtain ⟨sig, hsig⟩ : Succeeds (Signature.ofOperation (.ofVersion shopVersion shop.httpErrors)
      .standard .root putOrder) := succeeds_ofOperation (checkOperation_eq_ok_iff.1 ho)
  obtain ⟨formals, hagree⟩ := signature_parameters_agree hsig
  have hnames : argumentNames .standard putOrder = ["body", "color", "trace_id", "id"] := by
    decide +kernel
  exact ⟨sig, hsig, formals, hagree, hagree.names.trans hnames⟩

end ApiCodegen.Proofs
