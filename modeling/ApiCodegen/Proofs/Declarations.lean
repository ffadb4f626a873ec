import ApiCodegen.Proofs.CasedNames
import ApiCodegen.Proofs.Scoping
import ApiCodegen.Proofs.Taxonomy

/-!
# Declarations of models

The code of a model declares one type, with a member for each field, alternative or value; what it
declares is read off the code. Two members get one name exactly if what casing keeps of their names
is the same. The arms between the values of an enum and their texts are read off the code too: an
enum reads what it writes exactly if each of its values has a variant of its own.
-/

namespace ApiCodegen.Proofs
open Naming

/-! ### Declarations in code -/

/-- The name at the start of a line of fixed text. -/
def leadingName? (s : String) : Option String :=
  if s.toList.head?.any Char.isAlpha then
    some (String.ofList (s.toList.takeWhile Char.isAlphanum))
  else none

/-- The member that a line in the body of a type declares. -/
def memberOf? : Line → Option String
  | [.text s] => leadingName? s
  | l => l.declared.head?

/-- The members that the body of a type declares. -/
def members (c : Code) : List String := c.lines.filterMap memberOf?

/-- The types that code declares, each with its members. -/
def typeDecls : Code → List (String × List String)
  | .block _ head body _ =>
    match head.declared.head? with
    | some name => [(name, members body)]
    | none => typeDecls body
  | .hanging _ body _ => typeDecls body
  | .seq first second => typeDecls first ++ typeDecls second
  | .nothing | .line _ | .arm _ | .blank | .doc _ | .stray _ => []

section Declarations

variable {a b : Code} {l : Line} {name : String}

@[simp] lemma members_append : members (a ++ b) = members a ++ members b := List.filterMap_append

@[simp] lemma members_all (codes : List Code) :
    members (.all codes) = codes.flatMap members := by
  unfold members
  rw [lines_all, List.filterMap_flatMap]

@[simp] lemma members_doc (text : Option String) : members (.doc text) = [] := rfl

@[simp] lemma typeDecls_append : typeDecls (a ++ b) = typeDecls a ++ typeDecls b := rfl

@[simp] lemma typeDecls_all (codes : List Code) :
    typeDecls (.all codes) = codes.flatMap typeDecls := by
  induction codes with
  | nil => rfl
  | cons code codes ih =>
    rw [List.flatMap_cons, ← ih]
    rfl

@[simp] lemma typeDecls_texts (lines : List String) : typeDecls (.texts lines) = [] := by
  simp [Code.texts, typeDecls]

@[simp] lemma typeDecls_line : typeDecls (.line l) = [] := rfl

@[simp] lemma typeDecls_blank : typeDecls .blank = [] := rfl

@[simp] lemma typeDecls_doc (text : Option String) : typeDecls (.doc text) = [] := rfl

@[simp] lemma typeDecls_text (head : String) :
    typeDecls (.braces [.text head] b) = typeDecls b := rfl

@[simp] lemma typeDecls_item (head : String) :
    typeDecls (.braces [.text head, .item name] b) = typeDecls b := rfl

@[simp] lemma typeDecls_declares (keyword : String) :
    typeDecls (.braces [.text keyword, .declares name] b) = [(name, members b)] := rfl

end Declarations

/-! ### Members of a model -/

/-- What a description calls the members of a model. -/
def sourceNames (m : Model) : List String :=
  match m.kind with
  | .object fields => fields.map (·.name)
  | .oneOf items _ => items.map (·.name)
  | .enum values => values.map (·.value)

/-- What the code calls the members of a model. -/
def memberNames (m : Model) : List String :=
  match m.kind with
  | .object _ => (sourceNames m).map snakeName
  | .oneOf _ _ | .enum _ => (sourceNames m).map pascalName

/-- What the code keeps of the names of the members. -/
def memberKeys (m : Model) : List (List (List Char)) :=
  match m.kind with
  | .object _ => (sourceNames m).map snakeKey
  | .oneOf _ _ | .enum _ => (sourceNames m).map typeKey

section Members

variable {s : ModelScope} {here : Location} {m : Model} {code : Code} {f : Field}

lemma nodup_map_iff {α β γ : Type} {f : α → β} {g : α → γ} (h : ∀ a b, f a = f b ↔ g a = g b)
    (as : List α) : (as.map f).Nodup ↔ (as.map g).Nodup := by
  simp only [List.Nodup, List.pairwise_map, ne_eq, h]

lemma nodup_members_iff (m : Model) : (memberNames m).Nodup ↔ (memberKeys m).Nodup := by
  unfold memberNames memberKeys
  cases m.kind with
  | object fields => exact nodup_map_iff (fun _ _ => snakeName_eq_iff) _
  | oneOf _ _ | enum _ => exact nodup_map_iff (fun _ _ => pascalName_eq_iff) _

lemma members_attributeCode (ident : String) (t : Spelling) :
    members (ModelScope.attributeCode (ModelScope.fieldAttributes f ident t)) = [] := by
  unfold ModelScope.attributeCode ModelScope.fieldAttributes
  split <;> split <;> split <;> rfl

lemma members_fieldCode (h : s.fieldCode m.name here f = .ok code) :
    members code = [s.naming.fieldName f.name] := by
  obtain ⟨t, -, hcode⟩ := bind_eq_ok_iff.1 h
  cases hcode
  rw [members_append, members_append, members_doc, members_attributeCode]
  rfl

lemma members_itemCode (h : s.itemCode m.name here f = .ok code) :
    members code = [s.naming.variantName f.name] := by
  obtain ⟨t, -, hcode⟩ := bind_eq_ok_iff.1 h
  cases hcode
  rfl

lemma members_valueCode (v : EnumValue) :
    members (s.valueCode v) = [s.naming.variantName v.value] := rfl

lemma members_of_mapM {g : Field → Except Fault Code} {name : Field → String}
    (hg : ∀ f code, g f = .ok code → members code = [name f]) {fields : List Field}
    {codes : List Code} (h : fields.mapM g = .ok codes) :
    members (.all codes) = fields.map name := by
  rw [members_all]
  refine (mapM_eq_ok_iff.1 h).rec rfl fun hfirst _ ih => ?_
  rw [List.flatMap_cons, hg _ _ hfirst, ih]
  rfl

lemma typeDecls_enumTextCode (name : String) (values : List EnumValue) :
    typeDecls (s.enumTextCode name values) = [] := by
  simp [ModelScope.enumTextCode, List.flatMap_map]

/-- The code of a model declares one type, with the members of the model. -/
lemma typeDecls_modelCode (hnaming : s.naming = .standard) (h : s.modelCode here m = .ok code) :
    typeDecls code = [(pascalName m.name, memberNames m)] := by
  have htype : s.naming.typeName m.name = pascalName m.name := by rw [hnaming]; rfl
  unfold ModelScope.modelCode at h
  unfold memberNames sourceNames
  cases hkind : m.kind with
  | object fields =>
    rw [hkind] at h
    obtain ⟨body, hbody, hcode⟩ := bind_eq_ok_iff.1 h
    cases hcode
    have hmembers := members_of_mapM (fun f code => members_fieldCode) hbody
    rw [hnaming] at hmembers
    change typeDecls (.doc _ ++ .line _ ++ .braces _ (.all body)) = _
    rw [typeDecls_append, typeDecls_declares, hmembers, htype]
    simp only [List.map_map]
    rfl
  | oneOf items discriminator =>
    rw [hkind] at h
    obtain ⟨body, hbody, hcode⟩ := bind_eq_ok_iff.1 h
    cases hcode
    have hmembers := members_of_mapM (fun f code => members_itemCode) hbody
    rw [hnaming] at hmembers
    change typeDecls (.doc _ ++ .line _ ++ _ ++ .braces _ (.all body)) = _
    rw [typeDecls_append, typeDecls_declares, hmembers, htype]
    simp only [List.map_map]
    cases discriminator <;> rfl
  | enum values =>
    rw [hkind] at h
    cases h
    have hmembers : members (.all (values.map s.valueCode)) =
        values.map fun v => pascalName v.value := by
      rw [members_all, List.flatMap_map]
      simp only [members_valueCode, hnaming, List.map_eq_flatMap]
      rfl
    have htext := typeDecls_enumTextCode (s := s) (s.naming.typeName m.name) values
    change typeDecls (.doc _ ++ .texts _ ++ .braces _ (.all _) ++ .blank ++
      s.enumTextCode _ values) = _
    rw [typeDecls_append, typeDecls_append, htext, typeDecls_append, typeDecls_declares, hmembers,
      htype, typeDecls_append, typeDecls_texts]
    simp only [List.map_map]
    rfl

end Members

/-! ### Values of an enum and their texts -/

/-- The variant and the text of an arm of the function that writes values. -/
def writeArm? : Line → Option (String × String)
  | [.text "Self::", .item name, .text " => ", .quoted value, .text ","] => some (name, value)
  | _ => none

/-- The text and the variant of an arm of the function that reads values. -/
def readArm? : Line → Option (String × String)
  | [.quoted value, .text " => Ok(Self::", .item name, .text "),"] => some (value, name)
  | _ => none

/-- The arms of the blocks with a head. -/
def armsOf (head : String) (arm? : Line → Option (String × String)) (code : Code) :
    List (String × String) :=
  (bodiesOf head code).flatMap fun body => body.lines.filterMap arm?

/-- What the first arm with a key gives. -/
def firstArm (arms : List (String × String)) (key : String) : Option String :=
  (arms.find? fun arm => arm.1 == key).map Prod.snd

/-- What the function that writes values makes of a variant. -/
def textOf (code : Code) (name : String) : Option String :=
  firstArm (armsOf "match self" writeArm? code) name

/-- What the function that reads values makes of a text. -/
def readBack (code : Code) (value : String) : Option String :=
  firstArm (armsOf "match value" readArm? code) value

section Tables

variable {s : ModelScope} {values : List EnumValue} {head first : String} {rest : Line}
  {body : Code}

lemma bodiesOf_skip (hhead : head.toList.head? = some 'm') (h : first.toList.head?.any (· != 'm')) :
    bodiesOf head (.braces (.text first :: rest) body) = bodiesOf head body := by
  have hne : Line.render (.text first :: rest) ≠ head := by
    rintro rfl
    rw [Line.render, List.map_cons, String.join_cons, String.toList_append, Piece.render,
      List.head?_append] at hhead
    cases hfirst : first.toList.head? with
    | none => simp [hfirst] at h
    | some c =>
      rw [hfirst, Option.some_or, Option.some.injEq] at hhead
      simp [hfirst, hhead] at h
  rw [bodiesOf_braces, if_neg hne, List.nil_append]

lemma bodiesOf_text (line : String) : bodiesOf head (.braces [.text line] body) =
    (if line = head then [body] else []) ++ bodiesOf head body := by
  have hrender : Line.render [.text line] = line := by
    simp [Line.render, Piece.render]
  rw [bodiesOf_braces, hrender]

lemma bodiesOf_each {f : EnumValue → Code} (hf : ∀ v, bodiesOf head (f v) = []) :
    bodiesOf head (.all (values.map f)) = [] := by
  rw [bodiesOf_all, List.flatMap_map]
  exact List.flatMap_eq_nil_iff.2 fun v _ => hf v

/-- The arms that write the values. -/
def writeArms (s : ModelScope) (values : List EnumValue) : Code :=
  .all (values.map fun v => .line [.text "Self::", .item (s.naming.variantName v.value),
    .text " => ", .quoted v.value, .text ","])

/-- The arms that read the values, with the one for any other text behind them. -/
def readArms (s : ModelScope) (m : Model) (values : List EnumValue) : Code :=
  .all (values.map fun v => .line [.quoted v.value, .text " => Ok(Self::",
      .item (s.naming.variantName v.value), .text "),"]) ++
    .line [.text "_ => Err(format!(\"unknown ", .item (s.naming.typeName m.name),
      .text " value '\x7bvalue\x7d'\")),"]

variable (s) in
lemma bodiesOf_enumCode (m : Model) (values : List EnumValue)
    (hhead : head.toList.head? = some 'm') :
    bodiesOf head (s.enumCode m values) =
      (if "match self" = head then [writeArms s values] else []) ++
      (if "match value" = head then [readArms s m values] else []) := by
  have hlines : ∀ line : EnumValue → Line,
      bodiesOf head (.all (values.map fun v => .line (line v))) = [] :=
    fun _ => bodiesOf_each fun _ => rfl
  have hvalues : bodiesOf head (.all (values.map s.valueCode)) = [] := bodiesOf_each fun _ => rfl
  change bodiesOf head (.doc _ ++ .texts _ ++ .braces _ (.all _) ++ .blank ++
    (.braces _ (.line _ ++ .line _ ++ .blank ++ .texts _ ++ .braces _ (.braces _ (.all _))) ++
      .blank ++ .braces _ (.braces _ (.texts _)) ++ .blank ++
      .braces _ (.texts _ ++ .blank ++ .braces _ (.braces _ (.all _ ++ .line _))))) = _
  simp (disch := first | exact hhead | decide) only [bodiesOf_append, bodiesOf_texts,
    bodiesOf_skip, bodiesOf_text, hlines, hvalues]
  simp [bodiesOf, writeArms, readArms]

lemma arms_of_lines {arm? : Line → Option (String × String)} {f : EnumValue → Line}
    {arm : EnumValue → String × String} (h : ∀ v, arm? (f v) = some (arm v)) :
    (Code.all (values.map fun v => .line (f v))).lines.filterMap arm? = values.map arm := by
  rw [lines_all, List.flatMap_map, List.filterMap_flatMap, List.map_eq_flatMap]
  refine List.flatMap_congr fun v _ => ?_
  simp [Code.lines, h]

variable (s) in
lemma armsOf_write (m : Model) (values : List EnumValue) :
    armsOf "match self" writeArm? (s.enumCode m values) =
      values.map fun v => (s.naming.variantName v.value, v.value) := by
  rw [armsOf, bodiesOf_enumCode s m values (by decide), if_pos rfl, if_neg (by decide),
    List.append_nil, List.flatMap_singleton]
  exact arms_of_lines fun _ => rfl

variable (s) in
lemma armsOf_read (m : Model) (values : List EnumValue) :
    armsOf "match value" readArm? (s.enumCode m values) =
      values.map fun v => (v.value, s.naming.variantName v.value) := by
  rw [armsOf, bodiesOf_enumCode s m values (by decide), if_neg (by decide), if_pos rfl,
    List.nil_append, List.flatMap_singleton, readArms, lines_append, List.filterMap_append,
    arms_of_lines fun _ => rfl]
  exact List.append_nil _

lemma firstArm_of_nodup {key value : EnumValue → String} (h : (values.map key).Nodup)
    {v : EnumValue} (hv : v ∈ values) :
    firstArm (values.map fun v => (key v, value v)) (key v) = some (value v) := by
  have hfind : values.find? ((fun arm : String × String => arm.1 == key v) ∘
      fun v => (key v, value v)) = some v := find?_of_nodup_map h hv
  rw [firstArm, List.find?_map, hfind]
  rfl

/-- Values are read back as they are written exactly if no two of them have one variant. -/
theorem readBack_textOf (m : Model) (hnaming : s.naming = .standard)
    (hvalues : (values.map (·.value)).Nodup) :
    (∀ v ∈ values, (readBack (s.enumCode m values) v.value).bind (textOf (s.enumCode m values)) =
        some v.value) ↔ (values.map fun v => pascalName v.value).Nodup := by
  have hread : ∀ v ∈ values, readBack (s.enumCode m values) v.value =
      some (pascalName v.value) := by
    intro v hv
    rw [readBack, armsOf_read, hnaming]
    exact firstArm_of_nodup hvalues hv
  have htext : ∀ name, textOf (s.enumCode m values) name =
      firstArm (values.map fun v => (pascalName v.value, v.value)) name := by
    intro name
    rw [textOf, armsOf_write, hnaming]
    rfl
  constructor
  · intro h
    refine hvalues.of_map.map_on fun v hv w hw hname => ?_
    have hv' := h v hv
    have hw' := h w hw
    rw [hread v hv, Option.bind_some] at hv'
    rw [hread w hw, Option.bind_some, ← hname, hv', Option.some.injEq] at hw'
    exact List.inj_on_of_nodup_map hvalues hv hw hw'
  · intro h v hv
    rw [hread v hv, Option.bind_some, htext]
    exact firstArm_of_nodup h hv

end Tables

end ApiCodegen.Proofs
