import ApiCodegen.Proofs.Declarations
import ApiCodegen.Proofs.NumberTexts
import ApiCodegen.Proofs.ParamCoding
import ApiCodegen.Proofs.RepeatedValues

/-!
# Defaults of parameters

A default is a text that stands in for the value of a parameter when a request has none. Whether
it denotes a value of the type of the parameter is a matter of that type: numbers have a notation
and bounds, and an enum has the texts that its declaration lists and reads. A description is
accepted with any text as the default, so that reading an absent parameter gives a value if its
default denotes one, and one fault of the request if it does not.
-/

namespace ApiCodegen.Proofs
open ParamReader

/-! ### Types of elements -/

/-- The type of a primitive; those that come from elsewhere are given. -/
def primitiveType (foreign : Primitive → ElementType) : Primitive → ElementType
  | .string => ⟨String, some, []⟩
  | .int32 => ⟨Int, Number.readInt32?, []⟩
  | .int64 => ⟨Int, Number.readInt64?, []⟩
  | .float => ⟨Number.Binary, Number.readBinary? Number.single, []⟩
  | .double => ⟨Number.Binary, Number.readBinary? Number.double, []⟩
  | .boolean => ⟨Bool, Number.readBool?, []⟩
  | q => foreign q

def quotedTexts (l : Line) : List String :=
  l.filterMap fun
    | .quoted text => some text
    | _ => none

/-- The texts on the line with the values of an enum. -/
def listedTexts (l : Line) : List String :=
  if l.head? = some (.text "pub const VALUES: &'static [&'static str] = &[") then quotedTexts l
  else []

/-- The type that the code of an enum declares: its variants, as they are read from the texts. -/
def enumType (code : Code) : ElementType :=
  ⟨String, readBack code, code.lines.flatMap listedTexts⟩

/-- The type of the elements of a leaf. -/
inductive HasElements (foreign : Primitive → ElementType) (s : ModelScope) :
    ResolvedType → ElementType → Prop
  | primitive (q : Primitive) : HasElements foreign s (.primitive q) (primitiveType foreign q)
  | enum {name : String} {origin : ModelOrigin} {m : Model} {values : List EnumValue}
      (h : s.scope.lookup name = some (origin, some m)) (hkind : m.kind = .enum values) :
      HasElements foreign s (.model name origin true) (enumType (s.enumCode m values))

/-- A text denotes a value of a leaf. -/
def Denotes (foreign : Primitive → ElementType) (s : Scope) (text : String) : ResolvedType → Prop
  | .primitive .string => True
  | .primitive .int32 => ∃ n, WritesInteger text.toList n ∧ -2147483648 ≤ n ∧ n ≤ 2147483647
  | .primitive .int64 =>
    ∃ n, WritesInteger text.toList n ∧ -9223372036854775808 ≤ n ∧ n ≤ 9223372036854775807
  | .primitive .float | .primitive .double => WritesFloat text.toList
  | .primitive .boolean => text = "true" ∨ text = "false"
  | .primitive q => ∃ a, (foreign q).parse text = some a
  | .model name _ _ => ∃ origin m values, s.lookup name = some (origin, some m) ∧
      m.kind = .enum values ∧ text ∈ values.map (·.value)
  | .local _ | .option _ | .vec _ | .map _ => False

section Elements

variable {foreign : Primitive → ElementType} {s : ModelScope} {leaf : ResolvedType}
  {type : ElementType} {text : String}

lemma quotedTexts_append (l k : Line) : quotedTexts (l ++ k) = quotedTexts l ++ quotedTexts k :=
  List.filterMap_append

lemma quotedTexts_joined (separator : String) (texts : List String) :
    quotedTexts (Line.joined separator (texts.map fun text => [.quoted text])) = texts := by
  induction texts with
  | nil => rfl
  | cons text texts ih =>
    cases texts with
    | nil => rfl
    | cons next texts =>
      have hstep : Line.joined separator ((text :: next :: texts).map fun text => [.quoted text]) =
          [.quoted text, .text separator] ++
            Line.joined separator ((next :: texts).map fun text => [.quoted text]) := rfl
      rw [hstep, quotedTexts_append, ih]
      rfl

lemma listedTexts_text {first : String} {rest : Line}
    (h : first ≠ "pub const VALUES: &'static [&'static str] = &[") :
    listedTexts (.text first :: rest) = [] :=
  if_neg (by simpa using h)

lemma listedTexts_each (values : List EnumValue) {f : EnumValue → Code}
    (hf : ∀ v, (f v).lines.flatMap listedTexts = []) :
    (Code.all (values.map f)).lines.flatMap listedTexts = [] := by
  rw [lines_all, List.flatMap_map, List.flatMap_assoc]
  exact List.flatMap_eq_nil_iff.2 fun v _ => hf v

/-- The code of an enum lists its values. -/
lemma listedTexts_enumCode (m : Model) (values : List EnumValue) :
    (s.enumCode m values).lines.flatMap listedTexts = values.map (·.value) := by
  have hlisted : listedTexts (.text "pub const VALUES: &'static [&'static str] = &[" ::
      Line.joined ", " (values.map fun v => [.quoted v.value]) ++ [.text "];"]) =
        values.map (·.value) := by
    have hvalues : (values.map fun v : EnumValue => ([.quoted v.value] : Line)) =
        (values.map (·.value)).map fun text => [.quoted text] := by
      rw [List.map_map]
      rfl
    rw [listedTexts, List.cons_append, List.head?_cons, if_pos rfl, quotedTexts,
      List.filterMap_cons_none rfl]
    change quotedTexts (_ ++ _) = _
    rw [quotedTexts_append, hvalues, quotedTexts_joined]
    exact List.append_nil _
  have hdeclared := listedTexts_each values (f := s.valueCode) fun v => rfl
  have hwritten := listedTexts_each values (f := fun v => .line [.text "Self::",
    .item (s.naming.variantName v.value), .text " => ", .quoted v.value, .text ","]) fun v => rfl
  have hread := listedTexts_each values (f := fun v => .line [.quoted v.value,
    .text " => Ok(Self::", .item (s.naming.variantName v.value), .text "),"]) fun v => rfl
  change List.flatMap listedTexts (Code.lines (.doc _ ++ .texts _ ++ .braces _ (.all _) ++ .blank ++
    (.braces _ (.line _ ++ .line _ ++ .blank ++ .texts _ ++ .braces _ (.braces _ (.all _))) ++
      .blank ++ .braces _ (.braces _ (.texts _)) ++ .blank ++
      .braces _ (.texts _ ++ .blank ++ .braces _ (.braces _ (.all _ ++ .line _)))))) = _
  simp only [lines_append, List.flatMap_append, Code.braces, Code.lines, List.flatMap_cons, hlisted,
    hdeclared, hwritten, hread]
  simp [listedTexts_text, Code.texts, Code.all, Code.lines]

lemma readBack_eq_none_iff (m : Model) (values : List EnumValue) :
    readBack (s.enumCode m values) text = none ↔ text ∉ values.map (·.value) := by
  rw [readBack, armsOf_read, firstArm, Option.map_eq_none_iff, List.find?_eq_none]
  simp

lemma HasElements.denotes_iff (h : HasElements foreign s leaf type) :
    (∃ a, IsElement type.parse (if leaf.isEnum then some type.allowed else none) text a) ↔
      Denotes foreign s.scope text leaf := by
  cases h with
  | primitive q =>
    have hparse : (∃ a, IsElement (primitiveType foreign q).parse none text a) ↔
        ∃ a, (primitiveType foreign q).parse text = some a :=
      exists_congr fun a => and_iff_right nofun
    change (∃ a, IsElement (primitiveType foreign q).parse none text a) ↔ _
    rw [hparse]
    cases q with
    | string => exact iff_of_true ⟨text, rfl⟩ trivial
    | int32 => exact exists_congr fun n => readInt?_eq_some_iff
    | int64 => exact exists_congr fun n => readInt?_eq_some_iff
    | boolean =>
      change (∃ b, Number.readBool? text = some b) ↔ text = "true" ∨ text = "false"
      unfold Number.readBool?
      split <;> simp_all
    | float => exact exists_readBinary?_iff _
    | double => exact exists_readBinary?_iff _
    | decimal | date | datetime | uuid | json | empty => exact Iff.rfl
  | @enum name origin m values hlookup hkind =>
    have hmember : (∃ a, IsElement (enumType (s.enumCode m values)).parse
        (some (enumType (s.enumCode m values)).allowed) text a) ↔
        text ∈ values.map (·.value) := by
      constructor
      · rintro ⟨a, hallowed, -⟩
        rw [← listedTexts_enumCode (s := s) m values]
        exact hallowed _ rfl
      · intro hmem
        have hsome : readBack (s.enumCode m values) text ≠ none :=
          fun hnone => (readBack_eq_none_iff m values).1 hnone hmem
        obtain ⟨a, ha⟩ := Option.ne_none_iff_exists'.1 hsome
        refine ⟨a, ?_, ha⟩
        rintro texts ⟨rfl⟩
        rw [enumType, listedTexts_enumCode]
        exact hmem
    refine hmember.trans ?_
    constructor
    · exact fun hmem => ⟨origin, m, values, hlookup, hkind, hmem⟩
    · rintro ⟨origin', m', values', hlookup', hkind', hmem⟩
      rw [hlookup] at hlookup'
      cases hlookup'
      rw [hkind] at hkind'
      cases hkind'
      exact hmem

/-- A text is decoded if it denotes a value of the type, and gives one fault if it does not. -/
lemma HasElements.decode_cases (h : HasElements foreign s leaf type) (r : ParamReader)
    (name : String) :
    (Denotes foreign s.scope text leaf ∧ ∃ value, r.decode type.parse
      (if leaf.isEnum then some type.allowed else none) name text = (some value, r)) ∨
    (¬Denotes foreign s.scope text leaf ∧ ∃ problem, r.decode type.parse
      (if leaf.isEnum then some type.allowed else none) name text = (none, r.fail name problem) ∧
        problem.code = "parsing_failed") := by
  rw [← h.denotes_iff]
  rcases decode_spec type.parse (if leaf.isEnum then some type.allowed else none) name r text with
    ⟨value, hdecode, hvalue⟩ | ⟨problem, hdecode, hrefused⟩
  · exact .inl ⟨⟨value, hvalue⟩, value, hdecode⟩
  · refine .inr ⟨?_, problem, hdecode, hrefused.code⟩
    rintro ⟨value, hvalue⟩
    exact hrefused.not_isElement value hvalue

end Elements

/-! ### Absent parameters -/

section Absent

variable {s : Scope} {naming : Naming} {here : Location} {location : ParamLocation} {p : Param}
  {c : ParamCodec} {text : String} {foreign : Primitive → ElementType} {graph : ModelGraph}
  {paths : TypePaths}

variable (foreign graph paths) in
lemma exists_hasElements (hp : ParamRule s p)
    (h : ParamCodec.ofParam s naming here location p = .ok c) :
    ∃ type, HasElements foreign ⟨s, graph, naming, paths⟩ c.leaf type := by
  obtain ⟨name, hname, hleaf⟩ := exists_textValues hp h
  rcases resolveName_eq_ok_iff.1 hleaf with ⟨q, -, hq⟩ | ⟨hnone, origin, m, hlookup, hmodel⟩
  · rw [hq]
    exact ⟨_, .primitive q⟩
  · rcases hname with ⟨q, hq, -⟩ | ⟨-, origin', m', hlookup', henum⟩
    · rw [hnone] at hq
      cases hq
    · rw [hlookup] at hlookup'
      cases hlookup'
      obtain ⟨values, hkind⟩ : ∃ values, m'.kind = .enum values := by
        unfold Model.isEnum at henum
        split at henum
        · exact ⟨_, ‹_›⟩
        · cases henum
        · cases henum
      rw [hmodel, Option.any_some, henum]
      exact ⟨_, .enum hlookup hkind⟩

lemma shape_ne_array (hp : ParamRule s p) (hdefault : p.default = some text)
    (h : ParamCodec.ofParam s naming here location p = .ok c) : c.shape ≠ .array := by
  obtain ⟨shape, type, hshape, -, rfl⟩ := ofParam_eq_ok_iff.1 h
  obtain ⟨name, -, htype | htype | ⟨-, hnone⟩⟩ := hp
  · rw [htype] at hshape
    cases hshape
    exact ParamShape.noConfusion
  · rw [htype] at hshape
    cases hshape
    exact ParamShape.noConfusion
  · rw [hnone] at hdefault
    cases hdefault

/-- With a default, the rule of a parameter holds with any default. -/
lemma ParamRule.withDefault (hp : ParamRule s p) (hdefault : p.default = some text)
    (other : String) : ParamRule s (p.withDefault other) := by
  obtain ⟨name, hname, htype | htype | ⟨-, hnone⟩⟩ := hp
  · exact ⟨name, hname, .inl htype⟩
  · exact ⟨name, hname, .inr (.inl htype)⟩
  · rw [hnone] at hdefault
    cases hdefault

end Absent

/-- In an accepted description, a parameter with a default is read with the default in place of the
value. Reading it when it is absent gives a value and no fault if the default denotes a value of the
type of the parameter; if it does not, there is no value and one fault, which says that the
parameter could not be read. The description is accepted either way: the parameter passes its check
with any other default. -/
theorem absent_reads_iff_denotes (spec : Spec) (naming : Naming)
    (h : spec.validate naming = .ok ()) {v : Version} (hv : v ∈ spec.versions) {a : Api}
    (ha : a ∈ v.apis) {o : Operation} (ho : o ∈ a.operations) {location : ParamLocation} {p : Param}
    (hp : (location, p) ∈ o.params) {text : String} (hdefault : p.default = some text)
    (foreign : Primitive → ElementType) (graph : ModelGraph) (paths : TypePaths) (here : Location)
    (parser : Var) :
    ∃ c r type, ParamCodec.ofParam (.ofVersion v spec.httpErrors) naming here location p = .ok c ∧
      readingOf? ((c.reading naming).expression [.reads parser]) = some r ∧
      r.accessor = .withDefault text ∧ r.name = p.name ∧
      HasElements foreign ⟨.ofVersion v spec.httpErrors, graph, naming, paths⟩ c.leaf type ∧
      (Denotes foreign (.ofVersion v spec.httpErrors) text c.leaf → ∃ value,
        (callOf (fun _ => type) r).on (.ofPairs location []) =
          (some value, .ofPairs location [])) ∧
      (¬Denotes foreign (.ofVersion v spec.httpErrors) text c.leaf → ∃ problem,
        (callOf (fun _ => type) r).on (.ofPairs location []) =
          (none, ⟨location, [], [⟨path location p.name, problem⟩]⟩) ∧
        problem.code = "parsing_failed") ∧
      ∀ other, Validation.checkParam (.ofVersion v spec.httpErrors) here (p.withDefault other) =
        .ok () := by
  have hrules := (SpecRules.of_validate h).operations v hv a ha o ho
  have hrule : ParamRule (.ofVersion v spec.httpErrors) p :=
    hrules.types p (mem_params_iff.1 (List.mem_map_of_mem hp))
  obtain ⟨c, hc⟩ : Succeeds
      (ParamCodec.ofParam (.ofVersion v spec.httpErrors) naming here location p) :=
    succeeds_ofParam hrule
  obtain ⟨type, htype⟩ :=
    exists_hasElements foreign graph paths hrule hc
  have hparam : c.param = p := (fitsParam_of_ofParam hc).param
  have hreading : c.reading naming = ⟨.withDefault text, p.name, c.leaf.spell naming .inApi,
      c.leaf.isEnum, c.shape == .optional⟩ := by
    rw [reading_of_default (shape_ne_array hrule hdefault hc) (hparam ▸ hdefault), hparam]
  refine ⟨c, ⟨.withDefault text, p.name, c.leaf.spell naming .inApi, c.leaf.isEnum,
    c.shape == .optional⟩, type, hc, ?_, rfl, rfl, htype, ?_, ?_, ?_⟩
  · rw [hreading]
    exact readingOf?_expression _ parser
  · intro hdenotes
    rcases htype.decode_cases (ofPairs location []) p.name with ⟨-, hvalue⟩ | ⟨hnone, -⟩
    · exact hvalue
    · exact absurd hdenotes hnone
  · intro hnone
    rcases htype.decode_cases (ofPairs location []) p.name with ⟨hdenotes, -⟩ | ⟨-, hfault⟩
    · exact absurd hdenotes hnone
    · exact hfault
  · exact fun other => checkParam_eq_ok_iff.2 (hrule.withDefault hdefault other)

/-- A parameter for the number of orders. -/
def limit (text : String) : Param :=
  (Param.ofType "limit" (.named "int")).withDefault text

/-- A parameter for the color of orders. -/
def tint (text : String) : Param :=
  (Param.ofType "tint" (.nullable (.named "Color"))).withDefault text

/-- A version with a list of orders that is asked for with two defaults. -/
def orderListVersion (number color : String) : Version where
  name := "v1"
  url := none
  apis := [⟨"orders", [{
    name := "list_orders"
    endpoint := ⟨.get, "/orders", []⟩
    headerParams := []
    queryParams := [limit number, tint color]
    body := .empty
    responses := [⟨"ok", .empty, none⟩]
    description := none }]⟩]
  models := [⟨"Color", .enum [⟨"red", none⟩, ⟨"green", none⟩], none⟩]

def orderList (number color : String) : Spec where
  name := "shop"
  versions := [orderListVersion number color]
  httpErrors := ⟨[], []⟩

theorem absent_reads_iff_denotes_orderList :
    (orderList "20" "green").validate .standard = .ok () ∧
      (∃ r type value, r.accessor = .withDefault "20" ∧
        (callOf (fun _ => type) r).on (.ofPairs .query []) = (some value, .ofPairs .query [])) ∧
      ∃ r type value, r.accessor = .withDefault "green" ∧
        (callOf (fun _ => type) r).on (.ofPairs .query []) = (some value, .ofPairs .query []) := by
  have hvalid : (orderList "20" "green").validate .standard = .ok () := by decide +kernel
  have hlimit : ParamCodec.ofParam (.ofVersion (orderListVersion "20" "green") ⟨[], []⟩) .standard
      .root .query (limit "20") =
        .ok ⟨limit "20", .query, "limit", .required, .primitive .int32, .primitive .int32⟩ := by
    decide +kernel
  have htint : ParamCodec.ofParam (.ofVersion (orderListVersion "20" "green") ⟨[], []⟩) .standard
      .root .query (tint "green") = .ok ⟨tint "green", .query, "tint", .optional,
        .option (.model "Color" .version true), .model "Color" .version true⟩ := by
    decide +kernel
  refine ⟨hvalid, ?_, ?_⟩
  · obtain ⟨c, r, type, hc, -, haccessor, -, -, hvalue, -⟩ :=
      absent_reads_iff_denotes (orderList "20" "green") .standard hvalid List.mem_cons_self
        List.mem_cons_self List.mem_cons_self
        (show (ParamLocation.query, limit "20") ∈ _ from List.mem_cons_self) rfl
        (fun _ => ⟨Unit, fun _ => none, []⟩) (.ofModels []) .inApi .root ⟨"parser", .generated⟩
    cases hc.symm.trans hlimit
    have hsign : Signed "20".toList false "20".toList := .absent ⟨by decide, by decide⟩
    have hdigits : IsDigits "20".toList := ⟨by decide, List.all_eq_true.1 (by decide)⟩
    have hnumber : Number.ofDigits "20".toList = 20 := by decide
    obtain ⟨value, hread⟩ := hvalue ⟨_, .mk hsign hdigits, by rw [hnumber]; decide⟩
    exact ⟨r, type, value, haccessor, hread⟩
  · obtain ⟨c, r, type, hc, -, haccessor, -, -, hvalue, -⟩ :=
      absent_reads_iff_denotes (orderList "20" "green") .standard hvalid List.mem_cons_self
        List.mem_cons_self List.mem_cons_self
        (show (ParamLocation.query, tint "green") ∈ _ from
          List.mem_cons_of_mem _ List.mem_cons_self) rfl
        (fun _ => ⟨Unit, fun _ => none, []⟩) (.ofModels []) .inApi .root ⟨"parser", .generated⟩
    cases hc.symm.trans htint
    obtain ⟨value, hread⟩ := hvalue ⟨.version, _, _, rfl, rfl, by decide⟩
    exact ⟨r, type, value, haccessor, hread⟩

/-- A number of orders that is no number is accepted as the default, and every request that leaves
the number out is faulted for it. -/
theorem many_denotes_no_limit :
    (orderList "many" "green").validate .standard = .ok () ∧ ∃ c r,
      ParamCodec.ofParam (.ofVersion (orderListVersion "many" "green") ⟨[], []⟩) .standard .root
        .query (limit "many") = .ok c ∧
      readingOf? ((c.reading .standard).expression [.reads ⟨"parser", .generated⟩]) = some r ∧
      ∀ foreign s, HasElements foreign s c.leaf (primitiveType foreign .int32) ∧
        (callOf (fun _ => primitiveType foreign .int32) r).on (.ofPairs .query []) =
          (none, ⟨.query, [], [⟨"limit", .unreadable "limit" "many"⟩]⟩) := by
  refine ⟨by decide +kernel, ⟨limit "many", .query, "limit", .required, .primitive .int32,
    .primitive .int32⟩, _, by decide +kernel, readingOf?_expression _ _, fun foreign s => ?_⟩
  have hmany : Number.readInt32? "many" = none := by decide
  refine ⟨.primitive .int32, ?_⟩
  change decode Number.readInt32? none (.ofPairs .query []) "limit" "many" = _
  unfold decode check
  rw [hmany]
  rfl

end ApiCodegen.Proofs
