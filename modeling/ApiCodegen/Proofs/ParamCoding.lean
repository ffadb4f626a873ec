import ApiCodegen.Proofs.Emission
import ApiCodegen.Proofs.ParamRoundTrip
import ApiCodegen.Proofs.Signatures

/-!
# Client and service code a parameter alike

The client writes a parameter with one call and the service reads it with another; the two are
chosen apart, by different properties of the parameter. `readingOf?` and `writingOf?` take the emitted
calls apart by the names of their methods and the forms of their arguments. Run on values, the call
that reads gives a value of the type of the parameter, namely the one that the other call has written.
-/

namespace ApiCodegen.Proofs
open ParamReader

/-! ### Calls -/

/-- The arguments of a call that reads, behind the name of the parameter. -/
structure CallArguments where
  default : Option String
  /-- The enum whose values are allowed. -/
  values : Option Spelling
  /-- Whether the result is made optional. -/
  lifted : Bool

def defaultOf : Line → Option String × Line
  | .text ", " :: .quoted text :: rest => (some text, rest)
  | rest => (none, rest)

def valuesOf : Line → Option Spelling × Line
  | .text ", " :: .spelled type :: .text "::VALUES" :: rest => (some type, rest)
  | rest => (none, rest)

def argumentsOf? (arguments : Line) : Option CallArguments :=
  let (default, rest) := defaultOf arguments
  match valuesOf rest with
  | (values, [.text ")"]) => some ⟨default, values, false⟩
  | (values, [.text ")", .text ".map(Some)"]) => some ⟨default, values, true⟩
  | _ => none

/-- The access that a method of a parser makes, and whether it restricts the texts. -/
def accessOf? (method : String) (default : Option String) : Option (Accessor × Bool) :=
  match method, default with
  | ".required::<", none => some (.required, false)
  | ".required_enum::<", none => some (.required, true)
  | ".optional::<", none => some (.optional, false)
  | ".optional_enum::<", none => some (.optional, true)
  | ".with_default::<", some text => some (.withDefault text, false)
  | ".enum_with_default::<", some text => some (.withDefault text, true)
  | ".array::<", none => some (.array, false)
  | ".enum_array::<", none => some (.array, true)
  | _, _ => none

/-- What an expression that reads a parameter through a parser does. -/
def readingOf? : Line → Option ParamReading
  | .reads _ :: .text method :: .spelled element :: .text ">(" :: .quoted name :: rest => do
    let arguments ← argumentsOf? rest
    let (accessor, restricted) ← accessOf? method arguments.default
    if arguments.values = if restricted then some element else none then
      some ⟨accessor, name, element, restricted, arguments.lifted⟩
    else none
  | _ => none

def shapeOf? : String → Option ParamShape
  | ".add(" => some .required
  | ".add_optional(" => some .optional
  | ".add_array(" => some .array
  | _ => none

/-- The argument that hands over the elements of a place as they are. -/
def plainArgument (place : Line) : ParamShape → Line
  | .required | .array => .text "&" :: place
  | .optional => place ++ [.text ".as_ref()"]

/-- The argument that gives the elements of a place the format of date-times. -/
def formattedArgument (place : Line) : ParamShape → Line
  | .required => place ++ [.text ".format(", .quoted dateTimeFormat, .text ")"]
  | .optional => place ++ [.text ".as_ref().map(|v| v", .text ".format(", .quoted dateTimeFormat,
      .text ")", .text ")"]
  | .array => place ++ [.text ".iter().map(|v| v", .text ".format(", .quoted dateTimeFormat,
      .text ")", .text ")"]

/-- What a statement that writes the value of a place through a writer does. -/
def writingOf? (place : Line) : Line → Option ParamWriting
  | .reads _ :: .text method :: .quoted name :: .text ", " :: rest => do
    let shape ← shapeOf? method
    if rest = plainArgument place shape ++ [.text ");"] then some ⟨shape, name, false⟩
    else if rest = formattedArgument place shape ++ [.text ");"] then some ⟨shape, name, true⟩
    else none
  | _ => none

/-- The default that an access is made with. -/
def defaultText : Accessor → Option String
  | .withDefault text => some text
  | .required | .optional | .array => none

lemma accessOf?_method (r : ParamReading) :
    accessOf? ("." ++ r.method ++ "::<") (defaultText r.accessor) =
      some (r.accessor, r.restricted) := by
  obtain ⟨accessor, name, element, restricted, lifted⟩ := r
  cases accessor <;> cases restricted <;> rfl

lemma argumentsOf?_arguments (r : ParamReading) :
    argumentsOf? (ParamReading.defaultArgument r.accessor ++ r.allowedArgument ++ [.text ")"] ++
        if r.lifted then [.text ".map(Some)"] else []) =
      some ⟨defaultText r.accessor, if r.restricted then some r.element else none, r.lifted⟩ := by
  obtain ⟨accessor, name, element, restricted, lifted⟩ := r
  cases accessor <;> cases restricted <;> cases lifted <;> rfl

lemma readingOf?_expression (r : ParamReading) (parser : Var) :
    readingOf? (r.expression [.reads parser]) = some r := by
  have hexpression : r.expression [.reads parser] =
      .reads parser :: .text ("." ++ r.method ++ "::<") :: .spelled r.element :: .text ">(" ::
        .quoted r.name :: (ParamReading.defaultArgument r.accessor ++ r.allowedArgument ++
          [.text ")"] ++ if r.lifted then [.text ".map(Some)"] else []) := by
    simp [ParamReading.expression]
  rw [hexpression, readingOf?, argumentsOf?_arguments, Option.bind_eq_bind, Option.bind_some,
    accessOf?_method]
  exact if_pos rfl

lemma argument_eq (w : ParamWriting) (place : Line) :
    w.argument place =
      if w.formatted then formattedArgument place w.shape else plainArgument place w.shape := by
  obtain ⟨shape, name, formatted⟩ := w
  cases shape <;> cases formatted <;>
    simp [ParamWriting.argument, ParamWriting.formatCall, plainArgument, formattedArgument]

/-- A format takes more tokens. -/
lemma plainArgument_ne_formattedArgument (place : Line) (shape : ParamShape) :
    plainArgument place shape ≠ formattedArgument place shape := by
  intro h
  have hlength := congrArg List.length h
  cases shape <;> simp [plainArgument, formattedArgument] at hlength

lemma writingOf?_statement (w : ParamWriting) (writer : Var) (place : Line) :
    writingOf? place (w.statement [.reads writer] place) = some w := by
  have hmethod : shapeOf? ("." ++ w.method ++ "(") = some w.shape := by
    unfold ParamWriting.method
    cases w.shape <;> rfl
  have hstatement : w.statement [.reads writer] place =
      .reads writer :: .text ("." ++ w.method ++ "(") :: .quoted w.name :: .text ", " ::
        (w.argument place ++ [.text ");"]) := rfl
  have hne := plainArgument_ne_formattedArgument place w.shape
  rw [hstatement, writingOf?, hmethod, argument_eq]
  obtain ⟨shape, name, formatted⟩ := w
  cases formatted with
  | false => exact if_pos rfl
  | true =>
    have hplain : formattedArgument place shape ++ [.text ");"] ≠
        plainArgument place shape ++ [.text ");"] := fun h => hne (List.append_cancel_right h).symm
    exact (if_neg hplain).trans (if_pos rfl)

/-! ### Values -/

/-- What generated code knows of a type whose values it also writes. -/
structure WireType extends ElementType where
  display : Element → String
  /-- The text in the format of date-times. -/
  stamp : Element → String

/-- A type that holds no other type. -/
def IsLeaf : ResolvedType → Prop
  | .option _ | .vec _ | .map _ => False
  | .primitive _ | .model _ _ _ | .local _ => True

/-- A value of a parameter, over elements of its innermost type. -/
inductive ParamValue (α : Type) where
  | one (a : α)
  | absent
  | present (v : ParamValue α)
  | many (as : List α)

namespace ParamValue

variable {α : Type}

def elements : ParamValue α → List α
  | one a => [a]
  | absent => []
  | present v => v.elements
  | many as => as

/-- The values of a type that holds elements of its innermost type. -/
def OfType : ParamValue α → ResolvedType → Prop
  | one _, t => IsLeaf t
  | absent, .option _ => True
  | present v, .option t => v.OfType t
  | many _, .vec t => IsLeaf t
  | _, _ => False

/-- What an access gives, as a value. -/
def ofAccess : (accessor : Accessor) → accessor.Value α → ParamValue α
  | .required, a => one a
  | .withDefault _, a => one a
  | .optional, found => Option.elim found absent fun a => present (one a)
  | .array, as => many as

/-- The value as the method that writes a shape takes it. -/
def forShape? : (shape : ParamShape) → ParamValue α → Option ((accessorOf shape).Value α)
  | .required, one a => some a
  | .optional, absent => some (none : Option α)
  | .optional, present (one a) => some (some a : Option α)
  | .array, many as => some (as : List α)
  | _, _ => none

end ParamValue

/-- Runs an expression that reads a parameter. -/
def runReading (types : Spelling → WireType) (r : ParamReading) (reader : ParamReader) :
    Option (ParamValue (types r.element).Element) × ParamReader :=
  let (result, reader) := (callOf (fun t => (types t).toElementType) r).on reader
  let value := result.map (ParamValue.ofAccess r.accessor)
  (if r.lifted then value.map .present else value, reader)

/-- Runs a statement that writes the value of a place, which the method has to take. -/
def runWriting (type : WireType) (w : ParamWriting) (v : ParamValue type.Element)
    (writer : ParamWriter) : Option ParamWriter :=
  (v.forShape? w.shape).map
    (writeValue (if w.formatted then type.stamp else type.display) writer w.name w.shape)

/-- The type of what an expression reads, if it is there. -/
def resultSpelling (r : ParamReading) : Spelling :=
  let type : Spelling :=
    match r.accessor with
    | .required | .withDefault _ => r.element
    | .optional => .option r.element
    | .array => .vec r.element
  if r.lifted then .option type else type

/-! ### Codecs -/

/-- The type of a parameter of a given shape. -/
def typeOf : ParamShape → ResolvedType → ResolvedType
  | .required, t => t
  | .optional, t => .option t
  | .array, t => .vec t

section Codecs

variable {s : Scope} {naming : Naming} {here : Location} {location : ParamLocation} {p : Param}
  {c : ParamCodec}

lemma isLeaf_of_resolveName {name : String} {type : ResolvedType}
    (h : s.resolveName name here = .ok type) : IsLeaf type ∧ type.leaf = type := by
  rcases resolveName_eq_ok_iff.1 h with ⟨q, -, rfl⟩ | ⟨-, origin, m, -, rfl⟩
  · exact ⟨trivial, rfl⟩
  · exact ⟨trivial, rfl⟩

lemma isLeaf_of_resolve {t : TypeExpr} {shape : ParamShape} {type : ResolvedType}
    (hshape : ParamShape.ofType? t = some shape) (h : s.resolve here t = .ok type) :
    IsLeaf type.leaf ∧ type = typeOf shape type.leaf := by
  match t with
  | .named name =>
    cases hshape
    obtain ⟨hleaf, heq⟩ := isLeaf_of_resolveName h
    rw [heq]
    exact ⟨hleaf, rfl⟩
  | .nullable (.named name) =>
    cases hshape
    obtain ⟨inner, hinner, rfl⟩ := map_eq_ok_iff.1 h
    obtain ⟨hleaf, heq⟩ := isLeaf_of_resolveName hinner
    change IsLeaf inner.leaf ∧ ResolvedType.option inner = .option inner.leaf
    rw [heq]
    exact ⟨hleaf, rfl⟩
  | .array (.named name) =>
    cases hshape
    obtain ⟨inner, hinner, rfl⟩ := map_eq_ok_iff.1 h
    obtain ⟨hleaf, heq⟩ := isLeaf_of_resolveName hinner
    change IsLeaf inner.leaf ∧ ResolvedType.vec inner = .vec inner.leaf
    rw [heq]
    exact ⟨hleaf, rfl⟩
  | .nullable (.nullable _) | .nullable (.array _) | .nullable (.map _) | .array (.nullable _)
  | .array (.array _) | .array (.map _) | .map _ => cases hshape

/-- What the codec of a parameter knows of its type. -/
structure FitsParam (c : ParamCodec) (location : ParamLocation) (p : Param) : Prop where
  param : c.param = p
  location : c.location = location
  leaf : IsLeaf c.leaf
  type : c.type = typeOf c.shape c.leaf

lemma fitsParam_of_ofParam (h : ParamCodec.ofParam s naming here location p = .ok c) :
    FitsParam c location p := by
  obtain ⟨shape, type, hshape, htype, rfl⟩ := ofParam_eq_ok_iff.1 h
  obtain ⟨hleaf, heq⟩ := isLeaf_of_resolve hshape htype
  exact ⟨rfl, rfl, hleaf, heq⟩

/-- The innermost type of an accepted parameter is that of a name whose values are texts. -/
lemma exists_textValues (hp : ParamRule s p)
    (h : ParamCodec.ofParam s naming here location p = .ok c) :
    ∃ name, HasTextValues s name ∧ s.resolveName name (here.child p.name) = .ok c.leaf := by
  obtain ⟨shape, type, -, hresolve, rfl⟩ := ofParam_eq_ok_iff.1 h
  obtain ⟨name, hname, htype⟩ := hp
  have hsame : p.type.leaf = name := by
    rcases htype with htype | htype | ⟨htype, -⟩ <;> rw [htype] <;> rfl
  exact ⟨name, hname, hsame ▸ resolveName_leaf hresolve⟩

/-- Without a default, and for arrays, the accessor is that of the shape. -/
lemma reading_of_plain (h : c.shape = .array ∨ c.param.default = none) :
    c.reading naming = ⟨accessorOf c.shape, c.param.name, c.leaf.spell naming .inApi,
      c.leaf.isEnum, false⟩ := by
  unfold ParamCodec.reading ParamCodec.accessor
  rcases h with hshape | hdefault
  · rw [hshape]
    rfl
  · rw [hdefault]
    cases c.shape <;> rfl

lemma reading_of_default {text : String} (hshape : c.shape ≠ .array)
    (hdefault : c.param.default = some text) :
    c.reading naming = ⟨.withDefault text, c.param.name, c.leaf.spell naming .inApi,
      c.leaf.isEnum, c.shape == .optional⟩ := by
  unfold ParamCodec.reading ParamCodec.accessor
  rw [hdefault]
  cases hs : c.shape with
  | required => rfl
  | optional => rfl
  | array => exact absurd hs hshape

end Codecs

/-! ### Agreement -/

/-- The text that an element of an innermost type is written as. -/
def WireType.text (type : WireType) (leaf : ResolvedType) : type.Element → String :=
  if leaf.isPrimitive .datetime then type.stamp else type.display

/-- The texts that an element of an innermost type is restricted to. -/
def WireType.restriction (type : WireType) (leaf : ResolvedType) : Option (List String) :=
  if leaf.isEnum then some type.allowed else none

/-- An element reads back from its text, which is a value of the enum if there is one. -/
def WireType.ReadsBack (type : WireType) (leaf : ResolvedType) (a : type.Element) : Prop :=
  type.parse (type.text leaf a) = some a ∧
    ∀ texts, type.restriction leaf = some texts → type.text leaf a ∈ texts

/-- How a parameter is read and how it is written agree. -/
structure CodecAgrees (types : Spelling → WireType) (naming : Naming) (location : ParamLocation)
    (p : Param) (c : ParamCodec) (r : ParamReading) (w : ParamWriting) : Prop where
  names : r.name = p.name ∧ w.name = p.name
  element : r.element = c.leaf.spell naming .inApi
  result : resultSpelling r = c.type.spell naming .inApi
  typed : ∀ reader v, (runReading types r reader).1 = some v → v.OfType c.type
  /-- A value of the type is written and reads back, and no fault is met; only the absent value of a
  parameter with a default does not. -/
  readsBack : ∀ v : ParamValue (types r.element).Element, v.OfType c.type →
    (∀ a ∈ v.elements, (types r.element).ReadsBack c.leaf a) → (v = .absent → p.default = none) →
    ∃ writer, runWriting (types r.element) w v .empty = some writer ∧
      runReading types r (.ofPairs location writer.pairs) =
        (some v, .ofPairs location writer.pairs)
  /-- The absent value reads as the default. -/
  defaulted : ∀ text, p.default = some text →
    (ParamValue.absent : ParamValue (types r.element).Element).OfType c.type →
    ∃ writer, runWriting (types r.element) w .absent .empty = some writer ∧
      runReading types r (.ofPairs location writer.pairs) =
        let (a, reader) := (ofPairs location writer.pairs).decode (types r.element).parse
          ((types r.element).restriction c.leaf) p.name text
        (a.map fun a => .present (.one a), reader)

section Agreement

variable {types : Spelling → WireType} {naming : Naming} {location : ParamLocation} {p : Param}
  {c : ParamCodec}

/-- A value of the type of a parameter is taken by the method of its shape, and given back by the
accessor of its shape. -/
lemma exists_forShape {α : Type} {v : ParamValue α} {shape : ParamShape} {leaf : ResolvedType}
    (hleaf : IsLeaf leaf) (h : v.OfType (typeOf shape leaf)) :
    ∃ value, v.forShape? shape = some value ∧ .ofAccess (accessorOf shape) value = v ∧
      elementsOf shape value = v.elements := by
  cases shape with
  | required =>
    change v.OfType leaf at h
    cases v with
    | one a => exact ⟨a, rfl, rfl, rfl⟩
    | absent | present _ | many _ => cases leaf <;> first | exact h.elim | exact hleaf.elim
  | optional =>
    change v.OfType (.option leaf) at h
    match v with
    | .absent => exact ⟨(none : Option α), rfl, rfl, rfl⟩
    | .present (.one a) => exact ⟨(some a : Option α), rfl, rfl, rfl⟩
    | .one _ | .many _ => exact h.elim
    | .present .absent | .present (.present _) | .present (.many _) =>
      cases leaf <;> first | exact h.elim | exact hleaf.elim
  | array =>
    change v.OfType (.vec leaf) at h
    cases v with
    | many as => exact ⟨(as : List α), rfl, rfl, rfl⟩
    | one _ | absent | present _ => exact h.elim

lemma exists_eq_one {α : Type} {v : ParamValue α} {shape : ParamShape} {leaf : ResolvedType}
    (hleaf : IsLeaf leaf) (h : v.OfType (typeOf shape leaf)) (hshape : shape ≠ .array)
    (hpresent : v ≠ .absent) :
    ∃ a, v = if shape == .optional then .present (.one a) else .one a := by
  obtain ⟨value, -, rfl, -⟩ := exists_forShape hleaf h
  cases shape with
  | required => exact ⟨value, rfl⟩
  | optional =>
    change Option α at value
    cases value with
    | none => exact absurd rfl hpresent
    | some a => exact ⟨a, rfl⟩
  | array => exact absurd rfl hshape

lemma optional_of_absent {α : Type} {shape : ParamShape} {leaf : ResolvedType}
    (hleaf : IsLeaf leaf) (h : (ParamValue.absent : ParamValue α).OfType (typeOf shape leaf)) :
    shape = .optional := by
  cases shape with
  | required =>
    change ParamValue.absent.OfType leaf at h
    cases leaf <;> first | exact h.elim | exact hleaf.elim
  | optional => rfl
  | array => exact h.elim

/-- What an accessor gives has the type of the shape it stands for. -/
lemma ofType_ofAccess {α : Type} {shape : ParamShape} {leaf : ResolvedType} (hleaf : IsLeaf leaf)
    (value : (accessorOf shape).Value α) :
    (ParamValue.ofAccess (accessorOf shape) value).OfType (typeOf shape leaf) := by
  cases shape with
  | required => exact hleaf
  | optional =>
    change Option α at value
    cases value with
    | none => trivial
    | some a => exact hleaf
  | array => exact hleaf

/-- The writer call of a codec is run on values of the type of the parameter; then the texts of the
elements stand under the name, and nothing else does. -/
lemma exists_written (hfits : FitsParam c location p) (type : WireType)
    {v : ParamValue type.Element} (hv : v.OfType c.type) :
    ∃ writer, runWriting type c.writing v .empty = some writer ∧
      (ofPairs location writer.pairs).values p.name = v.elements.map (type.text c.leaf) := by
  rw [hfits.type] at hv
  obtain ⟨value, hvalue, -, helements⟩ := exists_forShape hfits.leaf hv
  refine ⟨writeValue (type.text c.leaf) .empty p.name c.shape value, ?_, ?_⟩
  · unfold runWriting
    change (v.forShape? c.shape).map _ = _
    rw [hvalue, ← hfits.param]
    rfl
  · rw [pairs_writeValue, helements]
    change (ofPairs location (List.map (p.name, ·) _)).values p.name = _
    rw [values_of_key, if_pos keyMatches_self]

lemma codecAgrees_of_plain (hfits : FitsParam c location p)
    (h : c.shape = .array ∨ p.default = none) :
    CodecAgrees types naming location p c ⟨accessorOf c.shape, p.name, c.leaf.spell naming .inApi,
      c.leaf.isEnum, false⟩ c.writing where
  names := ⟨rfl, congrArg Param.name hfits.param⟩
  element := rfl
  result := by
    rw [hfits.type]
    cases c.shape <;> rfl
  typed := by
    intro reader v hread
    obtain ⟨value, -, rfl⟩ := Option.map_eq_some_iff.1 hread
    rw [hfits.type]
    exact ofType_ofAccess hfits.leaf value
  readsBack := by
    intro v hv hlawful hdefault
    obtain ⟨writer, hwriter, hvalues⟩ := exists_written hfits _ hv
    refine ⟨writer, hwriter, ?_⟩
    rw [hfits.type] at hv
    obtain ⟨value, -, rfl, helements⟩ := exists_forShape hfits.leaf hv
    rw [← helements] at hlawful hvalues
    have hcall : (callOf (fun t => (types t).toElementType) ⟨accessorOf c.shape, p.name,
        c.leaf.spell naming .inApi, c.leaf.isEnum, false⟩).on (ofPairs location writer.pairs) =
        (some value, ofPairs location writer.pairs) := read_eq_some hlawful hvalues
    unfold runReading
    rw [hcall]
    rfl
  defaulted := by
    intro text htext habsent
    rcases h with hshape | hdefault
    · rw [hfits.type, hshape] at habsent
      exact habsent.elim
    · exact absurd (hdefault.symm.trans htext) (Option.some_ne_none text).symm

/-- With a default, the text of the element or else the default is decoded. -/
lemma runReading_withDefault (types : Spelling → WireType) (text name : String)
    (element : Spelling) (restricted lifted : Bool) (reader : ParamReader) :
    runReading types ⟨.withDefault text, name, element, restricted, lifted⟩ reader =
      let (a, reader) := reader.decode (types element).parse
        (if restricted then some (types element).allowed else none) name
        ((reader.first? name).getD text)
      (a.map fun a => if lifted then .present (.one a) else .one a, reader) := by
  cases lifted with
  | false => rfl
  | true =>
    exact Prod.ext (Option.map_map ParamValue.present ParamValue.one _) rfl

lemma codecAgrees_of_default {text : String} (hfits : FitsParam c location p)
    (hshape : c.shape ≠ .array) (hdefault : p.default = some text) :
    CodecAgrees types naming location p c ⟨.withDefault text, p.name, c.leaf.spell naming .inApi,
      c.leaf.isEnum, c.shape == .optional⟩ c.writing where
  names := ⟨rfl, congrArg Param.name hfits.param⟩
  element := rfl
  result := by
    rw [hfits.type]
    cases hs : c.shape with
    | required => rfl
    | optional => rfl
    | array => exact absurd hs hshape
  typed := by
    intro reader v hread
    rw [runReading_withDefault] at hread
    obtain ⟨a, -, rfl⟩ := Option.map_eq_some_iff.1 hread
    rw [hfits.type]
    cases hs : c.shape with
    | required => exact hfits.leaf
    | optional => exact hfits.leaf
    | array => exact absurd hs hshape
  readsBack := by
    intro v hv hlawful hexcept
    obtain ⟨writer, hwriter, hvalues⟩ := exists_written hfits _ hv
    refine ⟨writer, hwriter, ?_⟩
    have hpresent : v ≠ .absent := by
      intro habsent
      exact absurd ((hexcept habsent).symm.trans hdefault) (Option.some_ne_none text).symm
    rw [hfits.type] at hv
    obtain ⟨a, rfl⟩ := exists_eq_one hfits.leaf hv hshape hpresent
    have helements : (if c.shape == .optional then ParamValue.present (.one a)
        else .one a).elements = [a] := by
      split <;> rfl
    obtain ⟨hparse, hallowed⟩ := hlawful a (by rw [helements]; exact List.mem_cons_self)
    have hfirst : (ofPairs location writer.pairs).first? p.name =
        some ((types (c.leaf.spell naming .inApi)).text c.leaf a) := by
      unfold first?
      rw [hvalues, helements]
      rfl
    have hdecode := decode_eq_some hparse hallowed (ofPairs location writer.pairs) p.name
    rw [runReading_withDefault, hfirst]
    exact congrArg (fun x => (Option.map (fun a =>
      if c.shape == .optional then ParamValue.present (.one a) else .one a) x.1, x.2)) hdecode
  defaulted := by
    intro text' htext habsent
    obtain ⟨writer, hwriter, hvalues⟩ := exists_written hfits _ habsent
    refine ⟨writer, hwriter, ?_⟩
    have hfirst : (ofPairs location writer.pairs).first? p.name = none := by
      unfold first?
      rw [hvalues]
      rfl
    rw [hfits.type] at habsent
    rw [runReading_withDefault, hfirst, optional_of_absent hfits.leaf habsent]
    cases hdefault.symm.trans htext
    rfl

lemma codecAgrees_reading (hfits : FitsParam c location p) :
    CodecAgrees types naming location p c (c.reading naming) c.writing := by
  by_cases hplain : c.shape = .array ∨ p.default = none
  · rw [reading_of_plain (by rw [hfits.param]; exact hplain), hfits.param]
    exact codecAgrees_of_plain hfits hplain
  · obtain ⟨hshape, hdefault⟩ := not_or.1 hplain
    obtain ⟨text, htext⟩ := Option.ne_none_iff_exists'.1 hdefault
    rw [reading_of_default hshape (by rw [hfits.param]; exact htext), hfits.param]
    exact codecAgrees_of_default hfits hshape htext

end Agreement

/-- A parameter that passes its check has a codec, in any location; what its client code writes is
what its service code reads. -/
theorem validated_codec_agrees {s : Scope} {here : Location} {p : Param}
    (h : Validation.checkParam s here p = .ok ()) (naming : Naming) (there : Location)
    (location : ParamLocation) :
    ∃ c, ParamCodec.ofParam s naming there location p = .ok c ∧
      ∀ (parser writer : Var) (place : Line), ∃ r w,
        readingOf? ((c.reading naming).expression [.reads parser]) = some r ∧
        writingOf? place (c.writing.statement [.reads writer] place) = some w ∧
        ∀ types, CodecAgrees types naming location p c r w := by
  obtain ⟨c, hc⟩ : Succeeds (ParamCodec.ofParam s naming there location p) :=
    succeeds_ofParam (checkParam_eq_ok_iff.1 h)
  have hfits : FitsParam c location p := fitsParam_of_ofParam hc
  refine ⟨c, hc, fun parser writer place => ?_⟩
  exact ⟨c.reading naming, c.writing, readingOf?_expression _ _, writingOf?_statement _ _ _,
    fun types => codecAgrees_reading hfits⟩

/-- An optional color that is green by default. -/
def shade : Param := (Param.ofType "Shade" (.nullable (.named "Color"))).withDefault "green"

/-- The enum of the colors red (`true`) and green (`false`). -/
def colorType : WireType where
  Element := Bool
  parse := fun text =>
    if text = "red" then some true else if text = "green" then some false else none
  allowed := ["red", "green"]
  display := fun red => if red then "red" else "green"
  stamp := fun _ => ""

theorem validated_codec_agrees_shade :
    Validation.checkParam (.ofVersion shopVersion shop.httpErrors) .root shade = .ok () ∧
      ∃ r w, CodecAgrees (fun _ => colorType) .standard .header shade
          ⟨shade, .header, "shade", .optional, .option (.model "Color" .version true),
            .model "Color" .version true⟩ r w ∧
        (∀ red : Bool, ∃ writer, runWriting colorType w (.present (.one red)) .empty = some writer ∧
          runReading (fun _ => colorType) r (.ofPairs .header writer.pairs) =
            (some (.present (.one red)), .ofPairs .header writer.pairs)) ∧
        ∃ writer, runWriting colorType w .absent .empty = some writer ∧
          runReading (fun _ => colorType) r (.ofPairs .header writer.pairs) =
            (some (.present (.one false)), .ofPairs .header writer.pairs) := by
  have hcheck : Validation.checkParam (.ofVersion shopVersion shop.httpErrors) .root shade =
      .ok () := by decide +kernel
  obtain ⟨c, hc, hcode⟩ := validated_codec_agrees hcheck .standard .root .header
  obtain ⟨r, w, -, -, hagrees⟩ := hcode ⟨"parser", .generated⟩ ⟨"writer", .generated⟩ []
  have hcodec : ParamCodec.ofParam (.ofVersion shopVersion shop.httpErrors) .standard .root .header
      shade = .ok ⟨shade, .header, "shade", .optional, .option (.model "Color" .version true),
        .model "Color" .version true⟩ := by decide +kernel
  cases hc.symm.trans hcodec
  refine ⟨hcheck, r, w, hagrees _, fun red => ?_, ?_⟩
  · refine (hagrees fun _ => colorType).readsBack (.present (.one red)) trivial ?_ ?_
    · intro a _
      refine ⟨?_, fun texts htexts => ?_⟩
      · cases a <;> rfl
      · cases htexts
        cases a <;> decide
    · intro habsent
      cases habsent
  · exact (hagrees fun _ => colorType).defaulted "green" rfl trivial

end ApiCodegen.Proofs
