import ApiCodegen.Proofs.MethodHygiene
import ApiCodegen.Proofs.ParamCoding
import ApiCodegen.Proofs.RouteSegments

/-!
# Arguments of the URL

The client fills the holes of a route with the values of parameters as they are, apart from
date-times, which it formats first. A hole takes what has a display text. Validation sees to that
for the innermost type of a parameter, but it takes optional values and lists in URLs as everywhere
else, and neither has a display text: an argument fills its hole exactly if the type of its
parameter is a name.
-/

namespace ApiCodegen.Proofs

/-! ### Display texts -/

/-- Values of the type have a display text: those of primitives other than `empty`, those of enums,
whose declarations implement it (`ModelScope.enumTextCode`), and those of the standard error models
that come with an implementation. Containers have none, nor have records, choices and the types that
a file declares for itself. -/
def HasDisplay : ResolvedType → Prop
  | .primitive p => p ≠ .empty
  | .model name origin isEnum => isEnum = true ∨
      origin = .standard ∧ "impl fmt::Display for " ++ name ++ " \x7b" ∈ Support.errorModelsModule
  | .local _ | .option _ | .vec _ | .map _ => False

lemma hasDisplay_of_textValues {s : Scope} {name : String} {here : Location} {type : ResolvedType}
    (hname : HasTextValues s name) (htype : s.resolveName name here = .ok type) :
    HasDisplay type := by
  rcases resolveName_eq_ok_iff.1 htype with ⟨p, hp, rfl⟩ | ⟨hp, origin, m, hlookup, rfl⟩
  · rcases hname with ⟨q, hq, -, hempty⟩ | ⟨hnone, -⟩
    · rw [hp] at hq
      cases hq
      exact hempty
    · rw [hp] at hnone
      cases hnone
  · rcases hname with ⟨q, hq, -⟩ | ⟨-, origin', m', hlookup', henum⟩
    · rw [hp] at hq
      cases hq
    · rw [hlookup] at hlookup'
      cases hlookup'
      exact Or.inl henum

/-! ### Arguments that fill a hole -/

/-- An argument of `format!` fills a hole, given the parameters in scope: it is the value of one of
them and has a display text, or it is a date-time that is formatted. -/
def FillsHole (params : List ParamCodec) (argument : Line) : Prop :=
  ∃ c ∈ params, argument = [.reads c.var] ∧ HasDisplay c.type ∨
    argument = .reads c.var :: ParamWriting.formatCall ∧ c.type = .primitive .datetime

/-- The type of a parameter is a name, without a container around it. -/
def Plain (p : Param) : Prop := ∃ name, p.type = .named name

section Parameters

variable {s : Scope} {naming : Naming} {here : Location} {p : Param} {location : ParamLocation}
  {c : ParamCodec} {params : List ParamCodec}

lemma hasDisplay_leaf (hp : ParamRule s p)
    (h : ParamCodec.ofParam s naming here location p = .ok c) : HasDisplay c.leaf := by
  obtain ⟨name, hname, hleaf⟩ := exists_textValues hp h
  exact hasDisplay_of_textValues hname hleaf

lemma shape_eq_required_iff (h : ParamCodec.ofParam s naming here location p = .ok c) :
    c.shape = .required ↔ Plain p := by
  obtain ⟨shape, type, hshape, -, rfl⟩ := ofParam_eq_ok_iff.1 h
  unfold Plain
  unfold ParamShape.ofType? at hshape
  split at hshape <;> cases hshape <;> simp_all

lemma hasDisplay_typeOf_iff {shape : ParamShape} {leaf : ResolvedType} :
    HasDisplay (typeOf shape leaf) ↔ shape = .required ∧ HasDisplay leaf := by
  cases shape <;> simp [typeOf, HasDisplay]

lemma typeOf_eq_primitive_iff {shape : ParamShape} {leaf : ResolvedType} {q : Primitive} :
    typeOf shape leaf = .primitive q ↔ shape = .required ∧ leaf = .primitive q := by
  cases shape <;> simp [typeOf]

lemma leaf_of_isDateTime (h : c.isDateTime = true) : c.leaf = .primitive .datetime := by
  unfold ParamCodec.isDateTime ResolvedType.isPrimitive at h
  split at h
  · rename_i q hleaf
    rw [hleaf, beq_iff_eq.1 h]
  · cases h

/-- No parameter is taken for another one, so it is the type of the parameter that decides. -/
lemma fillsHole_urlArgument_iff (hdistinct : (params.map (·.ident)).Nodup) (hc : c ∈ params) :
    FillsHole params c.urlArgument ↔
      if c.isDateTime then c.type = .primitive .datetime else HasDisplay c.type := by
  have hown : ∀ d ∈ params, Piece.reads c.var = .reads d.var → c = d := by
    intro d hd hvar
    exact List.inj_on_of_nodup_map hdistinct hc hd (congrArg Var.name (Piece.reads.inj hvar))
  unfold FillsHole ParamCodec.urlArgument
  split
  · constructor
    · rintro ⟨d, hd, ⟨hline, -⟩ | ⟨hline, htype⟩⟩
      · cases (List.cons.inj hline).2
      · rw [hown d hd (List.cons.inj hline).1]
        exact htype
    · exact fun htype => ⟨c, hc, Or.inr ⟨rfl, htype⟩⟩
  · constructor
    · rintro ⟨d, hd, ⟨hline, htype⟩ | ⟨hline, -⟩⟩
      · rw [hown d hd (List.cons.inj hline).1]
        exact htype
      · cases (List.cons.inj hline).2
    · exact fun htype => ⟨c, hc, Or.inl ⟨rfl, htype⟩⟩

/-- An element fits a hole, as it is or formatted; the value of the parameter does where it is an
element and no container of them. -/
lemma fillsHole_iff_plain (hdistinct : (params.map (·.ident)).Nodup) (hc : c ∈ params)
    (hp : ParamRule s p) (h : ParamCodec.ofParam s naming here location p = .ok c) :
    FillsHole params c.urlArgument ↔ Plain p := by
  rw [fillsHole_urlArgument_iff hdistinct hc, (fitsParam_of_ofParam h).type,
    ← shape_eq_required_iff h]
  split
  · rename_i hdate
    rw [typeOf_eq_primitive_iff]
    exact and_iff_left (leaf_of_isDateTime hdate)
  · rw [hasDisplay_typeOf_iff]
    exact and_iff_left (hasDisplay_leaf hp h)

end Parameters

/-! ### Accepted operations -/

section Operations

variable {s : Scope} {naming : Naming} {here : Location} {o : Operation} {sig : Signature}

lemma argument_of_signature (ho : OperationRules s naming o)
    (hsig : Signature.ofOperation s naming here o = .ok sig) {c : ParamCodec} (hc : c ∈ sig.url) :
    c.param ∈ o.endpoint.params ∧ HasDisplay c.leaf ∧
      (FillsHole sig.params c.urlArgument ↔ Plain c.param) := by
  obtain ⟨p, hp, hofParam⟩ := exists_of_mem_mapM (ofOperation_eq_ok_iff.1 hsig).url hc
  have hrule : ParamRule s p := ho.paramRule_of_function (List.mem_append_right _ hp)
  have hdistinct : (sig.params.map (·.ident)).Nodup := by
    rw [(fitsOperation_of_signature hsig).params]
    exact ho.idents
  rw [(fitsParam_of_ofParam hofParam).param]
  exact ⟨hp, hasDisplay_leaf hrule hofParam,
    fillsHole_iff_plain hdistinct (List.mem_append_right _ hc) hrule hofParam⟩

/-- Every argument of the URL of an accepted operation is a parameter of the endpoint, and its
innermost type has a display text, but it fills its hole only if the parameter is plain. So the
holes are filled exactly if all parameters of the endpoint are plain. -/
theorem url_arguments_fill_iff
    (ho : Validation.checkOperation s naming here o = .ok ()) (there : Location) :
    ∃ sig, Signature.ofOperation s naming there o = .ok sig ∧ ∀ start : String,
      (∀ c ∈ (UrlTemplate.ofString (start ++ o.endpoint.url)).arguments sig.url,
        c.param ∈ o.endpoint.params ∧ HasDisplay c.leaf ∧
          (FillsHole sig.params c.urlArgument ↔ Plain c.param)) ∧
      ('\x7b' ∉ start.toList →
        ((∀ c ∈ (UrlTemplate.ofString (start ++ o.endpoint.url)).arguments sig.url,
            FillsHole sig.params c.urlArgument) ↔
          ∀ p ∈ o.endpoint.params, Plain p)) := by
  rw [checkOperation_eq_ok_iff] at ho
  obtain ⟨sig, hsig⟩ : Succeeds (Signature.ofOperation s naming there o) := succeeds_ofOperation ho
  refine ⟨sig, hsig, fun start => ?_⟩
  have hargument : ∀ c ∈ (UrlTemplate.ofString (start ++ o.endpoint.url)).arguments sig.url,
      c.param ∈ o.endpoint.params ∧ HasDisplay c.leaf ∧
        (FillsHole sig.params c.urlArgument ↔ Plain c.param) :=
    fun c hc => argument_of_signature ho hsig (arguments_subset _ _ hc)
  refine ⟨hargument, fun hstart => ⟨fun hfilled p hp => ?_, fun hplain c hc => ?_⟩⟩
  · have hname : p.name ∈ o.endpoint.placeholders := (ho.url p.name).2 ⟨p, hp, rfl⟩
    obtain ⟨c, hc, q, -, -, hunique, hofParam⟩ :=
      exists_of_mem_forall₂ (arguments_of_signature ho hsig hstart).flip hname
    obtain ⟨-, -, hfills⟩ := hargument c hc
    rw [(fitsParam_of_ofParam hofParam).param, ← hunique p hp rfl] at hfills
    exact hfills.1 (hfilled c hc)
  · obtain ⟨hparam, -, hfills⟩ := hargument c hc
    exact hfills.2 (hplain c.param hparam)

end Operations

theorem url_arguments_fill_putOrder :
    Validation.checkOperation (.ofVersion shopVersion shop.httpErrors) .standard .root putOrder =
        .ok () ∧
      ∃ sig, Signature.ofOperation (.ofVersion shopVersion shop.httpErrors) .standard .root
          putOrder = .ok sig ∧
        ∀ c ∈ (UrlTemplate.ofString ("/v1" ++ putOrder.endpoint.url)).arguments sig.url,
          FillsHole sig.params c.urlArgument := by
  have ho : Validation.checkOperation (.ofVersion shopVersion shop.httpErrors) .standard .root
      putOrder = .ok () := by decide +kernel
  have hstart : '\x7b' ∉ "/v1".toList := by decide
  have hplain : ∀ p ∈ putOrder.endpoint.params, Plain p := by
    intro p hp
    obtain rfl := List.mem_singleton.1 hp
    exact ⟨"uuid", rfl⟩
  obtain ⟨sig, hsig, hfills⟩ := url_arguments_fill_iff ho .root
  exact ⟨ho, sig, hsig, ((hfills "/v1").2 hstart).2 hplain⟩

/-- A URL with an optional value. -/
def getOptional : Operation :=
  ⟨"get", ⟨.get, "/orders/{id}", [.ofType "id" (.nullable (.named "int"))]⟩, [], [], .empty,
    [⟨"ok", .empty, none⟩], none⟩

def optionalVersion : Version := ⟨"v1", none, [⟨"orders", [getOptional]⟩], []⟩

def optionalSpec : Spec := ⟨"shop", [optionalVersion], .empty⟩

def optionalId : ParamCodec :=
  ⟨.ofType "id" (.nullable (.named "int")), .url, "id", .optional, .option (.primitive .int32),
    .primitive .int32⟩

/-- The optional value is accepted, and the client puts it into the URL as it is. -/
theorem optionalId_fills_no_hole :
    optionalSpec.validate .standard = .ok () ∧
      ∃ sig, Signature.ofOperation (.ofVersion optionalVersion optionalSpec.httpErrors) .standard
          .root getOptional = .ok sig ∧
        (ClientMethod.urlLine (routeOf optionalVersion getOptional) sig.url).render =
          "let request_url = format!(\"\x7b\x7d/v1/orders/\x7b\x7d\", self.base_url, id);" ∧
        (UrlTemplate.ofString (routeOf optionalVersion getOptional)).arguments sig.url =
          [optionalId] ∧
        (sig.clientFormals .standard .inApi).map (fun f => (f.var.name, f.type.render)) =
          [("id", "Option<i32>")] ∧
        ¬FillsHole sig.params optionalId.urlArgument := by
  have hvalid : optionalSpec.validate .standard = .ok () := by decide +kernel
  refine ⟨hvalid, _, rfl, ?_, ?_, ?_, ?_⟩
  · decide +kernel
  · decide +kernel
  · decide +kernel
  · rintro ⟨c, hc, ⟨-, htype⟩ | ⟨hline, -⟩⟩
    · obtain rfl := List.mem_singleton.1 hc
      exact htype
    · cases (List.cons.inj hline).2

end ApiCodegen.Proofs
