import ApiCodegen.Proofs.Dispatch
import ApiCodegen.Proofs.ParamCoding
import ApiCodegen.Proofs.RequestUrl

/-!
# The segments of a route

Two scanners read the placeholders of a route: validation collects their names, and the client cuts
the route at them to write a format string and its arguments. `Segmented` says without a scanner how
a route is parted, and it fixes names and format string together; both scanners compute it.
-/

namespace ApiCodegen.Proofs

/-- A route is parted at its placeholders, given their names and the format string with holes in
their places. What stands before a placeholder has no open brace, a name has no closed one, and no
placeholder is left in the last segment. -/
inductive Segmented : List Char → List String → List Char → Prop
  | last {text : List Char} (hlast : ∀ before inside, text = before ++ '\x7b' :: inside →
      '\x7d' ∉ inside) : Segmented text [] text
  | gap {before name rest format : List Char} {names : List String} (hbefore : '\x7b' ∉ before)
    (hname : '\x7d' ∉ name) (hrest : Segmented rest names format) :
    Segmented (before ++ '\x7b' :: (name ++ '\x7d' :: rest)) (String.ofList name :: names)
      (before ++ '\x7b' :: '\x7d' :: format)

/-! ### Cutting at a mark -/

section Cutting

variable {mark : Char} {cs before rest : List Char}

lemma cutAt?_append (h : mark ∉ before) :
    UrlTemplate.cutAt? mark (before ++ mark :: rest) = some (before, rest) := by
  induction before with
  | nil => exact if_pos rfl
  | cons c before ih =>
    rw [List.mem_cons, not_or] at h
    rw [List.cons_append, UrlTemplate.cutAt?, if_neg fun heq => h.1 heq.symm, ih h.2]
    rfl

lemma cutAt?_eq_none_iff : UrlTemplate.cutAt? mark cs = none ↔ mark ∉ cs := by
  constructor
  · exact cutAt?_eq_none
  · intro h
    cases hcut : UrlTemplate.cutAt? mark cs with
    | none => rfl
    | some parts =>
      refine absurd ?_ h
      rw [(cutAt?_eq_some hcut).1]
      exact List.mem_append_right _ List.mem_cons_self

/-- What follows any occurrence of a mark stands behind the first. -/
lemma subset_of_first (hfirst : mark ∉ before) {other inside : List Char}
    (h : before ++ mark :: rest = other ++ mark :: inside) : inside ⊆ rest := by
  rcases List.append_eq_append_iff.1 h with ⟨skipped, -, hrest⟩ | ⟨skipped, hbefore, hinside⟩
  · cases skipped with
    | nil =>
      obtain ⟨-, rfl⟩ := List.cons.inj hrest
      exact List.Subset.refl _
    | cons c skipped =>
      obtain ⟨-, rfl⟩ := List.cons.inj hrest
      exact fun d hd => List.mem_append_right _ (List.mem_cons_of_mem _ hd)
  · cases skipped with
    | nil =>
      obtain ⟨-, rfl⟩ := List.cons.inj hinside
      exact List.Subset.refl _
    | cons c skipped =>
      obtain ⟨rfl, -⟩ := List.cons.inj hinside
      refine absurd ?_ hfirst
      rw [hbefore]
      exact List.mem_append_right _ List.mem_cons_self

end Cutting

/-! ### The scanner of the client -/

lemma format_unparted (text : List Char) :
    (UrlTemplate.mk [] (String.ofList text)).format.toList = text := by
  rw [toList_format, List.flatMap_nil, List.nil_append, String.toList_ofList]

lemma format_closed (before name : String) (t : UrlTemplate) :
    (UrlTemplate.mk ((before, name) :: t.parts) t.rest).format.toList =
      before.toList ++ '\x7b' :: '\x7d' :: t.format.toList := by
  rw [toList_format, toList_format, List.flatMap_cons]
  simp

lemma segmented_scan (cs : List Char) :
    Segmented cs (UrlTemplate.scan cs).names (UrlTemplate.scan cs).format.toList := by
  induction cs using UrlTemplate.scan.induct with
  | case1 cs hopen =>
    rw [scan_unopened hopen, format_unparted]
    refine .last ?_
    rintro before inside rfl
    exact absurd (List.mem_append_right _ List.mem_cons_self) (cutAt?_eq_none hopen)
  | case2 cs before inside hopen hclose =>
    rw [scan_unclosed hopen hclose, format_unparted]
    obtain ⟨rfl, hbefore⟩ := cutAt?_eq_some hopen
    refine .last fun other later heq hclosed => ?_
    exact cutAt?_eq_none hclose (subset_of_first hbefore heq hclosed)
  | case3 cs before inside hopen name rest hclose ih =>
    obtain ⟨rfl, hbefore⟩ := cutAt?_eq_some hopen
    obtain ⟨rfl, hname⟩ := cutAt?_eq_some hclose
    rw [scan_closed hopen hclose, format_closed, String.toList_ofList]
    exact .gap hbefore hname ih

/-- A route is parted in one way, the one that the client finds. -/
lemma segmented_iff {cs format : List Char} {names : List String} :
    Segmented cs names format ↔
      names = (UrlTemplate.scan cs).names ∧ format = (UrlTemplate.scan cs).format.toList := by
  constructor
  · intro h
    induction h with
    | @last text hlast =>
      have hscan : UrlTemplate.scan text = ⟨[], String.ofList text⟩ := by
        cases hopen : UrlTemplate.cutAt? '\x7b' text with
        | none => exact scan_unopened hopen
        | some parts =>
          have hclose : '\x7d' ∉ parts.2 := hlast parts.1 parts.2 (cutAt?_eq_some hopen).1
          exact scan_unclosed hopen (cutAt?_eq_none_iff.2 hclose)
      rw [hscan, format_unparted]
      exact ⟨rfl, rfl⟩
    | gap hbefore hname hrest ih =>
      rw [scan_closed (cutAt?_append hbefore) (cutAt?_append hname), format_closed,
        String.toList_ofList, ← ih.2]
      exact ⟨congrArg _ ih.1, rfl⟩
  · rintro ⟨rfl, rfl⟩
    exact segmented_scan cs

/-! ### Arguments -/

/-- A codec is that of the one parameter of the endpoint with a given name. -/
def CodecOf (s : Scope) (naming : Naming) (here : Location) (o : Operation) (name : String)
    (c : ParamCodec) : Prop :=
  ∃ p ∈ o.endpoint.params, p.name = name ∧ (∀ q ∈ o.endpoint.params, q.name = name → q = p) ∧
    ParamCodec.ofParam s naming here .url p = .ok c

/-- An argument of the client stands for a placeholder: it is that of the one parameter of the
endpoint with this name. -/
def ArgumentOf (s : Scope) (naming : Naming) (here : Location) (o : Operation) (name : String)
    (argument : Line) : Prop :=
  ∃ c, CodecOf s naming here o name c ∧ argument = c.urlArgument

lemma names_ofString (route : String) :
    (UrlTemplate.ofString route).names = scanPlaceholders none route.toList :=
  (cut_scan route.toList).names

lemma forall₂_filterMap {α β : Type} {R : α → β → Prop} {f : α → Option β} {l : List α}
    (h : ∀ a ∈ l, ∃ b, f a = some b ∧ R a b) : List.Forall₂ R l (l.filterMap f) := by
  induction l with
  | nil => exact .nil
  | cons a l ih =>
    rw [List.forall_mem_cons] at h
    obtain ⟨⟨b, hb, hR⟩, hl⟩ := h
    rw [List.filterMap_cons_some hb]
    exact .cons hR (ih hl)

section Operations

variable {s : Scope} {naming : Naming} {o : Operation} {here : Location} {sig : Signature}

lemma OperationRules.nodup_names (ho : OperationRules s naming o) :
    (o.endpoint.params.map Param.name).Nodup := by
  have hidents := ho.idents
  unfold functionParams at hidents
  rw [List.map_append] at hidents
  have hurl := hidents.of_append_right
  rw [← Function.comp_def naming.fieldName, ← List.map_map] at hurl
  exact hurl.of_map

lemma exists_codec (ho : OperationRules s naming o)
    (hsig : Signature.ofOperation s naming here o = .ok sig) {name : String}
    (hname : name ∈ o.endpoint.placeholders) :
    ∃ c, sig.url.find? (·.param.name == name) = some c ∧ CodecOf s naming here o name c := by
  have hbuilt := (ofOperation_eq_ok_iff.1 hsig).url
  obtain ⟨p, hp, rfl⟩ := (ho.url name).1 hname
  obtain ⟨c, hc, hofParam⟩ := exists_mem_of_mapM hbuilt hp
  have hparam : ∀ q ∈ o.endpoint.params, ∀ d,
      ParamCodec.ofParam s naming here .url q = .ok d → d.param.name = q.name :=
    fun q _ d hd => congrArg Param.name (fitsParam_of_ofParam hd).param
  have hdistinct : (sig.url.map (·.param.name)).Nodup := by
    rw [map_of_mapM hbuilt hparam]
    exact ho.nodup_names
  have hfind := find?_of_nodup_map hdistinct hc
  rw [hparam p hp c hofParam] at hfind
  refine ⟨c, hfind, p, hp, rfl, fun q hq hqname => ?_, hofParam⟩
  exact List.inj_on_of_nodup_map ho.nodup_names hq hp hqname

/-- A start without an open brace adds no placeholder, so the arguments are those of the template of
the endpoint. -/
lemma arguments_of_signature (ho : OperationRules s naming o)
    (hsig : Signature.ofOperation s naming here o = .ok sig) {start : String}
    (hstart : '\x7b' ∉ start.toList) :
    List.Forall₂ (CodecOf s naming here o) o.endpoint.placeholders
      ((UrlTemplate.ofString (start ++ o.endpoint.url)).arguments sig.url) := by
  have hnames : (UrlTemplate.ofString (start ++ o.endpoint.url)).names =
      o.endpoint.placeholders := by
    rw [names_ofString, String.toList_append, scanPlaceholders_outside hstart]
    rfl
  unfold UrlTemplate.arguments
  rw [hnames]
  exact forall₂_filterMap fun name hname => exists_codec ho hsig hname

end Operations

/-- Both scanners of a route find the placeholders at which it is parted, and the client of an
operation that validation accepts fills every hole with the parameter of that name, whatever stands
before the template. -/
theorem scanners_agree :
    (∀ (e : Endpoint) (codecs : List ParamCodec),
      Segmented e.url.toList e.placeholders (UrlTemplate.ofString e.url).format.toList ∧
        (UrlTemplate.ofString e.url).names = e.placeholders ∧
        (UrlTemplate.ofString e.url).arguments codecs =
          e.placeholders.filterMap fun name => codecs.find? (·.param.name == name)) ∧
      ∀ (s : Scope) (naming : Naming) (here : Location) (o : Operation),
        Validation.checkOperation s naming here o = .ok () →
          ∀ there : Location, ∃ sig, Signature.ofOperation s naming there o = .ok sig ∧
            ∀ start : String, '\x7b' ∉ start.toList →
              List.Forall₂ (ArgumentOf s naming there o) o.endpoint.placeholders
                (((UrlTemplate.ofString (start ++ o.endpoint.url)).arguments sig.url).map
                  ParamCodec.urlArgument) := by
  constructor
  · intro e codecs
    have hnames : (UrlTemplate.ofString e.url).names = e.placeholders := names_ofString e.url
    refine ⟨segmented_iff.2 ⟨hnames.symm, rfl⟩, hnames, ?_⟩
    unfold UrlTemplate.arguments
    rw [hnames]
  · intro s naming here o ho there
    rw [checkOperation_eq_ok_iff] at ho
    obtain ⟨sig, hsig⟩ : Succeeds (Signature.ofOperation s naming there o) :=
      succeeds_ofOperation ho
    refine ⟨sig, hsig, fun start hstart => ?_⟩
    rw [List.forall₂_map_right_iff]
    exact (arguments_of_signature ho hsig hstart).imp fun name c hc => ⟨c, hc, rfl⟩

/-- An operation with a placeholder that stands twice. -/
def getCopy : Operation :=
  ⟨"get", ⟨.get, "/a/{id}/copies/{day}/{id}",
    [.ofType "id" (.named "string"), .ofType "day" (.named "datetime")]⟩, [], [], .empty,
    [⟨"ok", .empty, none⟩], none⟩

theorem scanners_agree_getCopy :
    Validation.checkOperation ⟨[], .empty⟩ .standard .root getCopy = .ok () ∧
      getCopy.endpoint.placeholders = ["id", "day", "id"] ∧
      ∃ sig, Signature.ofOperation ⟨[], .empty⟩ .standard .root getCopy = .ok sig ∧
        List.Forall₂ (ArgumentOf ⟨[], .empty⟩ .standard .root getCopy) ["id", "day", "id"]
          (((UrlTemplate.ofString ("/v1" ++ getCopy.endpoint.url)).arguments sig.url).map
            ParamCodec.urlArgument) := by
  have ho : Validation.checkOperation ⟨[], .empty⟩ .standard .root getCopy = .ok () := by
    decide +kernel
  have hstart : '\x7b' ∉ "/v1".toList := by decide
  obtain ⟨sig, hsig, harguments⟩ := scanners_agree.2 ⟨[], .empty⟩ .standard .root getCopy ho .root
  exact ⟨ho, by decide +kernel, sig, hsig, harguments "/v1" hstart⟩

end ApiCodegen.Proofs
