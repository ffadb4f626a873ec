import ApiCodegen.Proofs.FunctionNames

/-!
# Parameters of the root router

The function that makes the router of the root takes the service of every API and passes each to the
router of its API. A parameter is named by the modules of its version and of its API, without their
marks and with an underscore between them, and these names hold underscores themselves. Two pairs of
modules therefore have one name also where the version of one goes on into the API of the other, as
`v1_admin` and `users` do after `v1` and `admin_users`: `Bridged` is exactly this.
-/

namespace ApiCodegen.Proofs
open Naming

/-! ### Names joined by an underscore -/

/-- The name that two modules have together. -/
def joinedName (p : String × String) : String := p.1 ++ "_" ++ p.2

/-- The first module of the second pair goes on into the second module of the first pair. -/
def Bridged (p q : String × String) : Prop :=
  ∃ bridge, q.1 = p.1 ++ "_" ++ bridge ∧ p.2 = bridge ++ "_" ++ q.2

section Joined

variable {p q : String × String}

lemma Bridged.joinedName_eq (h : Bridged p q) : joinedName p = joinedName q := by
  obtain ⟨bridge, hfirst, hsecond⟩ := h
  rw [joinedName, joinedName, hfirst, hsecond]
  simp only [String.append_assoc]

lemma bridged_of_append {v a w b : String} {rest : List Char} (hfirst : w.toList = v.toList ++ rest)
    (hsecond : '_' :: a.toList = rest ++ '_' :: b.toList) :
    (v, a) = (w, b) ∨ Bridged (v, a) (w, b) := by
  cases rest with
  | nil =>
    rw [List.append_nil, String.toList_inj] at hfirst
    rw [List.nil_append, List.cons_inj_right, String.toList_inj] at hsecond
    exact Or.inl (by rw [hfirst, hsecond])
  | cons c bridge =>
    obtain ⟨rfl, hsecond⟩ := List.cons.inj hsecond
    refine Or.inr ⟨String.ofList bridge, ?_, ?_⟩
    · rw [← String.toList_inj]
      simpa using hfirst
    · rw [← String.toList_inj]
      simpa using hsecond

/-- Two pairs of modules have one name exactly if they are equal or a bridge leads from one to the
other. -/
theorem joinedName_eq_iff : joinedName p = joinedName q ↔ p = q ∨ Bridged p q ∨ Bridged q p := by
  obtain ⟨v, a⟩ := p
  obtain ⟨w, b⟩ := q
  constructor
  · intro h
    have hchars : v.toList ++ '_' :: a.toList = w.toList ++ '_' :: b.toList := by
      have hjoined := congrArg String.toList h
      simpa [joinedName, String.toList_append] using hjoined
    rcases List.append_eq_append_iff.1 hchars with ⟨rest, hw, ha⟩ | ⟨rest, hv, hb⟩
    · exact (bridged_of_append hw ha).imp_right Or.inl
    · exact (bridged_of_append hv hb).imp Eq.symm Or.inr
  · rintro (h | h | h)
    · rw [h]
    · exact h.joinedName_eq
    · exact h.joinedName_eq.symm

/-- A bridge takes an underscore in a module of a version and in a module of an API. -/
lemma Bridged.underscores (h : Bridged p q) : '_' ∈ q.1.toList ∧ '_' ∈ p.2.toList := by
  obtain ⟨bridge, hfirst, hsecond⟩ := h
  rw [hfirst, hsecond]
  simp

lemma isPlain_joinedName (hfirst : IsPlain p.1) (hsecond : IsPlain p.2) : IsPlain (joinedName p) :=
  (hfirst.append (by simp)).append hsecond.chars

lemma joinedName_not_mem_keywords (hfirst : IsPlain p.1) : joinedName p ∉ keywords ++ neverRaw := by
  intro hmem
  have hall : ∀ word ∈ keywords ++ neverRaw, '_' ∈ word.toList → word.toList.head? = some '_' ∧
      word.toList.tail = [] := by
    decide
  obtain ⟨-, htail⟩ := hall _ hmem (by simp [joinedName])
  obtain ⟨c, cs, hcs⟩ := List.exists_cons_of_ne_nil
    fun hnil => hfirst.ne_empty (String.toList_eq_nil_iff.1 hnil)
  simp [joinedName, hcs] at htail

end Joined

/-! ### The router of the root -/

/-- A parameter for a service: its name, the path of its trait, and the trait. -/
structure Formal where
  name : String
  path : String
  trait : String
deriving DecidableEq, Repr

/-- A call that merges a router: the path of the function that makes it, and the variable that is
passed to that function. -/
structure Merge where
  path : String
  argument : String
deriving DecidableEq, Repr

/-- The parameters that the head of a function declares. -/
def formalsOf : Line → List Formal
  | .binds x :: .text path :: .item trait :: rest => ⟨x.name, path, trait⟩ :: formalsOf rest
  | _ :: rest => formalsOf rest
  | [] => []

def mergeOf? : Line → Option Merge
  | .text path :: .reads x :: _ => some ⟨path, x.name⟩
  | _ => none

/-- The head of a function. -/
def headOf (name : String) (code : Code) : Line :=
  (code.lines.find? fun l => functionOf? l = some name).getD []

/-- The code of the file that merges the routers of all APIs. -/
def rootRouter (e : Emission) : Code :=
  match e.rootRouterFile.content with
  | .source s => s.body
  | .support _ | .index _ | .skeleton _ => .nothing

/-- The parameters of the function that merges the routers. -/
def rootFormals (e : Emission) : List Formal :=
  formalsOf (headOf "routes" (rootRouter e))

/-- The routers that it merges. -/
def rootMerges (e : Emission) : List Merge :=
  (routerCalls (rootRouter e).lines).filterMap mergeOf?

/-- The modules of an API, without their marks. -/
def plainModules (e : Emission) (x : Version × Api) : String × String :=
  (unraw (e.versionModule x.1), unraw (e.apiModule x.2))

/-- The parameter of an API. -/
def formalOf (e : Emission) (x : Version × Api) : Formal :=
  ⟨joinedName (plainModules e x),
    ": Arc<dyn " ++ modulePath (e.config.modulePath :: e.apiDirs x.1 x.2) ++ "::", e.traitName x.2⟩

/-- The call for an API. -/
def mergeOf (e : Emission) (x : Version × Api) : Merge :=
  ⟨".merge(" ++ modulePath (e.config.modulePath :: e.apiDirs x.1 x.2) ++ "::routing::routes(",
    joinedName (plainModules e x)⟩

section Router

variable {e : Emission}

lemma mergedApis_eq (e : Emission) : e.mergedApis = (apisOf e.spec).map fun x =>
    ⟨joinedName (plainModules e x), e.apiDirs x.1 x.2, e.traitName x.2⟩ := by
  unfold Emission.mergedApis apisOf
  rw [List.map_flatMap]
  refine List.flatMap_congr fun v _ => ?_
  rw [List.map_map]
  rfl

lemma formalsOf_joined (root : String) (apis : List Emission.MergedApi) (rest : Line)
    (hrest : formalsOf rest = []) :
    formalsOf (Line.joined ", " (apis.map (·.formalLine root)) ++ rest) =
      apis.map fun m => ⟨m.binding, ": Arc<dyn " ++ m.path root ++ "::", m.traitName⟩ := by
  induction apis with
  | nil => exact hrest
  | cons m apis ih =>
    cases apis with
    | nil => exact congrArg (List.cons _) hrest
    | cons next apis => exact congrArg (List.cons _) ih

/-- The parameters of the router stand in the order of the APIs, each with the trait of its own. -/
theorem rootFormals_eq (e : Emission) : rootFormals e = (apisOf e.spec).map (formalOf e) := by
  have hhead : headOf "routes" (rootRouter e) = [.text "pub fn ", .declares "routes", .text "("] ++
      (Line.joined ", " (e.mergedApis.map (·.formalLine e.config.modulePath)) ++
        [.text ") -> Router"]) := rfl
  have hskip : ∀ rest, formalsOf ([.text "pub fn ", .declares "routes", .text "("] ++ rest) =
      formalsOf rest := fun _ => rfl
  unfold rootFormals
  rw [hhead, hskip, formalsOf_joined _ _ _ rfl, mergedApis_eq, List.map_map]
  rfl

/-- The routers that are merged are those of the APIs, in order. -/
theorem rootMerges_eq (e : Emission) : rootMerges e = (apisOf e.spec).map (mergeOf e) := by
  obtain ⟨source, hsource, hcalls⟩ := merges_rootRouterFile e
  have hrouter : rootRouter e = source.body := by
    unfold rootRouter
    rw [hsource]
  unfold rootMerges
  rw [hrouter, hcalls, mergedApis_eq, List.map_map, List.filterMap_map]
  exact congrFun (List.filterMap_eq_map (f := mergeOf e)) _

lemma nodup_joinedNames_iff {pairs : List (String × String)} :
    (pairs.map joinedName).Nodup ↔
      pairs.Nodup ∧ pairs.Pairwise fun p q => ¬Bridged p q ∧ ¬Bridged q p := by
  simp only [List.Nodup, List.pairwise_map, ne_eq, joinedName_eq_iff, not_or, List.pairwise_and_iff]

lemma nodup_plainModules (hnaming : e.naming = .standard)
    (hpairs : ((apisOf e.spec).map fun x => (e.versionModule x.1, e.apiModule x.2)).Nodup) :
    ((apisOf e.spec).map (plainModules e)).Nodup := by
  rw [List.Nodup, List.pairwise_map] at hpairs ⊢
  refine hpairs.imp fun {x y} hne heq => hne ?_
  obtain ⟨hversion, hapi⟩ := Prod.mk.inj heq
  have hsame : ∀ {a b : String}, unraw (e.naming.moduleName a) = unraw (e.naming.moduleName b) →
      e.naming.moduleName a = e.naming.moduleName b := by
    rw [hnaming]
    exact unraw_moduleName_inj
  exact Prod.ext (hsame hversion) (hsame hapi)

end Router

/-- The parameters of the function that merges the routers, and what it passes on. -/
structure RootParameters (e : Emission) : Prop where
  formals : rootFormals e = (apisOf e.spec).map (formalOf e)
  merges : rootMerges e = (apisOf e.spec).map (mergeOf e)
  identifiers : ∀ p ∈ rootFormals e, isIdentifier p.name = true ∧ p.name ∉ keywords ++ neverRaw
  /-- Two parameters have one name only if their modules differ in marks alone, or if there is a
  bridge. -/
  distinct : ((rootFormals e).map (·.name)).Nodup ↔
    ((apisOf e.spec).map (plainModules e)).Nodup ∧
      ((apisOf e.spec).map (plainModules e)).Pairwise fun p q => ¬Bridged p q ∧ ¬Bridged q p
  /-- The standard policy leaves bridges only. -/
  standard : e.naming = .standard → (((rootFormals e).map (·.name)).Nodup ↔
    ((apisOf e.spec).map (plainModules e)).Pairwise fun p q => ¬Bridged p q ∧ ¬Bridged q p)
  /-- No bridge is there where all versions, or all APIs, have modules of one word. -/
  oneWord : e.naming = .standard → (∀ x ∈ apisOf e.spec, '_' ∉ (plainModules e x).1.toList) ∨
    (∀ x ∈ apisOf e.spec, '_' ∉ (plainModules e x).2.toList) → ((rootFormals e).map (·.name)).Nodup
  /-- A call passes the parameter of its own API, as there is no other of its name. -/
  own : ((rootFormals e).map (·.name)).Nodup → ∀ x ∈ apisOf e.spec, formalOf e x ∈ rootFormals e ∧
    ∀ p ∈ rootFormals e, p.name = (mergeOf e x).argument → p = formalOf e x

/-- Of pairs of modules that are distinct identifiers: the router of the root has a parameter for
every API, with the trait of the API, and the call for the API passes a parameter of that name. The
names are distinct, and calls pass what is their own, unless there is a bridge. -/
theorem router_parameters (e : Emission)
    (hmodules : ∀ name, isIdentifier (e.naming.moduleName name) = true)
    (hpairs : ((apisOf e.spec).map fun x => (e.versionModule x.1, e.apiModule x.2)).Nodup) :
    RootParameters e := by
  have hnames : (rootFormals e).map (·.name) =
      ((apisOf e.spec).map (plainModules e)).map joinedName := by
    rw [rootFormals_eq, List.map_map, List.map_map]
    rfl
  have hdistinct : ((rootFormals e).map (·.name)).Nodup ↔
      ((apisOf e.spec).map (plainModules e)).Nodup ∧
        ((apisOf e.spec).map (plainModules e)).Pairwise fun p q => ¬Bridged p q ∧ ¬Bridged q p := by
    rw [hnames, nodup_joinedNames_iff]
  have hstandard : e.naming = .standard → (((rootFormals e).map (·.name)).Nodup ↔
      ((apisOf e.spec).map (plainModules e)).Pairwise fun p q => ¬Bridged p q ∧ ¬Bridged q p) :=
    fun hnaming => hdistinct.trans (and_iff_right (nodup_plainModules hnaming hpairs))
  refine ⟨rootFormals_eq e, rootMerges_eq e, ?_, hdistinct, hstandard, ?_, ?_⟩
  · rw [rootFormals_eq, List.forall_mem_map]
    intro x _
    have hplain : ∀ name, IsPlain (unraw (e.naming.moduleName name)) := fun name =>
      isIdentifier_iff.1 (hmodules name)
    exact ⟨(isPlain_joinedName (hplain x.1.name) (hplain x.2.name)).isIdentifier,
      joinedName_not_mem_keywords (hplain x.1.name)⟩
  · intro hnaming hwords
    rw [hstandard hnaming, List.pairwise_map]
    refine List.pairwise_of_forall_mem_list fun x hx y hy => ?_
    rcases hwords with hversions | hapis
    · exact ⟨fun h => hversions y hy h.underscores.1, fun h => hversions x hx h.underscores.1⟩
    · exact ⟨fun h => hapis x hx h.underscores.2, fun h => hapis y hy h.underscores.2⟩
  · intro hnodup x hx
    have hmem : formalOf e x ∈ rootFormals e := rootFormals_eq e ▸ List.mem_map_of_mem hx
    exact ⟨hmem, fun p hp hname => List.inj_on_of_nodup_map hnodup hp hmem hname⟩

/-- Two APIs of one version. -/
theorem router_parameters_crossing :
    (∀ name, isIdentifier (Naming.standard.moduleName name) = true) ∧
      ((apisOf crossing).map fun x => ((Emission.mk crossing .standard .standard
        .service).versionModule x.1, (Emission.mk crossing .standard .standard
          .service).apiModule x.2)).Nodup ∧
      (rootFormals ⟨crossing, .standard, .standard, .service⟩).map (·.name) =
        ["v1_orders", "v1_stock"] ∧
      RootParameters ⟨crossing, .standard, .standard, .service⟩ := by
  have hpairs : ((apisOf crossing).map fun x => ((Emission.mk crossing .standard .standard
      .service).versionModule x.1, (Emission.mk crossing .standard .standard
        .service).apiModule x.2)).Nodup := by
    decide +kernel
  exact ⟨isIdentifier_moduleName, hpairs, by decide +kernel,
    router_parameters ⟨crossing, .standard, .standard, .service⟩ isIdentifier_moduleName hpairs⟩

/-- Users of an administration, and an API for administrators of users. -/
def bridging : Spec where
  name := "shop"
  versions := [⟨"v1", none, [⟨"admin_users", [getting "get_admins" "/admins"]⟩], []⟩,
    ⟨"v1_admin", none, [⟨"users", [getting "get_users" "/users"]⟩], []⟩]
  httpErrors := .empty

/-- Both parameters of the router have one name. -/
theorem bridging_parameters_meet :
    bridging.validate .standard = .ok () ∧
      (∀ name, isIdentifier (Naming.standard.moduleName name) = true) ∧
      ((apisOf bridging).map fun x => ((Emission.mk bridging .standard .standard
        .service).versionModule x.1, (Emission.mk bridging .standard .standard
          .service).apiModule x.2)).Nodup ∧
      (rootFormals ⟨bridging, .standard, .standard, .service⟩).map (·.name) =
        ["v1_admin_users", "v1_admin_users"] ∧
      ¬((rootFormals ⟨bridging, .standard, .standard, .service⟩).map (·.name)).Nodup := by
  have hnames : (rootFormals ⟨bridging, .standard, .standard, .service⟩).map (·.name) =
      ["v1_admin_users", "v1_admin_users"] := by decide +kernel
  refine ⟨by decide +kernel, isIdentifier_moduleName, by decide +kernel, hnames, ?_⟩
  rw [hnames]
  decide

end ApiCodegen.Proofs
