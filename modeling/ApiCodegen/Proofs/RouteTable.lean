import ApiCodegen.Proofs.Dispatch
import ApiCodegen.Proofs.Emission
import ApiCodegen.Proofs.FileSources
import ApiCodegen.Proofs.Scoping
import ApiCodegen.Proofs.Signatures
import Mathlib.Data.List.Perm.Basic

/-!
# Routes of the generated routers

The router of an API is built by one chain of calls, which registers a handler for a path and a
method, and the router of the root merges the routers of all APIs. `registered` reads the routes
back from the calls. They are those that the operations declare, grouped by their paths.
-/

namespace ApiCodegen.Proofs

/-! ### Groups of operations -/

/-- The operations of groups, each with the path of its group. -/
def grouped (groups : List RouteGroup) : List (String × Signature) :=
  groups.flatMap fun g => g.signatures.map fun s => (g.path, s)

lemma grouped_insert (path : String) (s : Signature) (groups : List RouteGroup) :
    (grouped (RouteGroup.insert path s groups)).Perm ((path, s) :: grouped groups) := by
  induction groups with
  | nil => exact List.Perm.refl _
  | cons g gs ih =>
    rw [RouteGroup.insert]
    by_cases hpath : g.path = path
    · rw [if_pos hpath]
      unfold grouped
      rw [List.flatMap_cons, List.flatMap_cons, List.map_append, List.append_assoc, hpath]
      exact List.perm_middle
    · rw [if_neg hpath]
      exact (ih.append_left _).trans List.perm_middle

/-- Grouping loses no operation and makes none, and gives each the path that it declares. -/
theorem grouped_ofSignatures (urlPrefix : String) (sigs : List Signature) :
    (grouped (RouteGroup.ofSignatures urlPrefix sigs)).Perm
      (sigs.map fun s => (urlPrefix ++ s.operation.endpoint.url, s)) := by
  have hfold : ∀ groups, (grouped (sigs.foldl
      (fun groups s => RouteGroup.insert (urlPrefix ++ s.operation.endpoint.url) s groups)
      groups)).Perm
      ((sigs.map fun s => (urlPrefix ++ s.operation.endpoint.url, s)) ++ grouped groups) := by
    induction sigs with
    | nil => exact fun groups => List.Perm.refl _
    | cons s sigs ih =>
      intro groups
      exact (ih _).trans (((grouped_insert _ s groups).append_left _).trans List.perm_middle)
  have hall := hfold []
  rwa [show grouped [] = [] from rfl, List.append_nil] at hall

/-! ### Calls on a router -/

/-- A path and a method. -/
abbrev Route := String × HttpMethod

/-- The method that a piece filters requests by. -/
def methodOf? : Piece → Option HttpMethod
  | .text s => HttpMethod.all.find? fun m => "on(MethodFilter::" ++ m.name ++ ", " = s
  | _ => none

/-- The routes that a call registers: one for each handler. -/
def routesOf : Line → List Route
  | .text ".route(" :: .quoted path :: rest => (rest.filterMap methodOf?).map fun m => (path, m)
  | _ => []

/-- The line that makes a router. -/
abbrev newRouter : Line := [.text "Router::new()"]

def isCall : Line → Bool
  | .text s :: _ => s.toList.head? == some '.'
  | _ => false

/-- The calls on the first router that lines make. -/
def routerCalls (lines : List Line) : List Line :=
  (lines.dropWhile (· ≠ newRouter)).tail.takeWhile isCall

/-- The routes that a file registers. -/
def registered (f : TreeFile) : List Route :=
  match f.content with
  | .source s => (routerCalls s.body.lines).flatMap routesOf
  | .support _ | .index _ | .skeleton _ => []

lemma methodOf?_filter (m : HttpMethod) :
    methodOf? (.text ("on(MethodFilter::" ++ m.name ++ ", ")) = some m := by
  cases m <;> decide

lemma filterMap_methodLine (s : Signature) :
    (RouteGroup.methodLine s).filterMap methodOf? = [s.operation.endpoint.method] := by
  unfold RouteGroup.methodLine
  rw [List.filterMap_cons_some (methodOf?_filter _)]
  rfl

lemma filterMap_joined_methodLine (sigs : List Signature) :
    (Line.joined "." (sigs.map RouteGroup.methodLine)).filterMap methodOf? =
      sigs.map fun s => s.operation.endpoint.method := by
  induction sigs with
  | nil => rfl
  | cons s sigs ih =>
    cases sigs with
    | nil => exact filterMap_methodLine s
    | cons next sigs =>
      rw [List.map_cons, List.map_cons, Line.joined, List.filterMap_append, filterMap_methodLine,
        List.filterMap_cons_none (by decide), ← List.map_cons, ih]
      · rfl
      · simp

lemma routesOf_code (g : RouteGroup) : g.code.lines.flatMap routesOf =
    g.signatures.map fun s => (g.path, s.operation.endpoint.method) := by
  have hmethods : (.text ", " :: (Line.joined "." (g.signatures.map RouteGroup.methodLine) ++
      [.text ")"])).filterMap methodOf? = g.signatures.map fun s => s.operation.endpoint.method := by
    rw [List.filterMap_cons_none (by decide), List.filterMap_append, filterMap_joined_methodLine,
      List.filterMap_cons_none (by decide), List.filterMap_nil, List.append_nil]
  have hline : g.code.lines.flatMap routesOf = ((.text ", " :: (Line.joined "."
      (g.signatures.map RouteGroup.methodLine) ++ [.text ")"])).filterMap methodOf?).map
        fun m => (g.path, m) := List.append_nil _
  rw [hline, hmethods, List.map_map]
  rfl

/-- The calls of a function that makes a router are read back, whatever stands around it. -/
lemma routerCalls_function (before : Code) {first : Line} (head : Line) {body : Code}
    (hbefore : before.lines = [first]) (hfirst : first ≠ newRouter) (hhead : head ≠ newRouter)
    (hcalls : ∀ l ∈ body.lines, isCall l = true) (rest : List Line) :
    routerCalls ((before ++ .braces head (.hanging newRouter body none)).lines ++ rest) =
      body.lines := by
  have hlines : (before ++ .braces head (.hanging newRouter body none)).lines ++ rest =
      first :: head :: newRouter :: (body.lines ++ [.text "\x7d"] :: rest) := by
    rw [lines_append, hbefore]
    change [first] ++ (head :: ((newRouter :: (body.lines ++ [])) ++ [[.text "\x7d"]])) ++ rest = _
    simp
  unfold routerCalls
  rw [hlines, List.dropWhile_cons_of_pos (by simpa using hfirst),
    List.dropWhile_cons_of_pos (by simpa using hhead), List.dropWhile_cons_of_neg (by simp),
    List.tail_cons, List.takeWhile_append_of_pos hcalls,
    List.takeWhile_cons_of_neg (by decide), List.append_nil]

/-! ### Files -/

/-- The place of the router of an API. -/
def routerPlace (modules : List String) : TreePath := ⟨.generated, modules, "routing"⟩

/-- The routes that the operations of an API declare. -/
def declaredRoutes (v : Version) (a : Api) : List Route :=
  a.operations.map fun o => (v.urlPrefix ++ o.endpoint.url, o.endpoint.method)

section Files

variable {e : Emission} {v : Version} {a : Api} {sigs : List Signature} {files : List TreeFile}
  {f : TreeFile}

/-- The calls on the router of an API: one for each group, and one that hands over the service. -/
lemma routerCalls_routerCode (e : Emission) (v : Version) (a : Api) (sigs : List Signature)
    (rest : List Line) : routerCalls ((e.routerCode v a sigs).lines ++ rest) =
      ((RouteGroup.ofSignatures v.urlPrefix sigs).flatMap fun g => g.code.lines) ++
        [[.text ".with_state(service)"]] := by
  have hbody : ∀ groups : List RouteGroup, (Code.all (groups.map RouteGroup.code) ++
      .texts [".with_state(service)"]).lines =
        (groups.flatMap fun g => g.code.lines) ++ [[.text ".with_state(service)"]] := by
    intro groups
    rw [lines_append, lines_all, List.flatMap_map]
    rfl
  change routerCalls ((Code.line _ ++ .braces _ (.hanging _ (.all _ ++ .texts _) none)).lines ++
    rest) = _
  rw [routerCalls_function _ _ rfl (by simp) (by simp) _ rest, hbody]
  rw [hbody]
  refine List.forall_mem_append.2 ⟨fun l hl => ?_, by decide⟩
  obtain ⟨g, -, hl⟩ := List.mem_flatMap.1 hl
  rw [List.mem_singleton.1 hl]
  rfl

lemma routes_routerCode (e : Emission) (v : Version) (a : Api) (sigs : List Signature)
    (rest : Code) : (routerCalls (e.routerCode v a sigs ++ rest).lines).flatMap routesOf =
      (grouped (RouteGroup.ofSignatures v.urlPrefix sigs)).map fun x =>
        (x.1, x.2.operation.endpoint.method) := by
  rw [lines_append, routerCalls_routerCode, List.flatMap_append, List.flatMap_assoc,
    show [[Piece.text ".with_state(service)"]].flatMap routesOf = [] from rfl, List.append_nil]
  unfold grouped
  rw [List.map_flatMap]
  refine List.flatMap_congr fun g _ => ?_
  rw [routesOf_code, List.map_map]
  rfl

lemma operations_of_signatures (h : e.signatures v a = .ok sigs) :
    sigs.map (·.operation) = a.operations := by
  rw [map_of_mapM h fun o _ sig hsig => (ofOperation_eq_ok_iff.1 hsig).operation, List.map_id']

/-- A file at the place of the router of an API, with the routes of its operations. -/
def RouterOf (e : Emission) (v : Version) (a : Api) (f : TreeFile) : Prop :=
  f.path = routerPlace (e.apiDirs v a) ∧ (registered f).Perm (declaredRoutes v a)

lemma routerOf_serviceFiles (h : e.serviceFiles v a = .ok files) :
    ∃ service routing, files = [service, routing] ∧
      service.path = .ofDirectory .generated (e.apiDirs v a) ∧ RouterOf e v a routing := by
  obtain ⟨sigs, hsigs, rfl⟩ := serviceFiles_source h
  refine ⟨_, _, rfl, rfl, rfl, ?_⟩
  have hdeclared : declaredRoutes v a = (sigs.map fun s =>
      (v.urlPrefix ++ s.operation.endpoint.url, s)).map fun x =>
        (x.1, x.2.operation.endpoint.method) := by
    unfold declaredRoutes
    rw [← operations_of_signatures hsigs, List.map_map, List.map_map]
    rfl
  rw [hdeclared]
  refine (List.Perm.of_eq (routes_routerCode e v a sigs _)).trans ?_
  exact (grouped_ofSignatures v.urlPrefix sigs).map _

/-- At the place of the router of an API there is the router of an API with that place. -/
lemma routerOf_emitted (hf : Emitted e f) (hpath : f.path = routerPlace (e.apiDirs v a)) :
    ∃ v' ∈ e.spec.versions, ∃ a' ∈ v'.apis, e.apiDirs v' a' = e.apiDirs v a ∧
      RouterOf e v' a' f := by
  have hdirs : f.path.dirs.length = 2 := by rw [hpath]; rfl
  have hname : f.path.name = "routing" := by rw [hpath]; rfl
  have harea : f.path.area = .generated := by rw [hpath]; rfl
  cases hf with
  | rootIndex | support hm | router hrun | versionIndex hv | skeletonIndex hrun
  | versionSkeletonIndex hrun hv => cases hdirs
  | errors hf =>
    obtain ⟨body, rfl⟩ := errorFile_source hf
    cases hdirs
  | models hv hfiles hf =>
    obtain ⟨body, rfl⟩ := modelFiles_source hfiles hf
    cases hdirs
  | client hrun hv ha hf =>
    obtain ⟨errors, body, rfl⟩ := clientFile_source hf
    cases hdirs
  | skeleton hrun hv ha hf =>
    obtain ⟨sigs, methods, -, rfl⟩ := skeletonFile_source hf
    cases harea
  | @service v' a' group _ hrun hv ha hfiles hf =>
    obtain ⟨service, routing, rfl, hservice, hrouting⟩ := routerOf_serviceFiles hfiles
    rcases List.mem_cons.1 hf with rfl | hf
    · rw [hservice] at hname
      exact absurd hname (show ("mod" : String) ≠ "routing" by decide)
    · obtain rfl := List.mem_singleton.1 hf
      exact ⟨v', List.mem_of_mem_filter hv, a', ha,
        congrArg TreePath.dirs (hrouting.1.symm.trans hpath), hrouting⟩

end Files

/-! ### The table of a run -/

/-- The routes of the first file at the place of a router. -/
def routesAt (files : List TreeFile) (modules : List String) : List Route :=
  ((files.find? fun f => f.path = routerPlace modules).map registered).getD []

/-- The routes of the routers that the router of the root merges. -/
def mergedRoutes (e : Emission) (files : List TreeFile) : List Route :=
  e.mergedApis.flatMap fun m => routesAt files m.modules

/-- The routes that all operations declare. -/
def specRoutes (s : Spec) : List Route :=
  s.versions.flatMap fun v => v.apis.flatMap (declaredRoutes v)

/-- The APIs of all versions. -/
def apisOf (s : Spec) : List (Version × Api) :=
  s.versions.flatMap fun v => v.apis.map fun a => (v, a)

section Tables

variable {e : Emission} {v : Version} {a : Api} {files : List TreeFile}

lemma mem_apisOf_iff {s : Spec} : (v, a) ∈ apisOf s ↔ v ∈ s.versions ∧ a ∈ v.apis := by
  unfold apisOf
  rw [List.mem_flatMap]
  constructor
  · rintro ⟨w, hw, hmem⟩
    obtain ⟨b, hb, heq⟩ := List.mem_map.1 hmem
    cases heq
    exact ⟨hw, hb⟩
  · rintro ⟨hv, ha⟩
    exact ⟨v, hv, List.mem_map_of_mem ha⟩

lemma modules_mergedApis (e : Emission) :
    e.mergedApis.map (·.modules) = (apisOf e.spec).map fun x => e.apiDirs x.1 x.2 := by
  unfold Emission.mergedApis apisOf
  rw [List.map_flatMap, List.map_flatMap]
  refine List.flatMap_congr fun v _ => ?_
  rw [List.map_map, List.map_map]
  rfl

lemma specRoutes_eq (s : Spec) :
    specRoutes s = (apisOf s).flatMap fun x => declaredRoutes x.1 x.2 := by
  unfold specRoutes apisOf
  rw [List.flatMap_assoc]
  refine List.flatMap_congr fun v _ => ?_
  rw [List.flatMap_map]

variable (h : SpecRules e.spec e.naming) (hrun : e.run = .service) (hfiles : e.files = .ok files)

include h hrun hfiles in
lemma exists_routerOf (hv : v ∈ e.spec.versions) (ha : a ∈ v.apis) :
    ∃ f ∈ files, RouterOf e v a f := by
  obtain ⟨group, hgroup⟩ := succeeds_serviceFiles h hv ha
  obtain ⟨service, routing, rfl, -, hrouting⟩ := routerOf_serviceFiles hgroup
  have hversion : v ∈ e.versions := by
    unfold Emission.versions
    rw [hrun]
    exact List.mem_filter.2 ⟨hv, rfl⟩
  refine ⟨routing, (mem_files_iff hfiles).2 ?_, hrouting⟩
  exact .service hrun hversion ha hgroup (List.mem_cons_of_mem _ List.mem_cons_self)

include h hrun hfiles in
lemma routesAt_perm (hmodules : (e.mergedApis.map (·.modules)).Nodup) (hv : v ∈ e.spec.versions)
    (ha : a ∈ v.apis) : (routesAt files (e.apiDirs v a)).Perm (declaredRoutes v a) := by
  obtain ⟨router, hrouter, hpath, -⟩ := exists_routerOf h hrun hfiles hv ha
  obtain ⟨f, hf⟩ := Option.isSome_iff_exists.1 (List.find?_isSome
    (p := fun f => decide (f.path = routerPlace (e.apiDirs v a))).2
    ⟨router, hrouter, decide_eq_true hpath⟩)
  have hplace : f.path = routerPlace (e.apiDirs v a) := by simpa using List.find?_some hf
  obtain ⟨v', hv', a', ha', hdirs, hroutes⟩ :=
    routerOf_emitted ((mem_files_iff hfiles).1 (List.mem_of_find?_eq_some hf)) hplace
  rw [modules_mergedApis] at hmodules
  have hsame := List.inj_on_of_nodup_map hmodules (mem_apisOf_iff.2 ⟨hv', ha'⟩)
    (mem_apisOf_iff.2 ⟨hv, ha⟩) hdirs
  cases hsame
  unfold routesAt
  rw [hf]
  exact hroutes.2

include h hrun hfiles in
lemma mergedRoutes_perm (hmodules : (e.mergedApis.map (·.modules)).Nodup) :
    (mergedRoutes e files).Perm (specRoutes e.spec) := by
  have hmerged : mergedRoutes e files =
      (apisOf e.spec).flatMap fun x => routesAt files (e.apiDirs x.1 x.2) := by
    unfold mergedRoutes
    rw [← List.flatMap_map, modules_mergedApis, List.flatMap_map]
  rw [hmerged, specRoutes_eq]
  refine List.Perm.flatMap_left _ fun x hx => ?_
  obtain ⟨hv, ha⟩ := mem_apisOf_iff.1 hx
  exact routesAt_perm h hrun hfiles hmodules hv ha

/-- A router that is merged twice has no routes if no route is there twice. -/
lemma routesAt_of_shared (h : (mergedRoutes e files).Nodup) :
    (e.mergedApis.map (·.modules)).Pairwise fun m n => m = n → routesAt files m = [] := by
  rw [List.pairwise_map]
  refine (List.nodup_flatMap.1 h).2.imp fun {m n} hdisjoint hsame => ?_
  have hself : List.Disjoint (routesAt files m.modules) (routesAt files n.modules) := hdisjoint
  rw [← hsame] at hself
  exact List.eq_nil_iff_forall_not_mem.2 fun r hr => hself hr hr

end Tables

/-! ### Paths of routes -/

/-- A path that starts at the root, as the paths of a router have to. -/
def Rooted (path : String) : Prop := path.toList.head? = some '/'

instance (path : String) : Decidable (Rooted path) :=
  inferInstanceAs (Decidable (path.toList.head? = some '/'))

/-- Versions told apart by their names alone, with URLs below them. -/
structure NamedVersions (s : Spec) : Prop where
  noUrl : ∀ v ∈ s.versions, v.url = none
  name : ∀ v ∈ s.versions, v.name ≠ "" ∧ '/' ∉ v.name.toList
  names : (s.versions.map (·.name)).Nodup
  urls : ∀ v ∈ s.versions, ∀ a ∈ v.apis, ∀ o ∈ a.operations, Rooted o.endpoint.url

section Paths

variable {s : Spec} {v w : Version} {path rest : String}

lemma rooted_append : Rooted (path ++ rest) ↔ if path = "" then Rooted rest else Rooted path := by
  unfold Rooted
  rw [String.toList_append]
  by_cases hpath : path = ""
  · rw [if_pos hpath, hpath]
    rfl
  · have hne : path.toList ≠ [] := fun hnil => hpath (String.toList_eq_nil_iff.1 hnil)
    rw [if_neg hpath, List.head?_append_of_ne_nil _ hne]

lemma urlPrefix_of_name (hurl : v.url = none) (hname : v.name ≠ "") :
    v.urlPrefix = "/" ++ v.name := by
  unfold Version.urlPrefix
  rw [hurl]
  exact if_neg (by simpa using hname)

lemma name_eq_of_routes {url url' : String} (hv : '/' ∉ v.name.toList) (hw : '/' ∉ w.name.toList)
    (hurl : Rooted url) (hurl' : Rooted url')
    (h : "/" ++ v.name ++ url = "/" ++ w.name ++ url') : v.name = w.name := by
  have hname : ∀ {name url : String}, '/' ∉ name.toList → Rooted url →
      (name.toList ++ url.toList).takeWhile (· ≠ '/') = name.toList := by
    intro name url hname hurl
    obtain ⟨cs, hcs⟩ := List.head?_eq_some_iff.1 hurl
    rw [List.takeWhile_append_of_pos fun c hc => by
      simpa using fun heq : c = '/' => hname (heq ▸ hc), hcs, List.takeWhile_cons_of_neg (by simp),
      List.append_nil]
  have hchars := congrArg String.toList h
  simp only [String.toList_append, List.append_assoc] at hchars
  have hrest := List.append_cancel_left hchars
  rw [← String.toList_inj, ← hname hv hurl, hrest, hname hw hurl']

/-- The routes of a version below its prefix. -/
def localRoutes (v : Version) : List Route :=
  v.apis.flatMap fun a => a.operations.map fun o => (o.endpoint.url, o.endpoint.method)

lemma declared_eq_map (v : Version) :
    v.apis.flatMap (declaredRoutes v) =
      (localRoutes v).map fun r => (v.urlPrefix ++ r.1, r.2) := by
  unfold localRoutes
  rw [List.map_flatMap]
  refine List.flatMap_congr fun a _ => ?_
  rw [List.map_map]
  rfl

lemma nodup_declared_iff (v : Version) :
    (v.apis.flatMap (declaredRoutes v)).Nodup ↔ (localRoutes v).Nodup := by
  rw [declared_eq_map]
  refine List.nodup_map_iff fun r r' h => ?_
  obtain ⟨hpath, hmethod⟩ := Prod.mk.inj h
  exact Prod.ext ((String.append_right_inj _).1 hpath) hmethod

lemma NamedVersions.exists_url (h : NamedVersions s) (hv : v ∈ s.versions) {r : Route}
    (hr : r ∈ v.apis.flatMap (declaredRoutes v)) : ∃ url, Rooted url ∧ r.1 = "/" ++ v.name ++ url := by
  obtain ⟨a, ha, hr⟩ := List.mem_flatMap.1 hr
  obtain ⟨o, ho, rfl⟩ := List.mem_map.1 hr
  refine ⟨o.endpoint.url, h.urls v hv a ha o ho, ?_⟩
  rw [urlPrefix_of_name (h.noUrl v hv) (h.name v hv).1]

lemma nodup_specRoutes_iff (h : NamedVersions s) :
    (specRoutes s).Nodup ↔ ∀ v ∈ s.versions, (localRoutes v).Nodup := by
  unfold specRoutes
  rw [List.nodup_flatMap]
  simp only [nodup_declared_iff]
  refine and_iff_left ((List.pairwise_map.1 h.names).imp_of_mem fun {v w} hv hw hne => ?_)
  intro r hr hr'
  obtain ⟨url, hurl, hpath⟩ := h.exists_url hv hr
  obtain ⟨url', hurl', hpath'⟩ := h.exists_url hw hr'
  exact hne (name_eq_of_routes (h.name v hv).2 (h.name w hw).2 hurl hurl'
    (hpath.symm.trans hpath'))

end Paths

/-! ### All runs -/

/-- What the routers of a run register. -/
structure RouteTable (e : Emission) (files : List TreeFile) : Prop where
  routers : ∀ v ∈ e.spec.versions, ∀ a ∈ v.apis, ∃ f ∈ files, RouterOf e v a f
  merges : ∃ body, e.rootRouterFile.content = .source body ∧
    routerCalls body.body.lines = e.mergedApis.map (·.mergeLine e.config.modulePath)
  /-- All paths are rooted exactly if the prefixes are, and the URLs behind empty prefixes. -/
  rooted : (∀ v ∈ e.spec.versions, ∀ a ∈ v.apis, ∀ f ∈ files,
      f.path = routerPlace (e.apiDirs v a) → ∀ r ∈ registered f, Rooted r.1) ↔
    ∀ v ∈ e.spec.versions, ∀ a ∈ v.apis, ∀ o ∈ a.operations,
      if v.urlPrefix = "" then Rooted o.endpoint.url else Rooted v.urlPrefix
  merged : (e.mergedApis.map (·.modules)).Nodup →
    (mergedRoutes e files).Perm (specRoutes e.spec)
  /-- No route is registered twice exactly if none is declared twice. -/
  once : (e.mergedApis.map (·.modules)).Nodup →
    ((mergedRoutes e files).Nodup ↔ (specRoutes e.spec).Nodup)
  shared : (mergedRoutes e files).Nodup →
    (e.mergedApis.map (·.modules)).Pairwise fun m n => m = n → routesAt files m = []
  /-- Where versions are told apart by their names, it takes two operations of one version to
  declare a route twice, and all paths are rooted. -/
  named : NamedVersions e.spec →
    ((specRoutes e.spec).Nodup ↔ ∀ v ∈ e.spec.versions, (localRoutes v).Nodup) ∧
      ∀ r ∈ specRoutes e.spec, Rooted r.1

lemma merges_rootRouterFile (e : Emission) : ∃ body, e.rootRouterFile.content = .source body ∧
    routerCalls body.body.lines = e.mergedApis.map (·.mergeLine e.config.modulePath) := by
  have hlines : ∀ apis : List Emission.MergedApi,
      (Code.all (apis.map fun m => .line (m.mergeLine e.config.modulePath))).lines =
        apis.map (·.mergeLine e.config.modulePath) := by
    intro apis
    rw [lines_all, List.flatMap_map, List.map_eq_flatMap]
    rfl
  have hcalls : ∀ l ∈ (Code.all (e.mergedApis.map fun m =>
      .line (m.mergeLine e.config.modulePath))).lines, isCall l = true := by
    rw [hlines]
    refine List.forall_mem_map.2 fun m _ => ?_
    simp [isCall, Emission.MergedApi.mergeLine]
  have hroot := routerCalls_function (.texts ["/// Router serving every API of every version."])
    ([.text "pub fn ", .declares "routes", .text "("] ++
      Line.joined ", " (e.mergedApis.map (·.formalLine e.config.modulePath)) ++
        [.text ") -> Router"]) rfl (by simp) (by simp) hcalls []
  rw [List.append_nil, hlines] at hroot
  exact ⟨_, rfl, hroot⟩

lemma routeTable_of_files {e : Emission} (h : SpecRules e.spec e.naming) (hrun : e.run = .service)
    {files : List TreeFile} (hfiles : e.files = .ok files) : RouteTable e files where
  routers v hv a ha := exists_routerOf h hrun hfiles hv ha
  merges := merges_rootRouterFile e
  rooted := by
    constructor
    · intro hall v hv a ha o ho
      obtain ⟨f, hf, hpath, hroutes⟩ := exists_routerOf h hrun hfiles hv ha
      have hroute : (v.urlPrefix ++ o.endpoint.url, o.endpoint.method) ∈ registered f :=
        hroutes.mem_iff.2 (List.mem_map_of_mem ho)
      exact rooted_append.1 (hall v hv a ha f hf hpath _ hroute)
    · intro hall v _ a _ f hf hpath r hr
      obtain ⟨v', hv', a', ha', -, -, hroutes⟩ := routerOf_emitted ((mem_files_iff hfiles).1 hf) hpath
      obtain ⟨o, ho, rfl⟩ := List.mem_map.1 (hroutes.mem_iff.1 hr)
      exact rooted_append.2 (hall v' hv' a' ha' o ho)
  merged := mergedRoutes_perm h hrun hfiles
  once hmodules := (mergedRoutes_perm h hrun hfiles hmodules).nodup_iff
  shared := routesAt_of_shared
  named hnamed := by
    refine ⟨nodup_specRoutes_iff hnamed, fun r hr => ?_⟩
    obtain ⟨v, hv, hr⟩ := List.mem_flatMap.1 hr
    obtain ⟨url, hurl, hpath⟩ := hnamed.exists_url hv hr
    unfold Rooted
    rw [hpath, String.toList_append, String.toList_append]
    rfl

/-- The routers of a service register exactly the routes that the operations of an accepted
description declare, which nothing keeps from starting elsewhere than at the root, or from being
declared twice. -/
theorem validated_route_table (spec : Spec) (g : Generator)
    (h : spec.validate g.naming = .ok ()) :
    ∃ files artifacts, (Emission.mk spec g.config g.naming .service).files = .ok files ∧
      files.mapM (Emission.mk spec g.config g.naming .service).artifact = .ok artifacts ∧
      RouteTable ⟨spec, g.config, g.naming, .service⟩ files ∧
      ∀ set, g.generate spec .service = .ok set → set.files = artifacts := by
  obtain ⟨files, artifacts, hfiles, hartifacts, hgiven⟩ := exists_run g .service h
  exact ⟨files, artifacts, hfiles, hartifacts,
    routeTable_of_files (.of_validate h) rfl hfiles, hgiven⟩

theorem validated_route_table_shop :
    shop.validate .standard = .ok () ∧
      ∃ files, (Emission.mk shop .standard .standard .service).files = .ok files ∧
        mergedRoutes ⟨shop, .standard, .standard, .service⟩ files = [("/v1/orders/{id}", .put)] ∧
        Rooted "/v1/orders/{id}" := by
  have hvalid : shop.validate .standard = .ok () := by decide +kernel
  obtain ⟨files, -, hfiles, -, htable, -⟩ :=
    validated_route_table shop ⟨.standard, .standard, fun _ => true⟩ hvalid
  have hmodules : ((Emission.mk shop .standard .standard .service).mergedApis.map
      (·.modules)).Nodup := by
    decide +kernel
  have hroutes := htable.merged hmodules
  exact ⟨hvalid, files, hfiles, List.perm_singleton.1 hroutes, by decide⟩

/-- An operation without parameters that gets a text from a URL. -/
def getting (name url : String) : Operation where
  name := name
  endpoint := ⟨.get, url, []⟩
  headerParams := []
  queryParams := []
  body := .empty
  responses := [⟨"ok", .empty, none⟩]
  description := none

/-- Two APIs with one route, behind a prefix without a slash. -/
def crossing : Spec where
  name := "shop"
  versions := [⟨"v1", some "api", [⟨"orders", [getting "get_orders" "/orders"]⟩,
    ⟨"stock", [getting "get_stock" "/orders"]⟩], []⟩]
  httpErrors := .empty

/-- The two routers register one route, and its path is not rooted. -/
theorem crossing_routes_meet :
    crossing.validate .standard = .ok () ∧
      ((Emission.mk crossing .standard .standard .service).mergedApis.map (·.modules)).Nodup ∧
      ∃ files, (Emission.mk crossing .standard .standard .service).files = .ok files ∧
        mergedRoutes ⟨crossing, .standard, .standard, .service⟩ files =
          [("api/orders", .get), ("api/orders", .get)] ∧
        ¬(mergedRoutes ⟨crossing, .standard, .standard, .service⟩ files).Nodup ∧
        ¬Rooted "api/orders" := by
  have hvalid : crossing.validate .standard = .ok () := by decide +kernel
  have hmodules : ((Emission.mk crossing .standard .standard .service).mergedApis.map
      (·.modules)).Nodup := by
    decide +kernel
  obtain ⟨files, -, hfiles, -⟩ := (EmitsAll.of_validate hvalid .standard .service).artifacts
  have hroutes : mergedRoutes ⟨crossing, .standard, .standard, .service⟩ files =
      [("api/orders", .get), ("api/orders", .get)] :=
    List.perm_replicate (n := 2).1
      (mergedRoutes_perm (e := ⟨crossing, .standard, .standard, .service⟩) (.of_validate hvalid) rfl
        hfiles hmodules)
  refine ⟨hvalid, hmodules, files, hfiles, hroutes, ?_, by decide⟩
  rw [hroutes]
  decide

end ApiCodegen.Proofs
