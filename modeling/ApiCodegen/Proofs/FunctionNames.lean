import ApiCodegen.Proofs.CasedNames
import ApiCodegen.Proofs.ModuleTree
import ApiCodegen.Proofs.RouteTable
import ApiCodegen.Proofs.Taxonomy

/-!
# Names of the functions of a file

The methods of a client stand beside its two constructors, and the handlers of an API beside the
function that makes its router. The names of these are fixed. `functions` reads the functions of a
scope off the code. Where the operations of an API are distinct words in snake case, two functions
of a scope have one name exactly if an operation is called like a fixed function.
-/

namespace ApiCodegen.Proofs
open Naming

/-! ### Functions of a scope -/

/-- The function that a line starts. -/
def functionOf? : Line → Option String
  | .text start :: .declares name :: _ =>
    if start = "pub fn " ∨ start = "async fn " then some name else none
  | _ => none

/-- The functions that stand in code, without those inside of what stands there. -/
def functions (code : Code) : List String :=
  (inSequence code).filterMap fun piece => piece.lines.head?.bind functionOf?

/-- The bodies of the blocks that stand in code under a head. -/
def bodiesAt (head : Line) (code : Code) : List Code :=
  (inSequence code).filterMap fun
    | .block _ line body _ => if line = head then some body else none
    | _ => none

section Scopes

variable {head line : Line} {s : Signature} {naming : Naming}

@[simp] lemma functions_append (first second : Code) :
    functions (first ++ second) = functions first ++ functions second := by
  unfold functions
  rw [inSequence_append, List.filterMap_append]

@[simp] lemma functions_all (codes : List Code) :
    functions (.all codes) = codes.flatMap functions := by
  unfold functions
  rw [inSequence_all, List.filterMap_flatMap]

@[simp] lemma functions_line (line : Line) :
    functions (.line line) = (functionOf? line).toList := by
  unfold functions
  cases h : functionOf? line <;> simp [inSequence, Code.lines, h]

@[simp] lemma functions_nothing : functions .nothing = [] := rfl

@[simp] lemma functions_blank : functions .blank = [] := rfl

@[simp] lemma functions_doc (text : Option String) : functions (.doc text) = [] := rfl

@[simp] lemma functions_texts (lines : List String) : functions (.texts lines) = [] := by
  rw [Code.texts, functions_all, List.flatMap_map]
  exact List.flatMap_eq_nil_iff.2 fun _ _ => rfl

@[simp] lemma functions_braces (line : Line) (body : Code) :
    functions (.braces line body) = (functionOf? line).toList := by
  unfold functions
  cases h : functionOf? line <;> simp [inSequence, Code.braces, Code.lines, h]

@[simp] lemma functionOf?_public (name : String) (rest : Line) :
    functionOf? (.text "pub fn " :: .declares name :: rest) = some name := by
  rw [functionOf?, if_pos (Or.inl rfl)]

@[simp] lemma functionOf?_async (name : String) (rest : Line) :
    functionOf? (.text "async fn " :: .declares name :: rest) = some name := by
  rw [functionOf?, if_pos (Or.inr rfl)]

@[simp] lemma bodiesAt_append (first second : Code) :
    bodiesAt head (first ++ second) = bodiesAt head first ++ bodiesAt head second := by
  unfold bodiesAt
  rw [inSequence_append, List.filterMap_append]

@[simp] lemma bodiesAt_all (codes : List Code) :
    bodiesAt head (.all codes) = codes.flatMap (bodiesAt head) := by
  unfold bodiesAt
  rw [inSequence_all, List.filterMap_flatMap]

@[simp] lemma bodiesAt_texts (lines : List String) : bodiesAt head (.texts lines) = [] := by
  rw [Code.texts, bodiesAt_all, List.flatMap_map]
  exact List.flatMap_eq_nil_iff.2 fun _ _ => rfl

@[simp] lemma bodiesAt_line (line : Line) : bodiesAt head (.line line) = [] := rfl

@[simp] lemma bodiesAt_blank : bodiesAt head .blank = [] := rfl

@[simp] lemma bodiesAt_braces (line : Line) (body : Code) :
    bodiesAt head (.braces line body) = if line = head then [body] else [] := by
  unfold bodiesAt
  by_cases h : line = head <;> simp [inSequence, Code.braces, h]

lemma functions_constructors :
    functions Emission.clientConstructorsCode = ["new", "with_http_client"] := by
  simp [Emission.clientConstructorsCode]

lemma functions_method (m : ClientMethod) (hcomment : functions m.comment = []) :
    functions m.code = [m.fnName] := by
  change functions (m.comment ++ .braces _ _) = _
  rw [functions_append, hcomment, functions_braces, List.append_assoc, List.cons_append,
    List.cons_append, functionOf?_public]
  rfl

lemma functions_comment (urlPrefix api : String) (errors : List ErrorVariant) :
    functions (ClientMethod.ofSignature naming urlPrefix api s errors).comment = [] := by
  unfold ClientMethod.ofSignature
  dsimp only
  split
  · simp [functionOf?]
  · simp [functionOf?]

lemma functions_handler (h : Handler) : functions h.code = [h.fnName] := by
  change functions (.hanging _ (.all _) none ++ .braces _ _) = _
  rw [functions_append, functions_braces]
  simp [functions, inSequence, Code.lines, functionOf?]

lemma functions_router (e : Emission) (v : Version) (a : Api) (sigs : List Signature) :
    functions (e.routerCode v a sigs) = ["routes"] := by
  change functions (.line _ ++ .braces _ _) = _
  rw [functions_append, functions_braces, functionOf?_public]
  rfl

/-- No declaration of a type of an operation stands under another head. -/
lemma bodiesAt_types (sigs : List Signature) (h : head.length = 1) :
    bodiesAt head (Signature.typesCode naming sigs) = [] := by
  have hhead : ∀ first second : Piece, [first, second] ≠ head := by
    rintro first second rfl
    cases h
  unfold Signature.typesCode
  rw [bodiesAt_all, List.flatMap_map]
  refine List.flatMap_eq_nil_iff.2 fun s _ => ?_
  unfold Signature.formCode Signature.responseCode
  rw [bodiesAt_append, List.append_eq_nil_iff]
  constructor
  · split
    · simp [hhead]
    · rfl
    · rfl
    · rfl
  · split
    · simp [hhead]
    · rfl

end Scopes

/-! ### Operations beside fixed functions -/

/-- The functions of a scope are fixed ones and one for each operation of an API. Two of them have
one name exactly if an operation is called like a fixed one, and names that differ do so without
the marks of raw identifiers. -/
structure OperationScope (fixed : List String) (a : Api) (scope : Code) : Prop where
  names : functions scope = fixed ++ a.operations.map fun o => snakeName o.name
  nodup_iff : (functions scope).Nodup ↔ ∀ o ∈ a.operations, o.name ∉ fixed
  unmarked : (functions scope).Nodup → ((functions scope).map unraw).Nodup

section Clashes

variable {e : Emission} {v : Version} {a : Api} {fixed : List String} {scope : Code}
  {sigs : List Signature} {files : List TreeFile} {f : TreeFile}

lemma operationScope_of_names (hfixed : fixed.Nodup)
    (hkept : ∀ name ∈ fixed, IsSnake name ∧ snakeName name = name)
    (hnodup : (a.operations.map (·.name)).Nodup) (hsnake : ∀ o ∈ a.operations, IsSnake o.name)
    (hnames : functions scope = fixed ++ a.operations.map fun o => snakeName o.name) :
    OperationScope fixed a scope := by
  have hsame : ∀ o ∈ a.operations, ∀ name ∈ fixed, snakeName o.name = name ↔ o.name = name := by
    intro o ho name hname
    obtain ⟨hsnake', hself⟩ := hkept name hname
    conv_lhs => rw [← hself]
    exact snakeName_inj (hsnake o ho) hsnake'
  refine ⟨hnames, ?_, fun h => h.map_on fun x hx y hy heq => ?_⟩
  · rw [hnames, List.nodup_append']
    constructor
    · rintro ⟨-, -, hdisjoint⟩ o ho hname
      exact hdisjoint hname (List.mem_map.2 ⟨o, ho, (hsame o ho _ hname).2 rfl⟩)
    · intro h
      refine ⟨hfixed, nodup_map_snakeName hnodup hsnake, fun name hname hmem => ?_⟩
      obtain ⟨o, ho, heq⟩ := List.mem_map.1 hmem
      exact h o ho ((hsame o ho name hname).1 heq ▸ hname)
  · have hcased : ∀ x ∈ functions scope, ∃ name, snakeName name = x := by
      rw [hnames]
      refine List.forall_mem_append.2 ⟨fun x hx => ⟨x, (hkept x hx).2⟩, fun x hx => ?_⟩
      obtain ⟨o, -, rfl⟩ := List.mem_map.1 hx
      exact ⟨o.name, rfl⟩
    obtain ⟨b, rfl⟩ := hcased x hx
    obtain ⟨c, rfl⟩ := hcased y hy
    exact unraw_snakeName_inj heq

lemma fnNames_of_signatures (hnaming : e.naming = .standard) (h : e.signatures v a = .ok sigs) :
    sigs.map (·.fnName) = a.operations.map fun o => snakeName o.name := by
  have hnames := map_of_mapM h fun o _ sig hsig => (ofOperation_eq_ok_iff.1 hsig).fnName
  rw [hnames, hnaming]
  rfl

lemma bodiesAt_client (impl : Code) :
    bodiesAt [.text "impl Client"] (Signature.typesCode e.naming sigs ++
      Emission.clientStructCode a.name ++ .braces [.text "impl Client"] impl) = [impl] := by
  rw [bodiesAt_append, bodiesAt_append, bodiesAt_types _ rfl, bodiesAt_braces, if_pos rfl]
  rfl

lemma functions_impl (e : Emission) (v : Version) (a : Api) (sigs : List Signature)
    (errors : List ErrorVariant) : functions (Emission.clientConstructorsCode ++
      .all ((e.clientMethods v a sigs errors).map fun m => .blank ++ m.code)) =
        ["new", "with_http_client"] ++ sigs.map (·.fnName) := by
  have hmethods : ∀ m ∈ e.clientMethods v a sigs errors,
      functions (.blank ++ m.code) = [m.fnName] := by
    intro m hm
    obtain ⟨s, -, rfl⟩ := List.mem_map.1 hm
    rw [functions_append, functions_blank, List.nil_append,
      functions_method _ (functions_comment _ _ _)]
  rw [functions_append, functions_constructors, functions_all, List.flatMap_map,
    List.flatMap_congr hmethods, ← List.map_eq_flatMap]
  unfold Emission.clientMethods
  rw [List.map_map]
  rfl

lemma functions_handlers (e : Emission) (v : Version) (a : Api) (sigs : List Signature) :
    functions (.all ((e.handlers v a sigs).map fun h => .blank ++ h.code)) =
      sigs.map (·.fnName) := by
  have hhandlers : ∀ h ∈ e.handlers v a sigs, functions (.blank ++ h.code) = [h.fnName] := by
    intro h _
    rw [functions_append, functions_blank, List.nil_append, functions_handler]
  rw [functions_all, List.flatMap_map, List.flatMap_congr hhandlers, ← List.map_eq_flatMap]
  unfold Emission.handlers
  rw [List.map_map]
  rfl

variable (h : SpecRules e.spec e.naming) (hnaming : e.naming = .standard)
  (hfiles : e.files = .ok files) (hv : v ∈ e.spec.versions) (ha : a ∈ v.apis)

include h hnaming hfiles hv ha

/-- The constructors and methods of a client. -/
lemma exists_client (hrun : e.run = .client) : ∃ source scope,
    ⟨⟨.generated, [e.versionModule v], e.apiModule a⟩, .source source⟩ ∈ files ∧
      bodiesAt [.text "impl Client"] source.body = [scope] ∧ functions scope =
        ["new", "with_http_client"] ++ a.operations.map fun o => snakeName o.name := by
  obtain ⟨f, hf⟩ := succeeds_clientFile h hv ha
  have hversion := mem_versions_iff.2 ⟨hv, emitted_of_run (by rw [hrun]; decide)⟩
  have hmem := (mem_files_iff hfiles).2 (.client hrun hversion ha hf)
  obtain ⟨sigs, hsigs, hrest⟩ := bind_eq_ok_iff.1 hf
  obtain ⟨errors, -, hsource⟩ := bind_eq_ok_iff.1 hrest
  cases hsource
  refine ⟨_, _, hmem, bodiesAt_client _, ?_⟩
  change functions (Emission.clientConstructorsCode ++ .all _) = _
  rw [functions_impl, fnNames_of_signatures hnaming hsigs]

/-- The router and the handlers of an API. -/
lemma exists_routing (hrun : e.run = .service) : ∃ source,
    ⟨⟨.generated, e.apiDirs v a, "routing"⟩, .source source⟩ ∈ files ∧ functions source.body =
      ["routes"] ++ a.operations.map fun o => snakeName o.name := by
  obtain ⟨group, hgroup⟩ := succeeds_serviceFiles h hv ha
  have hversion := mem_versions_iff.2 ⟨hv, emitted_of_service hrun⟩
  have hmem : ∀ f ∈ group, f ∈ files := fun f hf =>
    (mem_files_iff hfiles).2 (.service hrun hversion ha hgroup hf)
  obtain ⟨sigs, hsigs, rfl⟩ := serviceFiles_source hgroup
  refine ⟨_, hmem _ (List.mem_cons_of_mem _ List.mem_cons_self), ?_⟩
  rw [functions_append, functions_router, functions_handlers, fnNames_of_signatures hnaming hsigs]

end Clashes

/-- In the client of an API whose operations are distinct words in snake case the constructors and
methods have distinct names exactly if no operation is called like a constructor, and in its routing
the functions have distinct names exactly if no operation is called `routes`. -/
theorem validated_function_names (spec : Spec) (config : Config)
    (h : spec.validate .standard = .ok ()) {v : Version} (hv : v ∈ spec.versions) {a : Api}
    (ha : a ∈ v.apis) (hnodup : (a.operations.map (·.name)).Nodup)
    (hsnake : ∀ o ∈ a.operations, IsSnake o.name) :
    (let e : Emission := ⟨spec, config, .standard, .client⟩
     ∃ files source scope, e.files = .ok files ∧
      ⟨⟨.generated, [e.versionModule v], e.apiModule a⟩, .source source⟩ ∈ files ∧
      bodiesAt [.text "impl Client"] source.body = [scope] ∧
      OperationScope ["new", "with_http_client"] a scope) ∧
    (let e : Emission := ⟨spec, config, .standard, .service⟩
     ∃ files source, e.files = .ok files ∧
      ⟨⟨.generated, e.apiDirs v a, "routing"⟩, .source source⟩ ∈ files ∧
      OperationScope ["routes"] a source.body) := by
  refine ⟨?_, ?_⟩
  · obtain ⟨files, -, hfiles, -⟩ := (EmitsAll.of_validate h config .client).artifacts
    obtain ⟨source, scope, hsource, hscope, hnames⟩ :=
      exists_client (.of_validate h) rfl hfiles hv ha rfl
    exact ⟨files, source, scope, hfiles, hsource, hscope,
      operationScope_of_names (by decide) (by decide +kernel) hnodup hsnake hnames⟩
  · obtain ⟨files, -, hfiles, -⟩ := (EmitsAll.of_validate h config .service).artifacts
    obtain ⟨source, hsource, hnames⟩ := exists_routing (.of_validate h) rfl hfiles hv ha rfl
    exact ⟨files, source, hfiles, hsource,
      operationScope_of_names (by decide) (by decide +kernel) hnodup hsnake hnames⟩

/-- In the shop nothing clashes. -/
theorem validated_function_names_shop :
    shop.validate .standard = .ok () ∧ ∃ files more client routing scope,
      (Emission.mk shop .standard .standard .client).files = .ok files ∧
      ⟨⟨.generated, ["v1"], "orders"⟩, .source client⟩ ∈ files ∧
      bodiesAt [.text "impl Client"] client.body = [scope] ∧
      functions scope = ["new", "with_http_client", "put_order"] ∧ (functions scope).Nodup ∧
      (Emission.mk shop .standard .standard .service).files = .ok more ∧
      ⟨⟨.generated, ["v1", "orders"], "routing"⟩, .source routing⟩ ∈ more ∧
      functions routing.body = ["routes", "put_order"] ∧ (functions routing.body).Nodup := by
  have hvalid : shop.validate .standard = .ok () := by decide +kernel
  obtain ⟨⟨files, client, scope, hfiles, hclient, hscope, hmethods⟩, more, routing, hmore, hrouting,
    hhandlers⟩ := validated_function_names shop .standard hvalid (v := shopVersion)
      List.mem_cons_self (a := ⟨"orders", [putOrder]⟩) List.mem_cons_self (List.nodup_singleton _)
      (List.forall_mem_singleton.2 (by decide +kernel))
  refine ⟨hvalid, files, more, client, routing, scope, hfiles, hclient, hscope, ?_,
    hmethods.nodup_iff.2 (List.forall_mem_singleton.2 (by decide)), hmore, hrouting, ?_,
    hhandlers.nodup_iff.2 (List.forall_mem_singleton.2 (by decide))⟩
  · rw [hmethods.names]
    decide +kernel
  · rw [hhandlers.names]
    decide +kernel

/-- An API with operations that are called like a constructor of its client and like the function
that makes its router. -/
def clashingApi : Api := ⟨"orders", [getting "new" "/new", getting "routes" "/routes"]⟩

/-- The only version of a description with that API. -/
def clashingVersion : Version := ⟨"v1", none, [clashingApi], []⟩

/-- It is accepted, and a function comes twice in its client and in its routing. -/
theorem clashing_functions :
    let spec : Spec := ⟨"shop", [clashingVersion], .empty⟩
    spec.validate .standard = .ok () ∧ (clashingApi.operations.map (·.name)).Nodup ∧
      (∀ o ∈ clashingApi.operations, IsSnake o.name) ∧ ∃ files more client routing scope,
        (Emission.mk spec .standard .standard .client).files = .ok files ∧
        ⟨⟨.generated, ["v1"], "orders"⟩, .source client⟩ ∈ files ∧
        bodiesAt [.text "impl Client"] client.body = [scope] ∧
        functions scope = ["new", "with_http_client", "new", "routes"] ∧
        ¬(functions scope).Nodup ∧
        (Emission.mk spec .standard .standard .service).files = .ok more ∧
        ⟨⟨.generated, ["v1", "orders"], "routing"⟩, .source routing⟩ ∈ more ∧
        functions routing.body = ["routes", "new", "routes"] ∧
        ¬(functions routing.body).Nodup := by
  intro spec
  have hvalid : spec.validate .standard = .ok () := by decide +kernel
  have hrules : SpecRules spec .standard := .of_validate hvalid
  have hversion : clashingVersion ∈ spec.versions := List.mem_cons_self
  have hapi : clashingApi ∈ clashingVersion.apis := List.mem_cons_self
  obtain ⟨files, -, hfiles, -⟩ := (EmitsAll.of_validate hvalid .standard .client).artifacts
  obtain ⟨more, -, hmore, -⟩ := (EmitsAll.of_validate hvalid .standard .service).artifacts
  obtain ⟨client, scope, hclient, hscope, hmethods⟩ :=
    exists_client hrules rfl hfiles hversion hapi rfl
  obtain ⟨routing, hrouting, hhandlers⟩ := exists_routing hrules rfl hmore hversion hapi rfl
  have hmethods : functions scope = ["new", "with_http_client", "new", "routes"] :=
    hmethods.trans (by decide +kernel)
  have hhandlers : functions routing.body = ["routes", "new", "routes"] :=
    hhandlers.trans (by decide +kernel)
  refine ⟨hvalid, by decide, by decide +kernel, files, more, client, routing, scope, hfiles,
    hclient, hscope, hmethods, ?_, hmore, hrouting, hhandlers, ?_⟩
  · rw [hmethods]
    decide
  · rw [hhandlers]
    decide

end ApiCodegen.Proofs
