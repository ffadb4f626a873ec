import ApiCodegen.Description.Usage
import ApiCodegen.Naming.Policy
import ApiCodegen.Signature.Dispatch
import ApiCodegen.Sink.Artifact
import ApiCodegen.Source.Imports
import ApiCodegen.Template.BuiltIn

/-!
# Generated files before they are text

A run emits files. A file has a place in one of two directories, the generated root and the root of
the skeletons. A file of source text is its imports and its code; an index lists the modules of its
directory; a skeleton is given by its methods. `TreeFile.text` writes any of them.
-/

namespace ApiCodegen

/-- What a run generates. -/
inductive RunKind where
  /-- Models and error models. -/
  | models
  /-- A blocking client for each API. -/
  | client
  /-- Service traits with handlers and routers. -/
  | service
deriving DecidableEq, Repr

/-- What every part of a run sees. -/
structure Emission where
  spec : Spec
  config : Config
  naming : Naming
  run : RunKind

/-- The line that every generated file starts with. -/
def generatedHeader : String := "// Code generated by specgen. DO NOT EDIT."

/-- A path below a directory. -/
def joinPath (dir relative : String) : String :=
  let dir := Text.dropTrailingSlashes dir
  if dir.isEmpty then relative else dir ++ "/" ++ relative

/-- The directories that a run writes to. -/
inductive TreeArea where
  /-- The directory that every run writes anew. -/
  | generated
  /-- The directory of the skeletons. -/
  | services
deriving DecidableEq, Repr

/-- The place of a file: its area, the directories below that, and its name without extension. -/
structure TreePath where
  area : TreeArea
  dirs : List String
  name : String
deriving DecidableEq, Repr

/-- The path of a file below its area. -/
def TreePath.relative (p : TreePath) : String :=
  "/".intercalate (p.dirs ++ [p.name ++ ".rs"])

/-- The file that is the module of a directory. -/
def TreePath.ofDirectory (area : TreeArea) (dirs : List String) : TreePath := ⟨area, dirs, "mod"⟩

namespace Emission

/-- The path of a generated file. -/
def generatedPath (e : Emission) (relative : String) : String :=
  joinPath e.config.generatePath relative

/-- The path of a skeleton. -/
def scaffoldPath (e : Emission) (relative : String) : String :=
  joinPath e.config.servicesPath relative

/-- The path of a file. -/
def pathText (e : Emission) (p : TreePath) : String :=
  match p.area with
  | .generated => e.generatedPath p.relative
  | .services => e.scaffoldPath p.relative

/-- The module of a version. -/
def versionModule (e : Emission) (v : Version) : String := e.naming.moduleName v.name

/-- The module of an API. -/
def apiModule (e : Emission) (a : Api) : String := e.naming.moduleName a.name

/-- The trait that the service of an API implements. -/
def traitName (e : Emission) (a : Api) : String := e.naming.typeName a.name ++ "Service"

/-- The signatures of the operations of an API. -/
def signatures (e : Emission) (v : Version) (a : Api) : Except Fault (List Signature) :=
  let here := (Location.root.child (e.versionModule v)).child a.name
  a.operations.mapM fun o =>
    Signature.ofOperation (.ofVersion v e.spec.httpErrors) e.naming (here.child o.name) o

/-- The error taxonomy. -/
def errorVariants (e : Emission) : Except Fault (List ErrorVariant) :=
  ErrorVariant.ofErrors e.naming e.spec.httpErrors

end Emission

/-- The imports of types, given what is used. -/
def typeUses (uses : Primitive → Bool) (usesMap : Bool) : List UsePath :=
  useIf (uses .decimal) (.external "rust_decimal::Decimal") ++
  useIf (uses .date) (.external "chrono::NaiveDate") ++
  useIf (uses .datetime) (.external "chrono::NaiveDateTime") ++
  useIf (uses .uuid) (.external "uuid::Uuid") ++
  useIf (uses .empty) (.internal ["empty"] (.name "Empty")) ++
  useIf usesMap (.external "std::collections::BTreeMap")

/-- The imports of the models and types that the signatures of an API name. -/
def Emission.apiUses (e : Emission) (v : Version) (a : Api) : List UsePath :=
  useIf (a.usesModels v) (.internal [e.versionModule v, "models"] .module) ++
  useIf (a.usesErrorModels e.spec.httpErrors) (.internal ["errors"] .module) ++
  useIf a.usesStandardErrors (.internal ["errmodels"] .module) ++
  typeUses a.usesPrimitive a.usesMap

/-- A file of source text. -/
structure SourceFile where
  /-- The modules of the directory that the file is the module of. -/
  submodules : List String
  /-- Whether the file sees all names of the module around it. -/
  opensParent : Bool
  uses : List UsePath
  body : Code

namespace SourceFile

/-- A file without modules of its own. -/
def plain (uses : List UsePath) (body : Code) : SourceFile := ⟨[], false, uses, body⟩

/-- The declarations of modules, and a blank line after them. -/
def submodulesCode (f : SourceFile) : Code :=
  if f.submodules.isEmpty then .nothing
  else .texts (f.submodules.map fun m => "pub mod " ++ m ++ ";") ++ .blank

/-- The whole file, for a given root module. -/
def code (f : SourceFile) (root : String) : Code :=
  .texts [generatedHeader] ++ .blank ++ f.submodulesCode ++
    (if f.opensParent then .texts ["use super::*;"] else .nothing) ++
    (Imports.ofUses root f.uses).code ++ f.body

end SourceFile

/-- A method of a skeleton. -/
structure SkeletonMethod where
  name : String
  params : List (String × Spelling)
  returns : Spelling
deriving DecidableEq, Repr

/-- The skeleton of the implementation of a service. -/
structure Skeleton where
  api : String
  uses : List UsePath
  traitName : String
  methods : List SkeletonMethod
deriving DecidableEq, Repr

/-- A method as a template sees it. -/
def SkeletonMethod.toJson (m : SkeletonMethod) : Json :=
  .obj [("name", .str m.name),
    ("params", .arr (m.params.map fun (name, type) =>
      .obj [("name", .str name), ("ty", .str type.render)])),
    ("returns", .str m.returns.render)]

/-- A skeleton as its template sees it, for a given root module. -/
def Skeleton.toJson (s : Skeleton) (root : String) : Json :=
  .obj [("api", .str s.api), ("imports", Json.strings (Imports.ofUses root s.uses).paths),
    ("trait_name", .str s.traitName), ("struct_name", .str (s.traitName ++ "Impl")),
    ("methods", .arr (s.methods.map SkeletonMethod.toJson))]

/-- The list of the modules of a directory. -/
structure ModuleIndex where
  generated : Bool
  modules : List String
deriving DecidableEq, Repr

namespace ModuleIndex

/-- An index as its template sees it. -/
def toJson (i : ModuleIndex) : Json :=
  .obj [("generated", .bool i.generated), ("header", .str generatedHeader),
    ("modules", Json.strings i.modules)]

/-- The text of an index. -/
def text (i : ModuleIndex) : Except Fault String :=
  (Template.renderNamed Template.indexName i.toJson).mapError .template

/-- Puts a module into its place in a sorted list, after those equal to it. -/
def insertSorted (m : String) : List String → List String
  | [] => [m]
  | n :: ns => if m < n then m :: n :: ns else n :: insertSorted m ns

/-- The modules in ascending order. -/
def sorted (modules : List String) : List String :=
  modules.foldl (fun ms m => insertSorted m ms) []

end ModuleIndex

/-- What a file of a run holds. -/
inductive TreeContent where
  /-- A module that is the same in every run, by its lines. -/
  | support (lines : List String)
  | index (i : ModuleIndex)
  | source (f : SourceFile)
  | skeleton (s : Skeleton)

/-- A file of a run. -/
structure TreeFile where
  path : TreePath
  content : TreeContent

namespace TreeFile

/-- Whether every run writes the file anew. -/
def kind (f : TreeFile) : ArtifactKind :=
  match f.content with
  | .support _ | .source _ => .generated
  | .index i => if i.generated then .generated else .scaffolded
  | .skeleton _ => .scaffolded

/-- The text of a file, for a given root module. -/
def text (f : TreeFile) (root : String) : Except Fault String :=
  match f.content with
  | .support lines =>
    .ok (generatedHeader ++ "\n\n" ++ String.join (lines.map (· ++ "\n")))
  | .index i => i.text
  | .source s => .ok (s.code root).render
  | .skeleton s => (Template.renderNamed Template.serviceName (s.toJson root)).mapError .template

/-- The modules that a file says its directory has. -/
def listedModules (f : TreeFile) : List String :=
  match f.content with
  | .index i => i.modules
  | .source s => s.submodules
  | .support _ | .skeleton _ => []

end TreeFile

/-- A file as an artifact. -/
def Emission.artifact (e : Emission) (f : TreeFile) : Except Fault Artifact :=
  (f.text e.config.modulePath).map fun text => ⟨e.pathText f.path, text, f.kind⟩

end ApiCodegen
