import ApiCodegen.Signature.Validation
import ApiCodegen.Tree.Client
import ApiCodegen.Tree.Errors
import ApiCodegen.Tree.Service
import ApiCodegen.Tree.Skeletons
import ApiCodegen.Tree.Support

/-!
# Generation

A generator has a configuration that has been checked, a naming policy, and a parser of the language
that it generates. Its runs validate a description, emit the files of one `RunKind` in an order that
follows the description, and have the parser read what they have written.
-/

namespace ApiCodegen

namespace SourceText

/-- Whether a name runs into the mark of a raw name in what is left of a line, as in `call_r#match`.
Quoted texts and comments are passed over. -/
def runsIntoMark : (quoted : Bool) → List Char → Bool
  | _, [] => false
  | true, '\\' :: _ :: rest => runsIntoMark true rest
  | quoted, '"' :: rest => runsIntoMark (!quoted) rest
  | false, '/' :: '/' :: _ => false
  | false, c :: 'r' :: '#' :: rest =>
    c.isAlphanum || c == '_' || runsIntoMark false ('r' :: '#' :: rest)
  | quoted, _ :: rest => runsIntoMark quoted rest

/-- Whether the mark of a raw name stands only where a name begins. This is what a parser asks for
that a naming policy can miss. -/
def marksBeginNames (text : String) : Bool :=
  (Text.splitString (· == '\n') text).all fun line => !runsIntoMark false line.toList

end SourceText

namespace Emission

/-- The versions that a run emits: for models, those that have some. -/
def versions (e : Emission) : List Version :=
  e.spec.versions.filter fun v => e.run != .models || !v.models.isEmpty

/-- The modules of the generated root. -/
def rootModules (e : Emission) : List String :=
  ModuleIndex.sorted <|
    e.supportModules.map (·.name) ++ ["errors"] ++
      (if e.run = .service then ["routing"] else []) ++ e.versions.map e.versionModule

/-- The modules of a version. -/
def versionModules (e : Emission) (v : Version) : List String :=
  ModuleIndex.sorted <|
    (if v.models.isEmpty then [] else ["models"]) ++
      (if e.run = .models then [] else v.apis.map e.apiModule)

/-- The files of the APIs of a version. -/
def apiFiles (e : Emission) (v : Version) : Except Fault (List TreeFile) :=
  match e.run with
  | .models => .ok []
  | .client => v.apis.mapM (e.clientFile v)
  | .service => (v.apis.mapM (e.serviceFiles v)).map List.flatten

/-- The files of a version. -/
def versionFiles (e : Emission) (v : Version) : Except Fault (List TreeFile) := do
  let models ← e.modelFiles v
  let apis ← e.apiFiles v
  return ⟨.ofDirectory .generated [e.versionModule v], .index ⟨true, e.versionModules v⟩⟩ ::
    (models ++ apis)

/-- The index of the generated root. -/
def rootIndex (e : Emission) : TreeFile :=
  ⟨.ofDirectory .generated [], .index ⟨true, e.rootModules⟩⟩

/-- The files of a run. -/
def files (e : Emission) : Except Fault (List TreeFile) := do
  let errors ← e.errorFile
  let versions ← e.versions.mapM e.versionFiles
  let skeletons ← if e.run = .service then e.skeletonFiles else .ok []
  return e.rootIndex :: e.supportFiles ++ [errors] ++
    (if e.run = .service then [e.rootRouterFile] else []) ++ versions.flatten ++ skeletons

/-- The artifacts of a run. The first source text that the parser does not take is a fault. -/
def artifacts (e : Emission) (parses : String → Bool) : Except Fault ArtifactSet := do
  let files ← e.files
  let artifacts ← files.mapM e.artifact
  match artifacts.find? fun a => a.isSource && !parses a.content with
  | some a => .error (.invalidOutput a.path)
  | none => return ⟨artifacts⟩

end Emission

/-- A configuration with a naming policy and a parser. -/
structure Generator where
  config : Config
  naming : Naming
  /-- Whether the parser of the generated language takes a source text. -/
  parses : String → Bool

namespace Generator

/-- A generator with a configuration, if the configuration is consistent. Where no parser is at
hand, the marks of raw names are looked at. -/
def ofConfig (config : Config) (naming : Naming)
    (parses : String → Bool := SourceText.marksBeginNames) : Except Fault Generator :=
  match config.check with
  | .ok () => .ok ⟨config, naming, parses⟩
  | .error fault => .error (.config fault)

/-- Validates a description and generates code from it. -/
def generate (g : Generator) (spec : Spec) (run : RunKind) : Except Fault ArtifactSet := do
  spec.validate g.naming
  Emission.artifacts ⟨spec, g.config, g.naming, run⟩ g.parses

end Generator

end ApiCodegen
