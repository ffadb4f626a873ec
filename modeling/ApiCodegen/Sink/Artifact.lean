import ApiCodegen.Json.Record

/-!
# Artifacts

The files that a run produces, in the order in which they are emitted. A scaffold is written once
and then belongs to its user; any other artifact is written by every run.
-/

namespace ApiCodegen

/-- What becomes of an artifact whose path is taken. -/
inductive ArtifactKind where
  /-- It takes the place of what is there. -/
  | generated
  /-- It is left out. -/
  | scaffolded
deriving DecidableEq, Repr

namespace ArtifactKind

/-- All kinds. -/
def all : List ArtifactKind := [generated, scaffolded]

/-- The name of a kind. -/
def name : ArtifactKind → String
  | generated => "generated"
  | scaffolded => "scaffolded"

/-- Reads a kind. -/
def read (j : Json) : Option ArtifactKind := do
  let (name, content) ← Json.choice? j
  if Json.noContent content then all.find? (·.name == name) else none

end ArtifactKind

/-- A file. -/
structure Artifact where
  /-- The path below the output root, with slashes. -/
  path : String
  content : String
  kind : ArtifactKind
deriving DecidableEq, Repr

namespace Artifact

/-- Whether the artifact is written only once. -/
def isScaffold (a : Artifact) : Bool := a.kind == .scaffolded

/-- Whether the artifact is source text, by its path. -/
def isSource (a : Artifact) : Bool := ".rs".toList.isSuffixOf a.path.toList

/-- Writes an artifact. -/
def toJson (a : Artifact) : Json :=
  .obj [("path", .str a.path), ("content", .str a.content), ("kind", .str a.kind.name)]

/-- Reads an artifact. -/
def read (j : Json) : Option Artifact := do
  match ← Json.record? ["path", "content", "kind"] j with
  | [path, content, kind] =>
    return ⟨← Json.needed Json.string? path, ← Json.needed Json.string? content,
      ← Json.needed ArtifactKind.read kind⟩
  | _ => none

end Artifact

/-- The artifacts of a run. -/
structure ArtifactSet where
  files : List Artifact
deriving DecidableEq, Repr

namespace ArtifactSet

/-- No artifacts. -/
def empty : ArtifactSet := ⟨[]⟩

/-- Adds an artifact at the end. -/
def add (s : ArtifactSet) (a : Artifact) : ArtifactSet := ⟨s.files ++ [a]⟩

/-- Adds the artifacts of another set at the end. -/
def merge (s t : ArtifactSet) : ArtifactSet := ⟨s.files ++ t.files⟩

/-- The first artifact with a path. -/
def get? (s : ArtifactSet) (path : String) : Option Artifact :=
  s.files.find? (·.path == path)

/-- Writes a set. -/
def toJson (s : ArtifactSet) : Json := .obj [("files", .arr (s.files.map Artifact.toJson))]

/-- Reads a set. -/
def read (j : Json) : Option ArtifactSet := do
  match ← Json.record? ["files"] j with
  | [files] => return ⟨← Json.needed (Json.list? Artifact.read) files⟩
  | _ => none

end ArtifactSet

end ApiCodegen
