import ApiCodegen.Sink.Artifact
import ApiCodegen.Sink.FileTree

/-!
# Artifacts in a directory

A sink that writes artifacts below a root directory. All paths are checked before anything is
written; then the directories are made, and the files are written one after the other. Unless told
otherwise a file is first written beside its place and then put there.
-/

namespace ApiCodegen

/-- Why a sink fails. -/
inductive SinkFault where
  /-- The path is empty or not relative. -/
  | invalidPath (path : String)
  /-- A segment of the path is empty or leads elsewhere. -/
  | invalidComponent (path : String)
  /-- A call of the operating system failed. -/
  | io (action : String) (path : String) (fault : IoFault)
deriving DecidableEq, Repr

namespace SinkFault

/-- The wording of a failure. -/
def message : SinkFault → String
  | invalidPath path => "Invalid path: " ++ path
  | invalidComponent path => "Path contains invalid components: " ++ path
  | io action path fault => "Failed to " ++ action ++ " " ++ path ++ ": " ++ fault.message

/-- Whether a path was refused. -/
def isInvalidPath : SinkFault → Bool
  | invalidPath _ | invalidComponent _ => true
  | io _ _ _ => false

end SinkFault

/-- The artifacts that were written and those that were not. -/
structure SinkReport where
  written : List String
  skipped : List String
deriving DecidableEq, Repr

/-- A sink below a root directory. -/
structure DirectorySink where
  /-- The name of the directory in messages. -/
  rootName : String
  /-- The root below the top of the tree. -/
  root : FilePath
  atomic : Bool
deriving DecidableEq, Repr

namespace DirectorySink

/-- The segments of a path between slashes and backslashes. -/
def segments (path : String) : List String :=
  Text.splitString (fun c => c == '/' || c == '\\') path

/-- Whether a segment is empty or leads elsewhere. -/
def isBadSegment (segment : String) : Bool :=
  segment == "" || segment == "." || segment == ".."

/-- Checks that a path leads to a place below the root. -/
def checkPath (path : String) : Except SinkFault Unit :=
  let cs := path.toList
  if cs.isEmpty || cs.head? == some '/' || cs.head? == some '\\' || cs.contains ':' then
    .error (.invalidPath path)
  else if (segments path).any isBadSegment then .error (.invalidComponent path)
  else .ok ()

/-- The place of an artifact in the tree. Only slashes part directories. -/
def place (s : DirectorySink) (path : String) : FilePath :=
  s.root ++ Text.splitString (· == '/') path

/-- The text of a place in messages. -/
def display (s : DirectorySink) (path : FilePath) : String :=
  "/".intercalate (s.rootName :: path)

/-- Names the action and the place of a failed call. -/
def during {α : Type} (s : DirectorySink) (action : String) (path : FilePath)
    (result : Except IoFault α) : Except SinkFault α :=
  result.mapError (.io action (s.display path))

/-- What is added to the name of a file while it is written. -/
def temporarySuffix : String := ".tmp"

/-- The place beside a file where it is written first. -/
def temporary (path : FilePath) : FilePath :=
  path.dropLast ++ [path.getLastD "" ++ temporarySuffix]

/-- Whether one path comes before another, name by name. -/
def pathBefore : FilePath → FilePath → Bool
  | [], [] => false
  | [], _ :: _ => true
  | _ :: _, [] => false
  | a :: as, b :: bs => a < b || (a == b && pathBefore as bs)

/-- Puts a directory into its place in a list sorted by `pathBefore`, once. -/
def insertDirectory (path : FilePath) : List FilePath → List FilePath
  | [] => [path]
  | p :: ps =>
    if pathBefore path p then path :: p :: ps
    else if path = p then p :: ps
    else p :: insertDirectory path ps

/-- The directories of the artifacts, each once and in order. -/
def directories (s : DirectorySink) (files : List Artifact) : List FilePath :=
  files.foldl (fun dirs a => insertDirectory (s.place a.path).dropLast dirs) []

/-- A tree, with the failure that ended the changes to it. -/
abbrev Outcome (α : Type) := FileTree × Except SinkFault α

/-- Makes directories up to the first failure. -/
def makeAll (s : DirectorySink) (t : FileTree) : List FilePath → Outcome Unit
  | [] => (t, .ok ())
  | dir :: dirs =>
    match t.makeDirectories dir with
    | (t, .ok ()) => s.makeAll t dirs
    | (t, .error fault) => (t, s.during "create directory" dir (.error fault))

/-- Writes one file. What was written beside its place stays there if it cannot be put there. -/
def writeFile (s : DirectorySink) (t : FileTree) (path : FilePath) (content : String) :
    Outcome Unit :=
  if s.atomic then
    let aside := temporary path
    match s.during "create" aside (t.write aside content) with
    | .error fault => (t, .error fault)
    | .ok written =>
      match s.during "rename" aside (written.rename aside path) with
      | .error fault => (written, .error fault)
      | .ok renamed => (renamed, .ok ())
  else
    match s.during "write" path (t.write path content) with
    | .error fault => (t, .error fault)
    | .ok written => (written, .ok ())

/-- Writes artifacts in order up to the first failure. -/
def writeAll (s : DirectorySink) (t : FileTree) : List Artifact → Outcome SinkReport
  | [] => (t, .ok ⟨[], []⟩)
  | a :: as =>
    let path := s.place a.path
    if a.isScaffold && t.present path then
      let (t, rest) := s.writeAll t as
      (t, rest.map fun r => { r with skipped := a.path :: r.skipped })
    else
      match s.writeFile t path a.content with
      | (t, .error fault) => (t, .error fault)
      | (t, .ok ()) =>
        let (t, rest) := s.writeAll t as
        (t, rest.map fun r => { r with written := a.path :: r.written })

/-- Writes artifacts below the root. -/
def accept (s : DirectorySink) (t : FileTree) (files : List Artifact) : Outcome SinkReport :=
  match files.forM fun a => checkPath a.path with
  | .error fault => (t, .error fault)
  | .ok () =>
    match s.makeAll t (s.directories files) with
    | (t, .error fault) => (t, .error fault)
    | (t, .ok ()) => s.writeAll t files

end DirectorySink

end ApiCodegen
