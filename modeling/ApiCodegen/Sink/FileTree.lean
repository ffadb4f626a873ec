import ApiCodegen.Text.Chars
import ApiCodegen.Text.Utf8

/-!
# Trees of files

A tree of directories and files below one directory, and the calls of an operating system that
change it. A call takes no path that is too long as a whole. It looks up the names of its path one
after the other, and the first name that cannot be followed decides how it fails.
-/

namespace ApiCodegen

/-- The names on the way to a file or directory. -/
abbrev FilePath := List String

/-- What a path leads to. -/
inductive FileEntry where
  | directory
  | file (content : String)
deriving DecidableEq, Repr

/-- How a call fails. -/
inductive IoFault where
  | notFound
  | alreadyExists
  | notADirectory
  | isADirectory
  | nameTooLong
  /-- A name holds the character that ends names. -/
  | nulCharacter
deriving DecidableEq, Repr

/-- The wording of a failure. -/
def IoFault.message : IoFault → String
  | notFound => "No such file or directory (os error 2)"
  | alreadyExists => "File exists (os error 17)"
  | notADirectory => "Not a directory (os error 20)"
  | isADirectory => "Is a directory (os error 21)"
  | nameTooLong => "File name too long (os error 36)"
  | nulCharacter => "file name contained an unexpected NUL byte"

/-- The entries below the directory at the top, which is always there. -/
structure FileTree where
  /-- How many bytes the path of the top has. -/
  topSize : Nat
  entries : List (FilePath × FileEntry)
deriving DecidableEq, Repr

namespace FileTree

/-- The empty directory whose path has `topSize` bytes. -/
def empty (topSize : Nat) : FileTree := ⟨topSize, []⟩

/-- The entry at a path. -/
def entry? (t : FileTree) (path : FilePath) : Option FileEntry :=
  if path.isEmpty then some .directory else t.entries.lookup path

/-- How many bytes a name may have. -/
def nameLimit : Nat := 255

/-- How many bytes a whole path may have. -/
def pathLimit : Nat := 4095

/-- How many bytes a whole path has, with a slash before each name below the top. -/
def pathSize (t : FileTree) (path : FilePath) : Nat :=
  path.foldl (fun size name => size + 1 + name.utf8ByteSize) t.topSize

/-- Follows the names `rest` from the directory at `here`. -/
def follow (t : FileTree) (here : FilePath) : FilePath → Except IoFault (Option FileEntry)
  | [] => .ok (t.entry? here)
  | name :: rest =>
    match t.entry? here with
    | none => .error .notFound
    | some (.file _) => .error .notADirectory
    | some .directory =>
      if name.utf8ByteSize > nameLimit then .error .nameTooLong
      else t.follow (here ++ [name]) rest

/-- Looks up a path; a last name that is free is no failure. -/
def locate (t : FileTree) (path : FilePath) : Except IoFault (Option FileEntry) :=
  if path.any fun name => name.toList.contains '\x00' then .error .nulCharacter
  else if t.pathSize path > pathLimit then .error .nameTooLong
  else t.follow [] path

/-- Whether a path leads to a directory. -/
def isDirectory (t : FileTree) (path : FilePath) : Bool :=
  match t.locate path with
  | .ok (some .directory) => true
  | _ => false

/-- Whether a path leads to anything. -/
def present (t : FileTree) (path : FilePath) : Bool :=
  match t.locate path with
  | .ok (some _) => true
  | _ => false

/-- The tree without the entry at a path. -/
def erase (t : FileTree) (path : FilePath) : FileTree :=
  { t with entries := t.entries.filter fun (p, _) => p != path }

/-- The tree with an entry at a path. -/
def set (t : FileTree) (path : FilePath) (entry : FileEntry) : FileTree :=
  { t with entries := (path, entry) :: (t.erase path).entries }

/-- Makes a directory. -/
def makeDirectory (t : FileTree) (path : FilePath) : Except IoFault FileTree := do
  match ← t.locate path with
  | none => return t.set path .directory
  | some _ => .error .alreadyExists

/-- Makes a directory where none is; one that is there already is no failure. -/
def ensureDirectory (t : FileTree) (path : FilePath) : Except IoFault FileTree :=
  match t.makeDirectory path with
  | .ok made => .ok made
  | .error fault => if t.isDirectory path then .ok t else .error fault

/-- Makes the last of the first `count` directories on the way to a path, and those before it as far
as they are missing. What was made before a failure stays. -/
def makeFirstDirectories (t : FileTree) (path : FilePath) : Nat → FileTree × Except IoFault Unit
  | 0 => (t, .ok ())
  | count + 1 =>
    let settle (t : FileTree) : FileTree × Except IoFault Unit :=
      match t.ensureDirectory (path.take (count + 1)) with
      | .ok made => (made, .ok ())
      | .error fault => (t, .error fault)
    match settle t with
    | (t, .error .notFound) =>
      match t.makeFirstDirectories path count with
      | (t, .ok ()) => settle t
      | failed => failed
    | settled => settled

/-- Makes a directory and all that lead to it. -/
def makeDirectories (t : FileTree) (path : FilePath) : FileTree × Except IoFault Unit :=
  t.makeFirstDirectories path path.length

/-- Writes a file. -/
def write (t : FileTree) (path : FilePath) (content : String) : Except IoFault FileTree := do
  match ← t.locate path with
  | some .directory => .error .isADirectory
  | some (.file _) | none => return t.set path (.file content)

/-- Puts a file in the place of another. -/
def rename (t : FileTree) (source target : FilePath) : Except IoFault FileTree := do
  match ← t.locate source, ← t.locate target with
  | some (.file content), some (.file _) | some (.file content), none =>
    return (t.erase source).set target (.file content)
  | some (.file _), some .directory => .error .isADirectory
  | some .directory, _ => .error .isADirectory
  | none, _ => .error .notFound

/-- Removes a file. -/
def remove (t : FileTree) (path : FilePath) : Except IoFault FileTree := do
  match ← t.locate path with
  | some (.file _) => return t.erase path
  | some .directory => .error .isADirectory
  | none => .error .notFound

/-- Puts a listed path into its place in a listing sorted by path. -/
def insertListed (path : String) (content : Option String) :
    List (String × Option String) → List (String × Option String)
  | [] => [(path, content)]
  | (p, c) :: rest =>
    if path < p then (path, content) :: (p, c) :: rest else (p, c) :: insertListed path content rest

/-- Every path with the content of its file, in the order of the paths. -/
def listing (t : FileTree) : List (String × Option String) :=
  t.entries.foldl (fun listed (path, entry) =>
    insertListed ("/".intercalate path)
      (match entry with
        | .directory => none
        | .file content => some content) listed) []

end FileTree

end ApiCodegen
