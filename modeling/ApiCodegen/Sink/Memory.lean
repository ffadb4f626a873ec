import ApiCodegen.Sink.Artifact

/-!
# Artifacts in memory

A store of texts by path that accepts artifacts: a generated one always, a scaffold only where its
path is free.
-/

namespace ApiCodegen

/-- The texts by path, in the order of the paths. -/
structure MemoryStore where
  files : List (String × String)
deriving DecidableEq, Repr

namespace MemoryStore

/-- Nothing stored. -/
def empty : MemoryStore := ⟨[]⟩

/-- The text at a path. -/
def get? (s : MemoryStore) (path : String) : Option String := s.files.lookup path

/-- Puts a text into its place in a list of files. -/
def put (path content : String) : List (String × String) → List (String × String)
  | [] => [(path, content)]
  | (p, c) :: rest =>
    if path < p then (path, content) :: (p, c) :: rest
    else if path = p then (path, content) :: rest
    else (p, c) :: put path content rest

/-- Stores a text at a path. -/
def insert (s : MemoryStore) (path content : String) : MemoryStore := ⟨put path content s.files⟩

/-- Accepts an artifact; tells whether it was stored. -/
def acceptOne (s : MemoryStore) (a : Artifact) : MemoryStore × Bool :=
  if a.isScaffold && (s.get? a.path).isSome then (s, false)
  else (s.insert a.path a.content, true)

/-- Accepts artifacts in order and counts those stored. -/
def accept (s : MemoryStore) : List Artifact → MemoryStore × Nat
  | [] => (s, 0)
  | a :: as =>
    let (s, stored) := s.acceptOne a
    let (s, count) := s.accept as
    (s, count + if stored then 1 else 0)

end MemoryStore

end ApiCodegen
