import ApiCodegen.Source.Code

/-!
# Imports

A set of import paths, written in the order of their texts. `UsePath` is a path before it is text:
it knows the modules of the generated tree that it goes through.
-/

namespace ApiCodegen

/-- What an import takes from a module. -/
inductive UseTarget where
  /-- The module itself. -/
  | module
  | name (s : String)
  | names (ss : List String)
  | everything
deriving DecidableEq, Repr

/-- The path of an import. -/
inductive UsePath where
  /-- A path outside the generated tree. -/
  | external (path : String)
  /-- A module below the generated root, and what is taken from it. -/
  | internal (modules : List String) (target : UseTarget)
deriving DecidableEq, Repr

/-- What follows the module of an import. -/
def UseTarget.render : UseTarget → String
  | module => ""
  | name s => "::" ++ s
  | names ss => "::\x7b" ++ ", ".intercalate ss ++ "\x7d"
  | everything => "::*"

/-- A path through modules. -/
def modulePath (modules : List String) : String :=
  "::".intercalate modules

/-- The text of a path under a given root. -/
def UsePath.render (root : String) : UsePath → String
  | external path => path
  | internal modules target => modulePath (root :: modules) ++ target.render

/-- The texts of import paths in ascending order, each once. -/
structure Imports where
  paths : List String
deriving DecidableEq, Repr

namespace Imports

/-- No imports. -/
def empty : Imports := ⟨[]⟩

/-- Puts a path into its place. -/
def insertPath (path : String) : List String → List String
  | [] => [path]
  | p :: ps =>
    if path < p then path :: p :: ps
    else if path = p then p :: ps
    else p :: insertPath path ps

/-- Adds a path. -/
def insert (i : Imports) (path : String) : Imports := ⟨insertPath path i.paths⟩

/-- Adds a path under a condition. -/
def insertIf (i : Imports) (condition : Bool) (path : String) : Imports :=
  if condition then i.insert path else i

/-- The set of the given paths. -/
def ofList (paths : List String) : Imports :=
  paths.foldl insert empty

/-- The set of the given paths under a root. -/
def ofUses (root : String) (uses : List UsePath) : Imports :=
  ofList (uses.map (·.render root))

/-- The declarations, and a blank line after them. -/
def code (i : Imports) : Code :=
  if i.paths.isEmpty then .nothing
  else .all (i.paths.map fun path : String => .line [.text ("use " ++ path ++ ";")]) ++ .blank

end Imports

/-- A path that is imported under a condition. -/
def useIf (condition : Bool) (path : UsePath) : List UsePath :=
  if condition then [path] else []

end ApiCodegen
