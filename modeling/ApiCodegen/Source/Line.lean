import ApiCodegen.Description.Operation
import ApiCodegen.Text.Literal
import ApiCodegen.Types.Resolved

/-!
# Lines of generated code

A line is made of pieces that remember what they are: an occurrence of a variable, a type, a
literal, the name of a declared item, or text copied out of the description. The text of a line
forgets the difference.
-/

namespace ApiCodegen

/-- Who introduces a variable. -/
inductive Owner where
  /-- The generator itself. -/
  | generated
  /-- A parameter of the operation. A form may have a field named as a parameter elsewhere. -/
  | parameter (location : ParamLocation)
  /-- The payload of the request. -/
  | body
deriving DecidableEq, Repr

/-- A variable of generated code. -/
structure Var where
  name : String
  owner : Owner
deriving DecidableEq, Repr

/-- A part of a line. -/
inductive Piece where
  /-- Fixed text. -/
  | text (s : String)
  /-- The occurrence that introduces a variable. -/
  | binds (v : Var)
  /-- An occurrence that uses a variable. -/
  | reads (v : Var)
  /-- A type. -/
  | spelled (t : Spelling)
  /-- A literal that denotes the text. -/
  | quoted (s : String)
  /-- The name of an item where it is declared. -/
  | declares (name : String)
  /-- The name of an item that is declared elsewhere. -/
  | item (name : String)
  /-- The name of an imported item. -/
  | imported (name : String)
  /-- Text of the description as it is. -/
  | copied (s : String)
deriving DecidableEq, Repr

instance : Coe String Piece := ⟨.text⟩

/-- The text of a piece. -/
def Piece.render : Piece → String
  | text s => s
  | binds v => v.name
  | reads v => v.name
  | spelled t => t.render
  | quoted s => Text.quote s
  | declares name => name
  | item name => name
  | imported name => name
  | copied s => s

/-- The occurrence that introduces a variable of the generator. -/
def Piece.newLocal (name : String) : Piece := .binds ⟨name, .generated⟩

/-- An occurrence that uses a variable of the generator. -/
def Piece.ofLocal (name : String) : Piece := .reads ⟨name, .generated⟩

/-- A line of code. -/
abbrev Line := List Piece

namespace Line

/-- The text of a line. -/
def render (l : Line) : String :=
  String.join (l.map Piece.render)

/-- Several lines as one, with a separator between them. -/
def joined (separator : String) : List Line → Line
  | [] => []
  | [l] => l
  | l :: ls => l ++ .text separator :: joined separator ls

/-- The types that a line spells out. -/
def spellings (l : Line) : List Spelling :=
  l.filterMap fun
    | .spelled t => some t
    | _ => none

/-- The names of imported items that a line uses. -/
def importedNames (l : Line) : List String :=
  l.filterMap fun
    | .imported name => some name
    | _ => none

/-- The names of the items that a line declares. -/
def declared (l : Line) : List String :=
  l.filterMap fun
    | .declares name => some name
    | _ => none

end Line

end ApiCodegen
