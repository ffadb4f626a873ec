import ApiCodegen.Source.Line
import ApiCodegen.Source.Writer

/-!
# Code as a tree

`Code` is generated code before it is laid out: lines, comments, and blocks with code inside. A call
of the writer that goes in or back without a counterpart is a `Stray`. `Code.steps` lays code out.
What a line or the head of a block introduces is in scope as `Binding` says, so that the tree also
tells which introduction a use of a variable refers to.
-/

namespace ApiCodegen

/-- Where the variables that the head of a block introduces are in scope. -/
inductive Binding where
  /-- Inside the block only, as the pattern of a match. -/
  | inside
  /-- After the block only, as a variable whose value the block computes. -/
  | after
deriving DecidableEq, Repr

/-- A call of the writer that moves the margin and has no counterpart. -/
inductive Stray where
  /-- Writes a head with an open brace and goes in. -/
  | opening (head : Line)
  /-- Goes back and writes a line. -/
  | closing (close : Line)
  | indent
  | dedent
deriving Repr

namespace Stray

/-- The layout of a stray call. -/
def step : Stray → Step
  | opening head => .opening head.render
  | closing close => .closing close.render
  | indent => .indent
  | dedent => .dedent

/-- The line that is written with a stray call, if there is one. -/
def lines : Stray → List Line
  | opening l | closing l => [l]
  | indent | dedent => []

end Stray

/-- Generated code. -/
inductive Code where
  | nothing
  /-- A statement; what it introduces is in scope after it. -/
  | line (l : Line)
  /-- A line that is all the scope of what it introduces. -/
  | arm (l : Line)
  | blank
  | doc (text : Option String)
  /-- A head with an open brace, code inside it, and a closing line. -/
  | block (binding : Binding) (head : Line) (body : Code) (close : Line)
  /-- An expression over several lines; what its head introduces is in scope after it. -/
  | hanging (head : Line) (body : Code) (close : Option Line)
  | stray (s : Stray)
  | seq (first second : Code)
deriving Repr

namespace Code

instance : Append Code := ⟨seq⟩

/-- Pieces of code one after the other. -/
def all (codes : List Code) : Code :=
  codes.foldr seq nothing

/-- Lines of fixed text. -/
def texts (lines : List String) : Code :=
  all (lines.map fun s : String => line [.text s])

/-- A block that introduces nothing and ends in a brace. -/
def braces (head : Line) (body : Code) : Code :=
  block .inside head body ["\x7d"]

/-- The closing line of a hanging expression. -/
def closeSteps : Option Line → List Step
  | none => []
  | some l => [.line l.render]

/-- The layout of code. -/
def steps : Code → List Step
  | nothing => []
  | line l | arm l => [.line l.render]
  | blank => [.blank]
  | doc text => [.doc text]
  | block _ head body close => .opening head.render :: (body.steps ++ [.closing close.render])
  | hanging head body close =>
    .line head.render :: .indent :: (body.steps ++ .dedent :: closeSteps close)
  | stray s => [s.step]
  | seq first second => first.steps ++ second.steps

/-- The text of code that starts at the margin. -/
def render (c : Code) : String :=
  (Writer.empty.run c.steps).text

/-- The lines of code in order, without comments that describe. -/
def lines : Code → List Line
  | nothing | blank | doc _ => []
  | line l | arm l => [l]
  | block _ head body close => head :: (body.lines ++ [close])
  | hanging head body close => head :: (body.lines ++ close.toList)
  | stray s => s.lines
  | seq first second => first.lines ++ second.lines

/-- The types that code spells out. -/
def spellings (c : Code) : List Spelling :=
  c.lines.flatMap Line.spellings

/-- The names of imported items that code uses. -/
def importedNames (c : Code) : List String :=
  c.lines.flatMap Line.importedNames

/-- The names of the items that code declares. -/
def declared (c : Code) : List String :=
  c.lines.flatMap Line.declared

end Code

end ApiCodegen
