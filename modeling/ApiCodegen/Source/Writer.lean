import ApiCodegen.Text.Chars

/-!
# Writing indented text

The writer keeps the text written so far and a level of indentation. A level is four blanks wide, an
empty line has none, and the level never falls below zero.
-/

namespace ApiCodegen

/-- One action of the writer. -/
inductive Step where
  | line (text : String)
  | blank
  /-- Writes the text with an open brace and indents. -/
  | opening (text : String)
  /-- Goes back one level and writes the text. -/
  | closing (text : String)
  | indent
  | dedent
  /-- Writes a documentation comment; none where there is no text. -/
  | doc (text : Option String)
deriving DecidableEq, Repr

/-- The text written so far and the level of indentation. -/
structure Writer where
  text : String
  level : Nat
deriving DecidableEq, Repr

/-- The lines of a documentation comment. Blanks around the whole and at the ends of lines are
dropped. -/
def docLines (text : String) : List String :=
  match Text.trim text.toList with
  | [] => []
  | cs =>
    (Text.split (· == '\n') cs).map fun line =>
      match Text.dropTrailing Text.isBlank line with
      | [] => "///"
      | kept => "/// " ++ String.ofList kept

namespace Writer

/-- Nothing written. -/
def empty : Writer := ⟨"", 0⟩

/-- What precedes the text of a line. -/
def margin (level : Nat) : String :=
  String.ofList (List.replicate (4 * level) ' ')

/-- Writes a line. -/
def line (w : Writer) (text : String) : Writer :=
  if text.isEmpty then { w with text := w.text ++ "\n" }
  else { w with text := w.text ++ margin w.level ++ text ++ "\n" }

/-- Goes one level in. -/
def indent (w : Writer) : Writer := { w with level := w.level + 1 }

/-- Goes one level out. -/
def dedent (w : Writer) : Writer := { w with level := w.level - 1 }

/-- Takes one action. -/
def step (w : Writer) : Step → Writer
  | .line text => w.line text
  | .blank => w.line ""
  | .opening text => (w.line (text ++ " \x7b")).indent
  | .closing text => w.dedent.line text
  | .indent => w.indent
  | .dedent => w.dedent
  | .doc none => w
  | .doc (some text) => (docLines text).foldl line w

/-- Takes actions in order. -/
def run (w : Writer) (steps : List Step) : Writer :=
  steps.foldl step w

end Writer

end ApiCodegen
