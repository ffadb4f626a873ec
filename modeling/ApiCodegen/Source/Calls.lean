import ApiCodegen.Source.Code

/-!
# Calls of the writer

An emitter makes one call after the other. The call that goes in and the one that goes back are two
calls, and nothing but the emitter keeps them together. `Code.ofCalls` finds the blocks that calls
make; a call without its counterpart is left as a `Stray`.
-/

namespace ApiCodegen

/-- A call of the writer. -/
inductive Call where
  /-- Writes code that is complete, such as a line or what another emitter makes. -/
  | code (c : Code)
  /-- Writes a head with an open brace and goes in. -/
  | opening (binding : Binding) (head : Line)
  /-- Goes back and writes a line. -/
  | closing (close : Line)
  | indent
  | dedent
  /-- Writes the line that an expression over several lines ends with. -/
  | ends (l : Line)
deriving Repr

namespace Call

/-- Writes a statement. -/
@[reducible] def line (l : Line) : Call := .code (.line l)

/-- Writes a line that is all the scope of what it introduces. -/
@[reducible] def arm (l : Line) : Call := .code (.arm l)

/-- Writes lines of fixed text. -/
@[reducible] def texts (lines : List String) : Call := .code (.texts lines)

/-- Writes pieces of code one after the other. -/
@[reducible] def each (codes : List Code) : Call := .code (.all codes)

/-- Writes an empty line. -/
@[reducible] def blank : Call := .code .blank

/-- Writes a documentation comment. -/
@[reducible] def doc (text : Option String) : Call := .code (.doc text)

/-- Goes back and writes a closing brace. -/
@[reducible] def brace : Call := .closing ["\x7d"]

end Call

/-- What has been opened and not been closed. -/
inductive Opened where
  | block (binding : Binding) (head : Line)
  /-- A line that the lines after it belong to. -/
  | hanging (head : Line)
deriving Repr

/-- Code in the making. -/
structure Draft where
  /-- What is complete since the last opening; none where there is nothing. -/
  done : Option Code
  /-- What is open, the innermost first, each with what is complete before it. -/
  pending : List (Opened × Option Code)
deriving Repr

namespace Draft

/-- Code behind what is complete. -/
def append : Option Code → Code → Option Code
  | none, c => some c
  | some before, c => some (before ++ c)

/-- Makes one call. -/
def call : Draft → Call → Draft
  | ⟨done, pending⟩, .code c => ⟨append done c, pending⟩
  | ⟨done, pending⟩, .opening binding head => ⟨none, (.block binding head, done) :: pending⟩
  | ⟨done, (.block binding head, before) :: pending⟩, .closing close =>
    ⟨append before (.block binding head (done.getD .nothing) close), pending⟩
  | ⟨done, pending⟩, .closing close => ⟨append done (.stray (.closing close)), pending⟩
  | ⟨some (.line head), pending⟩, .indent => ⟨none, (.hanging head, none) :: pending⟩
  | ⟨some (.seq before (.line head)), pending⟩, .indent =>
    ⟨none, (.hanging head, some before) :: pending⟩
  | ⟨done, pending⟩, .indent => ⟨append done (.stray .indent), pending⟩
  | ⟨done, (.hanging head, before) :: pending⟩, .dedent =>
    ⟨append before (.hanging head (done.getD .nothing) none), pending⟩
  | ⟨done, pending⟩, .dedent => ⟨append done (.stray .dedent), pending⟩
  | ⟨some (.hanging head body none), pending⟩, .ends l =>
    ⟨some (.hanging head body (some l)), pending⟩
  | ⟨some (.seq before (.hanging head body none)), pending⟩, .ends l =>
    ⟨some (before ++ .hanging head body (some l)), pending⟩
  | ⟨done, pending⟩, .ends l => ⟨append done (.line l), pending⟩

/-- The calls of an opening whose counterpart has not come. -/
def loose : Opened → Code
  | .block _ head => .stray (.opening head)
  | .hanging head => .line head ++ .stray .indent

/-- The code with all that is still open left as it is. -/
def close (done : Option Code) : List (Opened × Option Code) → Code
  | [] => done.getD .nothing
  | (opened, before) :: pending =>
    close (append before (loose opened ++ done.getD .nothing)) pending

/-- The code that has been written in the end. -/
def finish (d : Draft) : Code := close d.done d.pending

section Evaluation

variable {done before : Option Code} {pending : List (Opened × Option Code)} {a c body : Code}
  {binding : Binding} {head l : Line}

@[simp] theorem append_none : append none c = some c := rfl

@[simp] theorem append_some : append (some a) c = some (a ++ c) := rfl

@[simp] theorem finish_mk : finish ⟨done, []⟩ = done.getD .nothing := rfl

@[simp] theorem call_code : call ⟨done, pending⟩ (.code c) = ⟨append done c, pending⟩ := rfl

@[simp] theorem call_opening :
    call ⟨done, pending⟩ (.opening binding head) =
      ⟨none, (.block binding head, done) :: pending⟩ := rfl

@[simp] theorem call_closing :
    call ⟨done, (.block binding head, before) :: pending⟩ (.closing l) =
      ⟨append before (.block binding head (done.getD .nothing) l), pending⟩ := rfl

@[simp high] theorem call_brace :
    call ⟨done, (.block .inside head, before) :: pending⟩ (.closing ["\x7d"]) =
      ⟨append before (.braces head (done.getD .nothing)), pending⟩ := rfl

@[simp] theorem call_indent_line :
    call ⟨some (.line head), pending⟩ .indent = ⟨none, (.hanging head, none) :: pending⟩ := rfl

@[simp] theorem call_indent :
    call ⟨some (a ++ .line head), pending⟩ .indent =
      ⟨none, (.hanging head, some a) :: pending⟩ := rfl

@[simp] theorem call_dedent :
    call ⟨done, (.hanging head, before) :: pending⟩ .dedent =
      ⟨append before (.hanging head (done.getD .nothing) none), pending⟩ := rfl

@[simp] theorem call_ends_hanging :
    call ⟨some (.hanging head body none), pending⟩ (.ends l) =
      ⟨some (.hanging head body (some l)), pending⟩ := rfl

@[simp] theorem call_ends :
    call ⟨some (a ++ .hanging head body none), pending⟩ (.ends l) =
      ⟨some (a ++ .hanging head body (some l)), pending⟩ := rfl

end Evaluation

end Draft

namespace Code

/-- The code that calls write, in blocks where the calls go in and back. -/
def ofCalls (calls : List Call) : Code :=
  (calls.foldl Draft.call ⟨none, []⟩).finish

/-- Calls are made one after the other; on written out calls this finds the blocks. -/
@[simp] theorem ofCalls_eq_finish (calls : List Call) :
    ofCalls calls = (calls.foldl Draft.call ⟨none, []⟩).finish := rfl

end Code

end ApiCodegen
