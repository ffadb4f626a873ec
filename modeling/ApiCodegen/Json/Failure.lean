/-!
# Failures of reading a document

Reading stops at the first problem in document order. A problem of shape knows the path of the value
at which it arose; malformed text and an early end have no path.
-/

namespace ApiCodegen.Json

/-- One step from a value to a part of it. -/
inductive Step where
  /-- A field, a map entry or an enum variant. -/
  | name (s : String)
  /-- A list position. -/
  | position (i : Nat)
deriving DecidableEq, Repr

/-- The first problem of a document. -/
inductive Failure where
  /-- The document ends inside a value. -/
  | early
  /-- The text is no JSON, or holds what the place cannot take in any shape. -/
  | malformed
  /-- The value at `path` has the wrong shape. -/
  | mismatch (path : List Step)
  /-- The record at `path` lacks `field`. -/
  | missing (path : List Step) (field : String)
deriving DecidableEq, Repr

/-- The same failure seen from one level further out. -/
def Failure.under (step : Step) : Failure → Failure
  | .early => .early
  | .malformed => .malformed
  | .mismatch path => .mismatch (step :: path)
  | .missing path field => .missing (step :: path) field

/-- The steps after the first one, each name after a dot. -/
def stepsText : List Step → String
  | [] => ""
  | .name s :: rest => "." ++ s ++ stepsText rest
  | .position i :: rest => "[" ++ toString i ++ "]" ++ stepsText rest

/-- The text of a path; the document itself is a lone dot. -/
def pathText : List Step → String
  | [] => "."
  | .name s :: rest => s ++ stepsText rest
  | .position i :: rest => "[" ++ toString i ++ "]" ++ stepsText rest

/-- The path that a failure of shape names. -/
def Failure.path? : Failure → Option String
  | .early | .malformed => none
  | .mismatch path => some (pathText path)
  | .missing path field =>
    let parent := pathText path
    some (if parent.isEmpty || parent == "." then field else parent ++ "." ++ field)

end ApiCodegen.Json
