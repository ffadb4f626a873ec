import ApiCodegen.Signature.Operation

/-!
# Dispatch of responses

The client finds the branch of a received status among the responses of the operation, then in the
error taxonomy; the first that fits is taken. The service has one arm for each response. Branches
and arms are data before they are code.
-/

namespace ApiCodegen

/-- An error response of the taxonomy. -/
structure ErrorVariant where
  name : String
  status : String
  code : Nat
  type : ResolvedType
  /-- Whether every description has this error. -/
  standard : Bool
  description : Option String
deriving DecidableEq, Repr

namespace ErrorVariant

/-- Resolves one error response. -/
def ofResponse (scope : Scope) (naming : Naming) (standard : Bool) (r : ErrorResponse) :
    Except Fault ErrorVariant :=
  let here := (Location.root.child "http_errors").child r.status
  match statusCode? r.status with
  | none => .error (.unknownStatus r.status here)
  | some code => do
    let type ← scope.resolve here r.type
    return ⟨naming.variantName r.status, r.status, code, type, standard, r.description⟩

/-- The error taxonomy, the standard errors first. -/
def ofErrors (naming : Naming) (e : HttpErrors) : Except Fault (List ErrorVariant) := do
  let standard ← HttpErrors.standardResponses.mapM (ofResponse (.ofErrors e) naming true)
  let own ← e.responses.mapM (ofResponse (.ofErrors e) naming false)
  return standard ++ own

end ErrorVariant

/-- How the payload of a response is handled. -/
inductive PayloadKind where
  | empty
  | text
  | json
deriving DecidableEq, Repr

/-- The kind of a payload. -/
def Payload.kind : Payload → PayloadKind
  | empty => .empty
  | text => .text
  | json _ => .json

/-- The name of a kind of payload. -/
def PayloadKind.name : PayloadKind → String
  | empty => "empty"
  | text => "text"
  | json => "json"

/-- What stands for a response in code. -/
inductive Outcome where
  /-- The value of the only response. -/
  | bare
  | variant (enumName name : String)
  | failure (name : String)
deriving DecidableEq, Repr

/-- A branch of the client. -/
structure ClientBranch where
  code : Nat
  payload : Payload
  outcome : Outcome
deriving DecidableEq, Repr

/-- An arm of the service. -/
structure ServiceArm where
  outcome : Outcome
  code : Nat
  payload : PayloadKind
deriving DecidableEq, Repr

/-- What stands for a response of an operation. -/
def Returns.outcome (returns : Returns) (v : ResponseVariant) : Outcome :=
  match returns with
  | single _ => .bare
  | multiple enumName _ => .variant enumName v.name

namespace ClientBranch

/-- The branches of the responses, then those of the taxonomy. -/
def ofSignature (s : Signature) (errors : List ErrorVariant) : List ClientBranch :=
  s.returns.variants.map (fun v => ⟨v.code, v.payload, s.returns.outcome v⟩) ++
    errors.map fun e => ⟨e.code, .json e.type, .failure e.name⟩

/-- The branch that a status takes; none where the status is not expected. -/
def select (branches : List ClientBranch) (status : Nat) : Option ClientBranch :=
  branches.find? (·.code == status)

end ClientBranch

/-- The arms of the service. -/
def ServiceArm.ofSignature (s : Signature) : List ServiceArm :=
  s.returns.variants.map fun v => ⟨s.returns.outcome v, v.code, v.payload.kind⟩

/-- An outcome around the variable with the value, if there is a value. -/
def Outcome.line (value : Option Piece) : Outcome → Line
  | bare => [value.getD (.text "()")]
  | variant enumName name =>
    [.spelled (.named "" enumName), .text "::", .item name] ++
      match value with
      | none => []
      | some value => [.text "(", value, .text ")"]
  | failure name =>
    [.text "ClientError::", .item name] ++
      match value with
      | none => []
      | some value => [.text "(", value, .text ")"]

namespace ClientBranch

/-- The variable with a value that was read. -/
def valueVar : Outcome → Var
  | .failure _ => ⟨"error", .generated⟩
  | .bare | .variant _ _ => ⟨"result", .generated⟩

/-- The statement that reads the payload. -/
def readLine (naming : Naming) (b : ClientBranch) : Line :=
  let response : Piece := .ofLocal "http_response"
  match b.payload with
  | .empty => [.text "response::empty(", response, .text ")?;"]
  | .text =>
    [.text "let ", .binds (valueVar b.outcome), .text " = response::text(", response, .text ")?;"]
  | .json type =>
    [.text "let ", .binds (valueVar b.outcome), .text ": ", .spelled (type.spell naming .inApi),
      .text " = response::json(", response, .text ")?;"]

/-- The variable with the value of a payload, if it has one. -/
def value? (b : ClientBranch) : Option Piece :=
  match b.payload with
  | .empty => none
  | .text | .json _ => some (.reads (valueVar b.outcome))

/-- The statement that ends the branch. -/
def returnLine (b : ClientBranch) : Line :=
  let wrapper := match b.outcome with
    | .failure _ => "return Err("
    | .bare | .variant _ _ => "return Ok("
  .text wrapper :: b.outcome.line b.value? ++ [.text ");"]

/-- The code of one branch. -/
def branchCode (naming : Naming) (b : ClientBranch) : Code :=
  .ofCalls [
    .opening .inside [.text "if ", .ofLocal "status", .text (" == " ++ toString b.code)],
    .line (b.readLine naming),
    .line b.returnLine,
    .brace]

/-- The code of all branches and of the status that none of them takes. -/
def dispatch (naming : Naming) (branches : List ClientBranch) : Code :=
  .all (branches.map (branchCode naming)) ++
    .line [.text "Err(ClientError::UnexpectedStatus(", .ofLocal "status", .text "))"]

end ClientBranch

namespace ServiceArm

/-- The call that writes a response, on the variable with its value. -/
def writerLine (a : ServiceArm) : Line :=
  let log : Piece := .ofLocal "log_fields"
  let value : Piece := .ofLocal "response"
  let code := toString a.code
  match a.payload with
  | .empty => [.text "respond::empty(&", log, .text (", " ++ code ++ ")")]
  | .text => [.text "respond::text(&", log, .text (", " ++ code ++ ", "), value, .text ")"]
  | .json => [.text "respond::json(&", log, .text (", " ++ code ++ ", &"), value, .text ")"]

/-- The variable that the pattern of an arm introduces. -/
def pattern? (a : ServiceArm) : Option Piece :=
  match a.payload with
  | .empty => none
  | .text | .json => some (.newLocal "response")

/-- The code of one arm. -/
def line (a : ServiceArm) : Line :=
  .text "Ok(" :: a.outcome.line a.pattern? ++ .text ") => " :: a.writerLine ++ [.text ","]

/-- The arm of a failed call. -/
def errorLine : Line :=
  let error : Var := ⟨"error", .generated⟩
  [.text "Err(", .binds error, .text ") => errors::respond_error(&",
    .ofLocal "log_fields", .text ", ", .reads error, .text "),"]

/-- The code of all arms over the expression that calls the service. -/
def dispatch (call : Line) (arms : List ServiceArm) : Code :=
  .ofCalls [
    .opening .inside (.text "match " :: call),
    .each (arms.map fun a => .arm a.line),
    .arm errorLine,
    .brace]

end ServiceArm

end ApiCodegen
