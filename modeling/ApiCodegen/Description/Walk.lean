import ApiCodegen.Description.Spec

/-!
# Walks over a description

A walk visits the parts of a description, parents before children and siblings in the order of their
declaration, and every type down to its innermost name. An `Interest` says which kinds of part are
reported; it has no influence on what is visited.
-/

namespace ApiCodegen

/-- A part met on a walk. -/
inductive Visit where
  | version (v : Version)
  | api (a : Api)
  | operation (o : Operation)
  | param (location : ParamLocation) (p : Param)
  | response (o : Operation) (r : Response)
  | model (m : Model)
  | type (t : TypeExpr)
deriving DecidableEq, Repr

/-- The kinds of part that a walk reports. -/
structure Interest where
  versions : Bool
  apis : Bool
  operations : Bool
  params : Bool
  responses : Bool
  models : Bool
  types : Bool
deriving DecidableEq, Repr

namespace Interest

/-- No kind of part. -/
def none : Interest := ⟨false, false, false, false, false, false, false⟩

/-- Every kind of part. -/
def all : Interest := ⟨true, true, true, true, true, true, true⟩

/-- Types and nothing else. -/
def onlyTypes : Interest := { none with types := true }

/-- Parameters and nothing else. -/
def onlyParams : Interest := { none with params := true }

/-- Operations and nothing else. -/
def onlyOperations : Interest := { none with operations := true }

/-- Responses and nothing else. -/
def onlyResponses : Interest := { none with responses := true }

/-- Whether the kind of a part is reported. -/
def includes (i : Interest) : Visit → Bool
  | .version _ => i.versions
  | .api _ => i.apis
  | .operation _ => i.operations
  | .param _ _ => i.params
  | .response _ _ => i.responses
  | .model _ => i.models
  | .type _ => i.types

/-- The report of one part. -/
def report (i : Interest) (v : Visit) : List Visit :=
  if i.includes v then [v] else []

/-- The description of an interest by the names of its callbacks. -/
def describe (i : Interest) : String :=
  let entries := [("on_version", i.versions), ("on_api", i.apis), ("on_operation", i.operations),
    ("on_param", i.params), ("on_response", i.responses), ("on_model", i.models),
    ("on_type", i.types)]
  let texts := entries.map fun (name, on) => name ++ ": " ++ if on then "true" else "false"
  "Walker \x7b " ++ ", ".intercalate texts ++ " \x7d"

end Interest

/-- A type, then the types inside it. -/
def TypeExpr.walk (i : Interest) : TypeExpr → List Visit
  | named name => i.report (.type (.named name))
  | nullable inner => i.report (.type (.nullable inner)) ++ inner.walk i
  | array inner => i.report (.type (.array inner)) ++ inner.walk i
  | map inner => i.report (.type (.map inner)) ++ inner.walk i

/-- A model, then the types of its fields or alternatives. -/
def Model.walk (i : Interest) (m : Model) : List Visit :=
  i.report (.model m) ++ m.parts.flatMap (·.type.walk i)

/-- Models in order. -/
def walkModels (i : Interest) (models : List Model) : List Visit :=
  models.flatMap (·.walk i)

namespace Operation

/-- A parameter, then its type. -/
def walkParam (i : Interest) : ParamLocation × Param → List Visit
  | (location, p) => i.report (.param location p) ++ p.type.walk i

/-- The type of a JSON payload. -/
def walkBody (i : Interest) : RequestBody → List Visit
  | .json type _ => type.walk i
  | .empty | .rawString _ | .formData _ | .formUrlEncoded _ => []

/-- A response, then the type of its JSON payload. -/
def walkResponse (i : Interest) (o : Operation) (r : Response) : List Visit :=
  i.report (.response o r) ++
    match r.body with
    | .json type => type.walk i
    | .empty | .rawString => []

/-- An operation, then its parameters, its payload and its responses. -/
def walk (i : Interest) (o : Operation) : List Visit :=
  i.report (.operation o) ++ o.params.flatMap (walkParam i) ++ walkBody i o.body ++
    o.responses.flatMap (o.walkResponse i)

end Operation

/-- An API, then its operations. -/
def Api.walk (i : Interest) (a : Api) : List Visit :=
  i.report (.api a) ++ a.operations.flatMap (·.walk i)

/-- A version, then its APIs, then its models. -/
def Version.walk (i : Interest) (v : Version) : List Visit :=
  i.report (.version v) ++ v.apis.flatMap (·.walk i) ++ walkModels i v.models

/-- The types of all error responses, then the error models. -/
def HttpErrors.walk (i : Interest) (e : HttpErrors) : List Visit :=
  e.allResponses.flatMap (·.type.walk i) ++ walkModels i e.models

/-- The versions, then the error taxonomy. -/
def Spec.walk (i : Interest) (s : Spec) : List Visit :=
  s.versions.flatMap (·.walk i) ++ s.httpErrors.walk i

end ApiCodegen
