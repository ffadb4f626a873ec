import ApiCodegen.Description.Config
import ApiCodegen.Description.Spec
import ApiCodegen.Types.Resolved

/-!
# Resolution of names

A name in a type is a primitive, else a model of the version, else an error model, else one of the
standard error models. `Scope.resolve` fails exactly where a name is none of these.
-/

namespace ApiCodegen

/-- The models that a name may refer to. -/
structure Scope where
  models : List Model
  errors : HttpErrors

namespace Scope

/-- The scope of a version: its models, then the error models. -/
def ofVersion (version : Version) (errors : HttpErrors) : Scope := ⟨version.models, errors⟩

/-- The scope of the error taxonomy. -/
def ofErrors (errors : HttpErrors) : Scope := ⟨[], errors⟩

/-- Finds a model by name. A standard error model has no definition in the description. -/
def lookup (s : Scope) (name : String) : Option (ModelOrigin × Option Model) :=
  match findModel s.models name with
  | some model => some (.version, some model)
  | none =>
    match s.errors.model? name with
    | some model => some (.error, some model)
    | none => if standardErrorModels.contains name then some (.standard, none) else none

/-- Resolves a name. -/
def resolveName (s : Scope) (name : String) (location : Location) : Except Fault ResolvedType :=
  match Primitive.ofName? name with
  | some p => .ok (.primitive p)
  | none =>
    match s.lookup name with
    | some (origin, model) => .ok (.model name origin (model.any Model.isEnum))
    | none => .error (.unresolvedType name location)

/-- Resolves a type. -/
def resolve (s : Scope) (location : Location) : TypeExpr → Except Fault ResolvedType
  | .named name => s.resolveName name location
  | .nullable inner => (s.resolve location inner).map .option
  | .array inner => (s.resolve location inner).map .vec
  | .map inner => (s.resolve location inner).map .map

end Scope

end ApiCodegen
