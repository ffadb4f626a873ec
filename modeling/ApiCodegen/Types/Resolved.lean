import ApiCodegen.Description.Primitive
import ApiCodegen.Naming.Policy

/-!
# Resolved types and their spelling

A resolved type knows what its innermost name refers to. Its `Spelling` is the type as one file of
the generated code writes it: a reference to a model is preceded by the module that the file imports
it through.
-/

namespace ApiCodegen

/-- Where a model is declared. -/
inductive ModelOrigin where
  /-- Among the models of the version. -/
  | version
  /-- Among the models of the error taxonomy. -/
  | error
  /-- Among the error models that come with every tree. -/
  | standard
deriving DecidableEq, Repr

/-- A resolved type. -/
inductive ResolvedType where
  | primitive (p : Primitive)
  | model (name : String) (origin : ModelOrigin) (isEnum : Bool)
  /-- A type that the generated file declares itself. -/
  | local (name : String)
  | option (inner : ResolvedType)
  | vec (inner : ResolvedType)
  | map (inner : ResolvedType)
deriving DecidableEq, Repr, Inhabited

/-- The modules through which a file reaches models; empty where they are in scope. -/
structure TypePaths where
  models : String
  errors : String
deriving DecidableEq, Repr

namespace TypePaths

/-- Files of an API, which import both modules. -/
def inApi : TypePaths := ⟨"models::", "errors::"⟩

/-- The file with the models of a version. -/
def inModels : TypePaths := ⟨"", "errors::"⟩

/-- The file with the error taxonomy. -/
def inErrors : TypePaths := ⟨"", ""⟩

end TypePaths

/-- A type as it is written. -/
inductive Spelling where
  | primitive (p : Primitive)
  /-- A declared type, after the path of its module. -/
  | named (path name : String)
  /-- No value. -/
  | unit
  /-- Borrowed text. -/
  | text
  | option (inner : Spelling)
  | vec (inner : Spelling)
  | map (inner : Spelling)
  | boxed (inner : Spelling)
  | borrowed (inner : Spelling)
deriving DecidableEq, Repr, Inhabited

/-- How a primitive is written. -/
def Primitive.spelling : Primitive → String
  | string => "String"
  | int32 => "i32"
  | int64 => "i64"
  | float => "f32"
  | double => "f64"
  | decimal => "Decimal"
  | boolean => "bool"
  | date => "NaiveDate"
  | datetime => "NaiveDateTime"
  | uuid => "Uuid"
  | json => "serde_json::Value"
  | empty => "Empty"

/-- The text of a type. -/
def Spelling.render : Spelling → String
  | primitive p => p.spelling
  | named path name => path ++ name
  | unit => "()"
  | text => "&str"
  | option inner => "Option<" ++ inner.render ++ ">"
  | vec inner => "Vec<" ++ inner.render ++ ">"
  | map inner => "BTreeMap<String, " ++ inner.render ++ ">"
  | boxed inner => "Box<" ++ inner.render ++ ">"
  | borrowed inner => "&" ++ inner.render

namespace ResolvedType

/-- The path before a model of a given origin. -/
def modelPath (paths : TypePaths) : ModelOrigin → String
  | .version => paths.models
  | .error => paths.errors
  | .standard => "errmodels::"

/-- The name of a model in the generated code. The standard models keep theirs. -/
def modelName (naming : Naming) (name : String) : ModelOrigin → String
  | .version | .error => naming.typeName name
  | .standard => name

/-- How a file writes a resolved type. -/
def spell (naming : Naming) (paths : TypePaths) : ResolvedType → Spelling
  | primitive p => .primitive p
  | model name origin _ => .named (modelPath paths origin) (modelName naming name origin)
  | .local name => .named "" name
  | option inner => .option (inner.spell naming paths)
  | vec inner => .vec (inner.spell naming paths)
  | map inner => .map (inner.spell naming paths)

/-- The text of a resolved type in a file. -/
def render (naming : Naming) (paths : TypePaths) (t : ResolvedType) : String :=
  (t.spell naming paths).render

/-- The type inside all containers. -/
def leaf : ResolvedType → ResolvedType
  | option inner | vec inner | map inner => inner.leaf
  | t => t

/-- Whether the type refers to an enum. -/
def isEnum : ResolvedType → Bool
  | model _ _ isEnum => isEnum
  | _ => false

/-- Whether the type is a given primitive. -/
def isPrimitive (p : Primitive) : ResolvedType → Bool
  | primitive q => q == p
  | _ => false

/-- Whether a map occurs in the type. -/
def hasMap : ResolvedType → Bool
  | map _ => true
  | option inner | vec inner => inner.hasMap
  | _ => false

end ResolvedType

end ApiCodegen
