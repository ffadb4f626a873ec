/-!
# Primitive types

The built-in types of a description. Some have two spellings; `Primitive.name` is the one that
reports use, and `Primitive.ofName?` reads any of them.
-/

namespace ApiCodegen

/-- A built-in type. -/
inductive Primitive where
  | string
  | int32
  | int64
  | float
  | double
  | decimal
  | boolean
  | date
  | datetime
  | uuid
  | json
  | empty
deriving DecidableEq, Repr

namespace Primitive

/-- All primitives. -/
def all : List Primitive :=
  [string, int32, int64, float, double, decimal, boolean, date, datetime, uuid, json, empty]

/-- The canonical spelling. -/
def name : Primitive → String
  | string => "string"
  | int32 => "int32"
  | int64 => "int64"
  | float => "float"
  | double => "double"
  | decimal => "decimal"
  | boolean => "boolean"
  | date => "date"
  | datetime => "datetime"
  | uuid => "uuid"
  | json => "json"
  | empty => "empty"

/-- Every accepted spelling. -/
def aliases : Primitive → List String
  | int32 => ["int", "int32"]
  | int64 => ["long", "int64"]
  | boolean => ["bool", "boolean"]
  | p => [p.name]

/-- The primitive with a given spelling. -/
def ofName? : String → Option Primitive
  | "string" => some string
  | "int" => some int32
  | "int32" => some int32
  | "long" => some int64
  | "int64" => some int64
  | "float" => some float
  | "double" => some double
  | "decimal" => some decimal
  | "bool" => some boolean
  | "boolean" => some boolean
  | "date" => some date
  | "datetime" => some datetime
  | "uuid" => some uuid
  | "json" => some json
  | "empty" => some empty
  | _ => none

end Primitive

end ApiCodegen
