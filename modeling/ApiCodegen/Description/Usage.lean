import ApiCodegen.Description.Walk

/-!
# What a part of a description uses

Questions that decide what a generated file imports. Each is asked of one walk over the part.
-/

namespace ApiCodegen

namespace Visit

/-- Whether the visit is of a type with a property. -/
def isType (p : TypeExpr → Bool) : Visit → Bool
  | type t => p t
  | _ => false

/-- Whether the visit is of a parameter at a place. -/
def isParamAt (location : ParamLocation) : Visit → Bool
  | param l _ => l == location
  | _ => false

/-- Whether the visit is of an operation with a property. -/
def isOperation (p : Operation → Bool) : Visit → Bool
  | operation o => p o
  | _ => false

/-- Whether the visit is of a response with a property. -/
def isResponse (p : Operation → Response → Bool) : Visit → Bool
  | response o r => p o r
  | _ => false

end Visit

namespace TypeExpr

/-- Whether the type is a name with a property. -/
def isNamed (p : String → Bool) : TypeExpr → Bool
  | named name => p name
  | nullable _ | array _ | map _ => false

/-- Whether the type is a map. -/
def isMap : TypeExpr → Bool
  | map _ => true
  | named _ | nullable _ | array _ => false

end TypeExpr

namespace Api

/-- Whether a type with a property occurs in the API. -/
def anyType (a : Api) (p : TypeExpr → Bool) : Bool :=
  (a.walk .onlyTypes).any (·.isType p)

/-- Whether the API refers to a model of its version. -/
def usesModels (a : Api) (v : Version) : Bool :=
  a.anyType (·.isNamed fun n => (v.model? n).isSome)

/-- Whether the API refers to an error model of the description. -/
def usesErrorModels (a : Api) (e : HttpErrors) : Bool :=
  a.anyType (·.isNamed fun n => (e.model? n).isSome)

/-- Whether the API refers to a standard error model. -/
def usesStandardErrors (a : Api) : Bool :=
  a.anyType (·.isNamed standardErrorModels.contains)

/-- Whether the API uses a primitive. -/
def usesPrimitive (a : Api) (p : Primitive) : Bool :=
  a.anyType (·.mentionsPrimitive p)

/-- Whether the API uses a map. -/
def usesMap (a : Api) : Bool :=
  a.anyType TypeExpr.isMap

/-- Whether the API has a parameter at a place. -/
def hasParamAt (a : Api) (location : ParamLocation) : Bool :=
  (a.walk .onlyParams).any (·.isParamAt location)

/-- Whether an operation of the API has a payload of a kind. -/
def hasBody (a : Api) (kind : BodyKind) : Bool :=
  (a.walk .onlyOperations).any (·.isOperation (·.body.kind == kind))

/-- Whether an operation of the API has several responses. -/
def hasMultipleResponses (a : Api) : Bool :=
  (a.walk .onlyOperations).any (·.isOperation Operation.hasMultipleResponses)

/-- Whether one of several responses of an operation has no payload. -/
def hasEmptyAmongResponses (a : Api) : Bool :=
  (a.walk .onlyResponses).any
    (·.isResponse fun o r => o.hasMultipleResponses && r.body.kind == .empty)

/-- Whether the handlers of the API read request headers: for a header parameter, or to check the
content type of a payload. -/
def readsHeaders (a : Api) : Bool :=
  a.hasParamAt .header || a.operations.any (!·.body.kind == .empty)

end Api

/-- Whether a type with a property occurs in the models. -/
def anyModelType (models : List Model) (p : TypeExpr → Bool) : Bool :=
  (walkModels .onlyTypes models).any (·.isType p)

/-- Whether the models use a primitive. -/
def modelsUsePrimitive (models : List Model) (p : Primitive) : Bool :=
  anyModelType models (·.mentionsPrimitive p)

/-- Whether the models use a map. -/
def modelsUseMap (models : List Model) : Bool :=
  anyModelType models TypeExpr.isMap

/-- Whether the models refer to a name with a property. -/
def modelsReferTo (models : List Model) (known : String → Bool) : Bool :=
  anyModelType models (·.isNamed known)

namespace HttpErrors

/-- Whether a type with a property occurs in the error taxonomy. -/
def anyType (e : HttpErrors) (p : TypeExpr → Bool) : Bool :=
  (e.walk .onlyTypes).any (·.isType p)

/-- Whether the error taxonomy uses a primitive. -/
def usesPrimitive (e : HttpErrors) (p : Primitive) : Bool :=
  e.anyType (·.mentionsPrimitive p)

/-- Whether the error taxonomy uses a map. -/
def usesMap (e : HttpErrors) : Bool :=
  e.anyType TypeExpr.isMap

end HttpErrors

/-- Whether an operation of the description has a payload of a kind. -/
def Spec.hasBody (s : Spec) (kind : BodyKind) : Bool :=
  (s.walk .onlyOperations).any (·.isOperation (·.body.kind == kind))

end ApiCodegen
