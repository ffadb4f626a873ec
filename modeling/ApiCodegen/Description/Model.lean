import ApiCodegen.Description.TypeExpr

/-!
# Models

The named types of a description: records, choices between alternatives, and closed sets of texts.
-/

namespace ApiCodegen

/-- A field of a record, or an alternative of a choice. -/
structure Field where
  name : String
  type : TypeExpr
  description : Option String
deriving DecidableEq, Repr, Inhabited

/-- A field without description. -/
def Field.ofType (name : String) (type : TypeExpr) : Field := ⟨name, type, none⟩

/-- A literal of an enum. -/
structure EnumValue where
  value : String
  description : Option String
deriving DecidableEq, Repr, Inhabited

/-- The shape of a model. -/
inductive ModelKind where
  | object (fields : List Field)
  /-- One of several alternatives; the discriminator names the field that tells which. -/
  | oneOf (items : List Field) (discriminator : Option String)
  | enum (values : List EnumValue)
deriving DecidableEq, Repr, Inhabited

/-- A named model. -/
structure Model where
  name : String
  kind : ModelKind
  description : Option String
deriving DecidableEq, Repr, Inhabited

namespace Model

/-- Whether the model is an enum. -/
def isEnum (m : Model) : Bool :=
  match m.kind with
  | .enum _ => true
  | .object _ | .oneOf _ _ => false

/-- Whether the model is a record. -/
def isObject (m : Model) : Bool :=
  match m.kind with
  | .object _ => true
  | .oneOf _ _ | .enum _ => false

/-- The fields or alternatives. -/
def parts (m : Model) : List Field :=
  match m.kind with
  | .object fields | .oneOf fields _ => fields
  | .enum _ => []

end Model

/-- The first model of a list with a given name. -/
def findModel (models : List Model) (name : String) : Option Model :=
  models.find? (·.name == name)

end ApiCodegen
