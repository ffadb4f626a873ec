import ApiCodegen.Tree.Emission
import ApiCodegen.Types.ModelGraph

/-!
# Model files

A record becomes a struct, a choice an enum with one variant for each alternative, and an enum an
enum with the texts of its values. A nullable field that closes a cycle of models is boxed.
-/

namespace ApiCodegen

/-- What the declaration of models depends on. -/
structure ModelScope where
  scope : Scope
  graph : ModelGraph
  naming : Naming
  paths : TypePaths

namespace ModelScope

/-- The type of a field. -/
def fieldSpelling (s : ModelScope) (model : String) (here : Location) (f : Field) :
    Except Fault Spelling := do
  let type ← s.scope.resolve (here.child f.name) f.type
  return match type with
    | .option inner =>
      if s.graph.needsBox model f.name then .option (.boxed (inner.spell s.naming s.paths))
      else type.spell s.naming s.paths
    | type => type.spell s.naming s.paths

/-- Whether the text of a type is that of an option. -/
def isOption (type : Spelling) : Bool := "Option<".toList.isPrefixOf type.render.toList

/-- The attributes of a field: its name on the wire, and that it may be absent. -/
def fieldAttributes (f : Field) (ident : String) (type : Spelling) : List Line :=
  (if Naming.unraw ident ≠ f.name then [[.text "rename = ", .quoted f.name]] else []) ++
    if isOption type then
      [[.text "default"], [.text "skip_serializing_if = \"Option::is_none\""]]
    else []

/-- The attribute line of a field, if it has attributes. -/
def attributeCode (attributes : List Line) : Code :=
  if attributes.isEmpty then .nothing
  else .line (.text "#[serde(" :: Line.joined ", " attributes ++ [.text ")]"])

/-- The declaration of a field. -/
def fieldCode (s : ModelScope) (model : String) (here : Location) (f : Field) :
    Except Fault Code := do
  let type ← s.fieldSpelling model here f
  let ident := s.naming.fieldName f.name
  return .doc f.description ++ attributeCode (fieldAttributes f ident type) ++
    .line [.text "pub ", .declares ident, .text ": ", .spelled type, .text ","]

/-- The declaration of an alternative. -/
def itemCode (s : ModelScope) (model : String) (here : Location) (f : Field) :
    Except Fault Code := do
  let type ← s.fieldSpelling model here f
  return .doc f.description ++ .line [.text "#[serde(rename = ", .quoted f.name, .text ")]"] ++
    .line [.declares (s.naming.variantName f.name), .text "(", .spelled type, .text "),"]

/-- The line that derives what values of records and choices need. -/
def deriveLine : Line := [.text "#[derive(Debug, Clone, PartialEq, Serialize, Deserialize)]"]

/-- The declaration of a record. -/
def objectCode (s : ModelScope) (m : Model) (here : Location) (fields : List Field) :
    Except Fault Code := do
  let body ← fields.mapM (s.fieldCode m.name here)
  return .ofCalls [
    .doc m.description,
    .line deriveLine,
    .opening .inside [.text "pub struct ", .declares (s.naming.typeName m.name)],
    .each body,
    .brace]

/-- The declaration of a choice. -/
def choiceCode (s : ModelScope) (m : Model) (here : Location) (items : List Field)
    (discriminator : Option String) : Except Fault Code := do
  let body ← items.mapM (s.itemCode m.name here)
  let tag : Code := match discriminator with
    | some name => .line [.text "#[serde(tag = ", .quoted name, .text ")]"]
    | none => .nothing
  return .ofCalls [
    .doc m.description,
    .line deriveLine,
    .code tag,
    .opening .inside [.text "pub enum ", .declares (s.naming.typeName m.name)],
    .each body,
    .brace]

/-- The declaration of one value of an enum. -/
def valueCode (s : ModelScope) (v : EnumValue) : Code :=
  .doc v.description ++ .line [.text "#[serde(rename = ", .quoted v.value, .text ")]"] ++
    .line [.declares (s.naming.variantName v.value), .text ","]

/-- The functions between the values of an enum and their texts. -/
def enumTextCode (s : ModelScope) (name : String) (values : List EnumValue) : Code :=
  let texts := Line.joined ", " (values.map fun v => [.quoted v.value])
  .ofCalls [
    .opening .inside [.text "impl ", .item name],
    .line [.text "/// Wire values in declaration order."],
    .line (.text "pub const VALUES: &'static [&'static str] = &[" :: texts ++ [.text "];"]),
    .blank,
    .texts ["/// Wire value of the variant.", "#[must_use]"],
    .opening .inside [.text "pub const fn as_str(self) -> &'static str"],
    .opening .inside [.text "match self"],
    .each (values.map fun v =>
      .line [.text "Self::", .item (s.naming.variantName v.value), .text " => ",
        .quoted v.value, .text ","]),
    .brace,
    .brace,
    .brace,
    .blank,
    .opening .inside [.text "impl std::fmt::Display for ", .item name],
    .opening .inside
      [.text "fn fmt(&self, f: &mut std::fmt::Formatter<'_>) -> std::fmt::Result"],
    .texts ["f.write_str(self.as_str())"],
    .brace,
    .brace,
    .blank,
    .opening .inside [.text "impl std::str::FromStr for ", .item name],
    .texts ["type Err = String;"],
    .blank,
    .opening .inside [.text "fn from_str(value: &str) -> std::result::Result<Self, Self::Err>"],
    .opening .inside [.text "match value"],
    .each (values.map fun v =>
      .line [.quoted v.value, .text " => Ok(Self::", .item (s.naming.variantName v.value),
        .text "),"]),
    .line [.text "_ => Err(format!(\"unknown ", .item name,
      .text " value '\x7bvalue\x7d'\")),"],
    .brace,
    .brace,
    .brace]

/-- The declaration of an enum. -/
def enumCode (s : ModelScope) (m : Model) (values : List EnumValue) : Code :=
  let name := s.naming.typeName m.name
  .ofCalls [
    .doc m.description,
    .texts ["#[derive(Debug, Clone, Copy, PartialEq, Eq, Hash, Serialize, Deserialize)]"],
    .opening .inside [.text "pub enum ", .declares name],
    .each (values.map s.valueCode),
    .brace,
    .blank,
    .code (s.enumTextCode name values)]

/-- The declaration of a model. -/
def modelCode (s : ModelScope) (here : Location) (m : Model) : Except Fault Code :=
  let here := here.child m.name
  match m.kind with
  | .object fields => s.objectCode m here fields
  | .oneOf items discriminator => s.choiceCode m here items discriminator
  | .enum values => .ok (s.enumCode m values)

end ModelScope

/-- The declarations of models. -/
def modelsCode (scope : Scope) (naming : Naming) (paths : TypePaths) (here : Location)
    (models : List Model) : Except Fault Code := do
  let s : ModelScope := ⟨scope, .ofModels models, naming, paths⟩
  let codes ← models.mapM (s.modelCode here)
  return .all (codes.map fun code => code ++ .blank)

namespace Emission

/-- The imports of the models of a version. -/
def modelUses (e : Emission) (v : Version) : List UsePath :=
  let isOther (name : String) : Bool := (v.model? name).isNone
  [.external "serde::\x7bDeserialize, Serialize\x7d"] ++
  useIf (modelsReferTo v.models fun name =>
    isOther name && (e.spec.httpErrors.model? name).isSome) (.internal ["errors"] .module) ++
  useIf (modelsReferTo v.models fun name => isOther name && standardErrorModels.contains name)
    (.internal ["errmodels"] .module) ++
  typeUses (modelsUsePrimitive v.models) (modelsUseMap v.models)

/-- The file with the models of a version; none where it has no models. -/
def modelFiles (e : Emission) (v : Version) : Except Fault (List TreeFile) := do
  if v.models.isEmpty then return []
  let here := (Location.root.child (e.versionModule v)).child "models"
  let body ← modelsCode (.ofVersion v e.spec.httpErrors) e.naming .inModels here v.models
  return [⟨⟨.generated, [e.versionModule v], "models"⟩, .source (.plain (e.modelUses v) body)⟩]

end Emission

end ApiCodegen
