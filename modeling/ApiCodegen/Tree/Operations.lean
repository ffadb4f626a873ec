import ApiCodegen.Tree.Emission

/-!
# Types of operations

The struct with the fields of a form, and the enum of the responses of an operation that has
several. Client and service declare the same ones.
-/

namespace ApiCodegen.Signature

/-- The struct with the fields of a form. -/
def formCode (s : Signature) (naming : Naming) : Code :=
  match s.body with
  | .form structName fields _ =>
    .ofCalls [
      .line [.text "/// Form fields of `", .copied s.operation.name, .text "`."],
      .texts ["#[derive(Debug, Clone, PartialEq)]"],
      .opening .inside [.text "pub struct ", .declares structName],
      .each (fields.map fun c =>
        .doc c.param.description ++
          .line [.text "pub ", .declares c.ident, .text ": ",
            .spelled (c.type.spell naming .inApi), .text ","]),
      .brace,
      .blank]
  | .none | .text | .json _ => .nothing

/-- The declaration of one response. -/
def variantCode (naming : Naming) (v : ResponseVariant) : Code :=
  .doc (some (v.response.description.getD
      ("`" ++ toString v.code ++ " " ++ v.response.status ++ "`"))) ++
    match v.payload.spelling? naming .inApi with
    | some type => .line [.declares v.name, .text "(", .spelled type, .text "),"]
    | none => .line [.declares v.name, .text ","]

/-- The enum of several responses. -/
def responseCode (s : Signature) (naming : Naming) : Code :=
  match s.returns with
  | .multiple enumName variants =>
    .ofCalls [
      .line [.text "/// Responses of `", .copied s.operation.name, .text "`."],
      .texts ["#[derive(Debug, Clone, PartialEq)]"],
      .opening .inside [.text "pub enum ", .declares enumName],
      .each (variants.map (variantCode naming)),
      .brace,
      .blank]
  | .single _ => .nothing

/-- The types that the operations of an API declare. -/
def typesCode (naming : Naming) (sigs : List Signature) : Code :=
  .all (sigs.map fun s => s.formCode naming ++ s.responseCode naming)

end ApiCodegen.Signature
