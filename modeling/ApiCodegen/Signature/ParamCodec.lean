import ApiCodegen.Source.Calls
import ApiCodegen.Types.Resolver
import ApiCodegen.Wire.Params

/-!
# Coding of parameters

A parameter travels as pairs of texts. Its `ParamCodec` knows the type and the name of the value and
says how generated code reads it (`ParamReading`) and writes it (`ParamWriting`); the two are data
before they are code.

Values are written by their display text; date-times have a format of their own that reads back.
-/

namespace ApiCodegen

/-- The format that date-times are written in. -/
def dateTimeFormat : String := "%Y-%m-%dT%H:%M:%S%.f"

/-- How many values a parameter has. -/
inductive ParamShape where
  | required
  | optional
  /-- One pair for each value. -/
  | array
deriving DecidableEq, Repr

namespace ParamShape

/-- The shape of a parameter type, where pairs can carry the type at all. -/
def ofType? : TypeExpr → Option ParamShape
  | .named _ => some required
  | .nullable (.named _) => some optional
  | .array (.named _) => some array
  | .nullable _ | .array _ | .map _ => none

/-- The name of a shape. -/
def name : ParamShape → String
  | required => "Required"
  | optional => "Optional"
  | array => "Array"

end ParamShape

/-- How generated code reads a parameter. -/
structure ParamReading where
  accessor : Accessor
  /-- The name on the wire. -/
  name : String
  /-- The type of an element. -/
  element : Spelling
  /-- Whether the texts are restricted to the values of the enum that `element` names. -/
  restricted : Bool
  /-- Whether the value is made optional after it has been read. -/
  lifted : Bool
deriving DecidableEq, Repr

namespace ParamReading

/-- The name of the method that reads. -/
def method (r : ParamReading) : String :=
  match r.accessor, r.restricted with
  | .required, false => "required"
  | .required, true => "required_enum"
  | .optional, false => "optional"
  | .optional, true => "optional_enum"
  | .withDefault _, false => "with_default"
  | .withDefault _, true => "enum_with_default"
  | .array, false => "array"
  | .array, true => "enum_array"

/-- The argument with the default. -/
def defaultArgument : Accessor → Line
  | .withDefault text => [.text ", ", .quoted text]
  | .required | .optional | .array => []

/-- The argument with the allowed texts. -/
def allowedArgument (r : ParamReading) : Line :=
  if r.restricted then [.text ", ", .spelled r.element, .text "::VALUES"] else []

/-- The expression that reads the value through a parser. -/
def expression (r : ParamReading) (parser : Line) : Line :=
  parser ++ [.text ("." ++ r.method ++ "::<"), .spelled r.element, .text ">(", .quoted r.name] ++
    defaultArgument r.accessor ++ r.allowedArgument ++ [.text ")"] ++
    if r.lifted then [.text ".map(Some)"] else []

end ParamReading

/-- How generated code writes a parameter. -/
structure ParamWriting where
  shape : ParamShape
  /-- The name on the wire. -/
  name : String
  /-- Whether the elements are written in the format of date-times. -/
  formatted : Bool
deriving DecidableEq, Repr

namespace ParamWriting

/-- The call that gives a value its date-time format. -/
def formatCall : Line := [.text ".format(", .quoted dateTimeFormat, .text ")"]

/-- The argument with the value. -/
def argument (w : ParamWriting) (value : Line) : Line :=
  match w.shape, w.formatted with
  | .required, false => .text "&" :: value
  | .required, true => value ++ formatCall
  | .optional, false => value ++ [.text ".as_ref()"]
  | .optional, true => value ++ .text ".as_ref().map(|v| v" :: formatCall ++ [.text ")"]
  | .array, false => .text "&" :: value
  | .array, true => value ++ .text ".iter().map(|v| v" :: formatCall ++ [.text ")"]

/-- The name of the method that writes. -/
def method (w : ParamWriting) : String :=
  match w.shape with
  | .required => "add"
  | .optional => "add_optional"
  | .array => "add_array"

/-- The statement that writes a value through a writer. -/
def statement (w : ParamWriting) (writer value : Line) : Line :=
  writer ++ [.text ("." ++ w.method ++ "("), .quoted w.name, .text ", "] ++ w.argument value ++
    [.text ");"]

end ParamWriting

/-- The coding of a parameter. -/
structure ParamCodec where
  param : Param
  location : ParamLocation
  /-- The identifier of the value. -/
  ident : String
  shape : ParamShape
  type : ResolvedType
  /-- The type of an element. -/
  leaf : ResolvedType
deriving DecidableEq, Repr

namespace ParamCodec

/-- Resolves a parameter. -/
def ofParam (scope : Scope) (naming : Naming) (here : Location) (location : ParamLocation)
    (param : Param) : Except Fault ParamCodec := do
  let here := here.child param.name
  match ParamShape.ofType? param.type with
  | none => .error (.unsupportedParamType param.type.notate here)
  | some shape =>
    let type ← scope.resolve here param.type
    return ⟨param, location, naming.fieldName param.name, shape, type, type.leaf⟩

/-- The variable that holds the value. -/
def var (c : ParamCodec) : Var := ⟨c.ident, .parameter c.location⟩

/-- Whether the elements are date-times. -/
def isDateTime (c : ParamCodec) : Bool := c.leaf.isPrimitive .datetime

/-- The way of access that fits the shape and the default. The default of an array is not used. -/
def accessor (c : ParamCodec) : Accessor :=
  match c.shape, c.param.default with
  | .array, _ => .array
  | .required, some text | .optional, some text => .withDefault text
  | .required, none => .required
  | .optional, none => .optional

/-- How the service reads the parameter. -/
def reading (c : ParamCodec) (naming : Naming) : ParamReading :=
  { accessor := c.accessor
    name := c.param.name
    element := c.leaf.spell naming .inApi
    restricted := c.leaf.isEnum
    lifted := c.shape == .optional && c.param.default.isSome }

/-- How the client writes the parameter. -/
def writing (c : ParamCodec) : ParamWriting := ⟨c.shape, c.param.name, c.isDateTime⟩

/-- The argument that takes the place of the parameter in a URL. -/
def urlArgument (c : ParamCodec) : Line :=
  if c.isDateTime then .reads c.var :: ParamWriting.formatCall else [.reads c.var]

end ParamCodec

/-- A group of parameters that is read as one: the service goes on only if all of them are there. -/
structure ReadingGroup where
  /-- The variable with the parser. -/
  parser : Var
  /-- The expression that makes the parser. -/
  source : Line
  /-- The statement that ends the handler, given the expression of the faults. -/
  failure : Line → Line

namespace ReadingGroup

/-- The code that reads the parameters of a group. -/
def code (g : ReadingGroup) (naming : Naming) (codecs : List ParamCodec) : Code :=
  if codecs.isEmpty then .nothing
  else .ofCalls [
    .line ([.text "let mut ", .binds g.parser, .text " = "] ++ g.source ++ [.text ";"]),
    .each (codecs.map fun c =>
      .line ([.text "let ", .binds c.var, .text " = "] ++
        (c.reading naming).expression [.reads g.parser] ++ [.text ";"])),
    .opening .after (.text "let (" ::
      Line.joined ", " (codecs.map fun c => [.text "Some(", .binds c.var, .text ")"]) ++
      .text ",) = (" :: Line.joined ", " (codecs.map fun c => [.reads c.var]) ++
      [.text ",) else"]),
    .line (g.failure [.reads g.parser, .text ".into_errors()"]),
    .closing [.text "\x7d;"]]

end ReadingGroup

/-- The code that writes the parameters of a group with a new writer. -/
def writingCode (writer : Var) (place : ParamCodec → Line) (codecs : List ParamCodec) : Code :=
  if codecs.isEmpty then .nothing
  else
    .line [.text "let mut ", .binds writer, .text " = ParamsWriter::new();"] ++
    .all (codecs.map fun c => .line (c.writing.statement [.reads writer] (place c)))

end ApiCodegen
