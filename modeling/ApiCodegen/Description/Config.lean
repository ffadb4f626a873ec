import ApiCodegen.Description.Location
import ApiCodegen.Text.Chars

/-!
# Configuration and faults

Where the generated code goes, and the faults for which a run is refused. Each fault is a cause with
its data; `Fault.message` gives its wording, and `Fault.topics` the kinds of fault it counts among.
-/

namespace ApiCodegen

/-- Why a configuration is refused. -/
inductive ConfigFault where
  /-- The root module is not a path of identifiers. -/
  | notAModulePath (path : String)
  /-- A directory lies outside the output root. -/
  | escapesRoot (dir : String)
  /-- Generated and scaffolded code would lie in one directory. -/
  | sharedDirectory
deriving DecidableEq, Repr

/-- The wording of a refused configuration. -/
def ConfigFault.message : ConfigFault → String
  | notAModulePath path => "'" ++ path ++ "' is not a Rust module path"
  | escapesRoot dir => "'" ++ dir ++ "' must be a relative path inside the output root"
  | sharedDirectory => "generated and scaffolded code must not share a directory"

/-- Why a choice between alternatives cannot be represented. -/
inductive OneOfFault where
  | noItems
  /-- Under a discriminator, an alternative is not a record. -/
  | notAnObject (item : String) (type : String)
deriving DecidableEq, Repr

/-- The wording of an impossible choice. -/
def OneOfFault.message : OneOfFault → String
  | noItems => "no items declared"
  | notAnObject item type =>
    "item '" ++ item ++ "' of type '" ++ type ++ "' is not an object model"

/-- Why a template cannot be rendered. -/
inductive TemplateFault where
  | unknownTemplate (name : String)
  /-- A variable that is printed has no value. -/
  | missingVariable (name : String)
  /-- A variable that is repeated over is no collection. -/
  | notACollection (name : String)
deriving DecidableEq, Repr

/-- The faults of a run. -/
inductive Fault where
  | unresolvedType (name : String) (location : Location)
  | selfReference (model : String) (location : Location)
  | duplicateResponse (status : String) (location : Location)
  | unknownStatus (status : String) (location : Location)
  | emptyResponses (location : Location)
  | ambiguousResponse (first second variant : String) (location : Location)
  | urlParamMismatch (param url : String) (location : Location)
  | unsupportedParamType (type : String) (location : Location)
  | duplicateParamName (first second ident : String) (location : Location)
  | reservedParamName (param ident : String) (location : Location)
  | invalidOneOf (model : String) (reason : OneOfFault) (location : Location)
  | emptyEnum (model : String) (location : Location)
  | config (fault : ConfigFault)
  | template (fault : TemplateFault)
  /-- A generated file would not be valid source text. -/
  | invalidOutput (path : String)
deriving DecidableEq, Repr

/-- The kinds of fault. -/
inductive FaultTopic where
  | resolution
  | response
  | param
  | model
  | config
  | internal
deriving DecidableEq, Repr

/-- The name of a kind of fault. -/
def FaultTopic.name : FaultTopic → String
  | resolution => "resolution"
  | response => "response"
  | param => "param"
  | model => "model"
  | config => "config"
  | internal => "internal"

namespace Fault

/-- The kind that a fault counts among. -/
def topic : Fault → FaultTopic
  | unresolvedType _ _ | selfReference _ _ => .resolution
  | duplicateResponse _ _ | unknownStatus _ _ | emptyResponses _ | ambiguousResponse _ _ _ _ =>
    .response
  | urlParamMismatch _ _ _ | unsupportedParamType _ _ | duplicateParamName _ _ _ _
  | reservedParamName _ _ _ => .param
  | invalidOneOf _ _ _ | emptyEnum _ _ => .model
  | config _ => .config
  | template _ | invalidOutput _ => .internal

/-- The wording of a fault; none where it depends on the text that was refused. -/
def message? : Fault → Option String
  | unresolvedType name l =>
    some ("Unresolved type reference '" ++ name ++ "' at " ++ l.text)
  | selfReference model l =>
    some ("Model '" ++ model ++
      "' references itself without nullable, array or map indirection at " ++ l.text)
  | duplicateResponse status l =>
    some ("Duplicate response status '" ++ status ++ "' at " ++ l.text)
  | unknownStatus status l => some ("Unknown response status '" ++ status ++ "' at " ++ l.text)
  | emptyResponses l => some ("Operation declares no responses at " ++ l.text)
  | ambiguousResponse first second variant l =>
    some ("Responses '" ++ first ++ "' and '" ++ second ++ "' both map to variant '" ++ variant ++
      "' at " ++ l.text)
  | urlParamMismatch param url l =>
    some ("URL parameter '" ++ param ++ "' is not matched by the url template '" ++ url ++
      "' at " ++ l.text)
  | unsupportedParamType type l =>
    some ("Type '" ++ type ++ "' is not supported for parameters at " ++ l.text)
  | duplicateParamName first second ident l =>
    some ("Parameters '" ++ first ++ "' and '" ++ second ++ "' both map to identifier '" ++ ident ++
      "' at " ++ l.text)
  | reservedParamName param ident l =>
    some ("Parameter '" ++ param ++ "' maps to reserved identifier '" ++ ident ++ "' at " ++ l.text)
  | invalidOneOf model reason l =>
    some ("Invalid one-of model '" ++ model ++ "': " ++ reason.message ++ " at " ++ l.text)
  | emptyEnum model l => some ("Enum model '" ++ model ++ "' declares no values at " ++ l.text)
  | config fault => some ("Configuration error: " ++ fault.message)
  | template _ | invalidOutput _ => none

end Fault

/-- Where generated code lives. -/
structure Config where
  /-- The path of the generated root module inside the crate that uses it. -/
  modulePath : String
  /-- The directory of generated files below the output root. -/
  generatePath : String
  /-- The directory of scaffolds below the output root. -/
  servicesPath : String
deriving DecidableEq, Repr

namespace Config

/-- The usual places. -/
def standard : Config := ⟨"crate::spec", "src/spec", "src/services"⟩

/-- Whether the characters are an ASCII word that does not start with a digit. -/
def isWord (cs : List Char) : Bool :=
  match cs with
  | [] => false
  | c :: _ => (c.isAlpha || c == '_') && cs.all fun c => c.isAlphanum || c == '_'

/-- Whether a directory lies below the output root. -/
def isInside (dir : String) : Bool :=
  !(dir.toList.head? == some '/') && !(Text.splitString (· == '/') dir).contains ".."

/-- Checks that a configuration gives a consistent tree. -/
def check (c : Config) : Except ConfigFault Unit :=
  if !(Text.splitPaths c.modulePath.toList).all isWord then .error (.notAModulePath c.modulePath)
  else if !isInside c.generatePath then .error (.escapesRoot c.generatePath)
  else if !isInside c.servicesPath then .error (.escapesRoot c.servicesPath)
  else if c.generatePath = c.servicesPath then .error .sharedDirectory
  else .ok ()

end Config

end ApiCodegen
