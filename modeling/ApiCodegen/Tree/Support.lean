import ApiCodegen.Support.Client
import ApiCodegen.Support.Service
import ApiCodegen.Support.Shared
import ApiCodegen.Tree.Emission

/-!
# Support modules of a run

The modules that generated code calls. Which of them a run emits depends on its kind, and on whether
the service reads forms.
-/

namespace ApiCodegen

/-- A support module. -/
inductive SupportModule where
  | contentType
  | convert
  | empty
  | errorModels
  | form
  | json
  | params
  | respond
  | response
deriving DecidableEq, Repr

namespace SupportModule

/-- The name of a module. -/
def name : SupportModule → String
  | contentType => "content_type"
  | convert => "convert"
  | empty => "empty"
  | errorModels => "errmodels"
  | form => "form"
  | json => "json"
  | params => "params"
  | respond => "respond"
  | response => "response"

/-- The lines of a module. -/
def lines : SupportModule → List String
  | contentType => Support.contentTypeModule
  | convert => Support.convertModule
  | empty => Support.emptyModule
  | errorModels => Support.errorModelsModule
  | form => Support.formModule
  | json => Support.jsonModule
  | params => Support.paramsModule
  | respond => Support.respondModule
  | response => Support.responseModule

end SupportModule

namespace Emission

/-- Whether an operation reads a form. -/
def readsForms (e : Emission) : Bool :=
  e.spec.hasBody .formData || e.spec.hasBody .formUrlEncoded

/-- The support modules of a run in the order of their names. -/
def supportModules (e : Emission) : List SupportModule :=
  match e.run with
  | .models => [.empty, .errorModels]
  | .client => [.empty, .errorModels, .params, .response]
  | .service =>
    [.contentType, .convert, .empty, .errorModels] ++ (if e.readsForms then [.form] else []) ++
      [.json, .params, .respond]

/-- The files of the support modules. -/
def supportFiles (e : Emission) : List TreeFile :=
  e.supportModules.map fun m => ⟨⟨.generated, [], m.name⟩, .support m.lines⟩

end Emission

end ApiCodegen
