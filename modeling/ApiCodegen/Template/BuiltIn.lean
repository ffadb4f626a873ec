import ApiCodegen.Template.Basic

/-!
# Built-in templates

The templates of the files with a fixed shape: the list of the modules of a directory, and the
skeleton of the implementation of a service.
-/

namespace ApiCodegen.Template

/-- The list of the modules of a directory. -/
def index : Template := all [
  whenHolds "generated" (all [field "header", text "\n\n"]),
  each "modules" (all [text "pub mod ", self, text ";\n"])]

/-- The skeleton of one method. -/
def method : Template := all [
  unlessFirst (text "\n"),
  text "    async fn ", field "name", text "(&self",
  each "params" (all [text ", ", field "name", text ": ", field "ty"]),
  text ") -> Result<", field "returns", text ", ServiceError> \x7b\n",
  text "        Err(ServiceError::internal(\"", field "name", text " is not implemented\"))\n",
  text "    \x7d\n"]

/-- The skeleton of the implementation of a service. -/
def service : Template := all [
  text "//! Implementation of the `", field "api", text "` API.\n\n",
  each "imports" (all [text "use ", self, text ";\n"]),
  text "/// Implementation of [`", field "trait_name", text "`].\n",
  text "#[derive(Debug, Default)]\npub struct ", field "struct_name", text ";\n\n",
  text "#[async_trait::async_trait]\nimpl ", field "trait_name", text " for ", field "struct_name",
  text " \x7b\n",
  each "methods" method,
  text "\x7d\n"]

/-- The name of the template of indexes. -/
def indexName : String := "mod"

/-- The name of the template of service skeletons. -/
def serviceName : String := "scaffold/service"

/-- The templates by name. -/
def builtIn : List (String × Template) := [(indexName, index), (serviceName, service)]

/-- Renders a built-in template. -/
def renderNamed (name : String) (context : Json) : Except TemplateFault String :=
  match builtIn.lookup name with
  | some template => template.render context false
  | none => .error (.unknownTemplate name)

end ApiCodegen.Template
