import ApiCodegen.Naming.Words

/-!
# Naming policies

A policy turns names of a description into identifiers of the generated code. The standard policy
writes types and variants in Pascal case and all else in snake case, and gives every result a form
that may stand as an identifier: keywords become raw, and the few words that may not be raw get an
underscore.
-/

namespace ApiCodegen

/-- How names of a description become identifiers. -/
structure Naming where
  typeName : String → String
  variantName : String → String
  fieldName : String → String
  fnName : String → String
  moduleName : String → String

namespace Naming

/-- The words that are no identifiers. -/
def keywords : List String :=
  ["abstract", "as", "async", "await", "become", "box", "break", "const", "continue", "crate", "do",
    "dyn", "else", "enum", "extern", "false", "final", "fn", "for", "if", "impl", "in", "let",
    "loop", "macro", "match", "mod", "move", "mut", "override", "priv", "pub", "ref", "return",
    "Self", "self", "static", "struct", "super", "trait", "true", "try", "type", "typeof", "unsafe",
    "unsized", "use", "virtual", "where", "while", "yield"]

/-- The words that may not even be raw identifiers. -/
def neverRaw : List String := ["self", "Self", "super", "crate", "_"]

/-- What marks a raw identifier. -/
def rawMark : String := "r#"

/-- Whether a cased word would be read as a number. -/
def startsWithDigit (cs : List Char) : Bool :=
  cs.head?.any Char.isDigit

/-- Makes a cased word an identifier. -/
def identifier (cs : List Char) : String :=
  if cs.isEmpty then "unnamed"
  else
    let word := String.ofList (if startsWithDigit cs then '_' :: cs else cs)
    if neverRaw.contains word then word ++ "_"
    else if keywords.contains word then rawMark ++ word
    else word

/-- The identifier without the mark of raw identifiers: the name that serialization sees. -/
def unraw (ident : String) : String :=
  match ident.toList with
  | 'r' :: '#' :: rest => String.ofList rest
  | _ => ident

/-- Whether `ident` is an identifier, raw or not. -/
def isIdentifier (ident : String) : Bool :=
  let cs := (unraw ident).toList
  !cs.isEmpty && !startsWithDigit cs && cs.all (fun c => c.isAlphanum || c == '_')

/-- Pascal case for types and variants. -/
def pascalName (name : String) : String :=
  identifier (pascal (words name))

/-- Snake case for fields, functions and modules. -/
def snakeName (name : String) : String :=
  identifier (snake (words name))

/-- The standard policy. The unnamed version has the module `root`. -/
def standard : Naming where
  typeName := pascalName
  variantName := pascalName
  fieldName := snakeName
  fnName := snakeName
  moduleName := fun name => if name.isEmpty then "root" else snakeName name

end Naming

end ApiCodegen
