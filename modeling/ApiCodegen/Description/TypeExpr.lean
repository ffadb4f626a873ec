import ApiCodegen.Description.Primitive

/-!
# Type expressions

The types of a description and their notation: a name followed by suffixes, `?` for nullable, `[]`
for an array and `{}` for a map from strings, applied from left to right. `TypeExpr.parse` reads the
notation and `TypeExpr.notate` writes it.
-/

namespace ApiCodegen

/-- A type of a description. -/
inductive TypeExpr where
  /-- A primitive or a model, by name. -/
  | named (name : String)
  /-- A value that may be absent. -/
  | nullable (inner : TypeExpr)
  /-- An ordered list of values. -/
  | array (inner : TypeExpr)
  /-- A map from strings to values. -/
  | map (inner : TypeExpr)
deriving DecidableEq, Repr, Inhabited

namespace TypeExpr

/-- The name that the suffixes are applied to. -/
def leaf : TypeExpr → String
  | named name => name
  | nullable inner | array inner | map inner => inner.leaf

/-- Whether the innermost name is `target`. -/
def mentions (target : String) : TypeExpr → Bool
  | named name => name == target
  | nullable inner | array inner | map inner => inner.mentions target

/-- Whether the innermost name spells the primitive. -/
def mentionsPrimitive (t : TypeExpr) (p : Primitive) : Bool :=
  p.aliases.any t.mentions

/-- Whether this is the primitive `empty` itself. -/
def isEmpty (t : TypeExpr) : Bool :=
  t == named Primitive.empty.name

/-- Whether this is the primitive `string` itself. -/
def isString (t : TypeExpr) : Bool :=
  t == named Primitive.string.name

/-- The notation as characters. -/
def notateChars : TypeExpr → List Char
  | named name => name.toList
  | nullable inner => inner.notateChars ++ ['?']
  | array inner => inner.notateChars ++ ['[', ']']
  | map inner => inner.notateChars ++ ['\x7b', '\x7d']

/-- The notation of a type. -/
def notate (t : TypeExpr) : String :=
  String.ofList t.notateChars

/-- The characters of names. -/
def isNameChar (c : Char) : Bool :=
  c.isAlphanum || c == '_'

/-- The characters that start a suffix. -/
def startsSuffix (c : Char) : Bool :=
  c == '?' || c == '[' || c == '\x7b'

/-- Applies the suffixes that the characters spell. -/
def applySuffixes (t : TypeExpr) : List Char → Option TypeExpr
  | [] => some t
  | '?' :: rest => applySuffixes (nullable t) rest
  | '[' :: ']' :: rest => applySuffixes (array t) rest
  | '\x7b' :: '\x7d' :: rest => applySuffixes (map t) rest
  | _ => none

/-- Reads the notation. -/
def parseChars (cs : List Char) : Option TypeExpr :=
  let base := cs.takeWhile (!startsSuffix ·)
  let suffixes := cs.dropWhile (!startsSuffix ·)
  if !base.isEmpty && base.all isNameChar then
    applySuffixes (named (String.ofList base)) suffixes
  else none

/-- The failure to read a notation. -/
structure NotationError where
  input : String
deriving DecidableEq, Repr

/-- The report of a notation that cannot be read. -/
def NotationError.message (e : NotationError) : String :=
  "Invalid type expression '" ++ e.input ++ "'"

/-- Reads the notation, or returns it in a failure. -/
def parse (input : String) : Except NotationError TypeExpr :=
  match parseChars input.toList with
  | some t => .ok t
  | none => .error ⟨input⟩

end TypeExpr

end ApiCodegen
