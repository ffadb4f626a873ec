import ApiCodegen.Text.Chars

/-!
# Media types

A media type such as `text/plain; charset=utf-8` with its parameters. Spaces may stand right
after a semicolon and after a quoted value; a quoted value has no escapes. A suffix of the subtype,
such as `xml` in `image/svg+xml`, stands after its last plus sign. Nothing outside printable ASCII
belongs to a media type.
-/

namespace ApiCodegen

/-- A media type; its names are in lower case. -/
structure MediaType where
  type : String
  /-- The subtype without its suffix. -/
  subtype : String
  params : List (String × String)
deriving DecidableEq, Repr

namespace MediaType

/-- The characters of names and of values without quotes. -/
def isToken (c : Char) : Bool :=
  c.isAlphanum || "!#$%&'*+-.^_`|~".toList.contains c

/-- The characters between quotes: those of printable ASCII. -/
def isQuotable (c : Char) : Bool :=
  31 < c.toNat && c.toNat < 127

/-- Reads up to the closing quote. The first character belongs to the value whatever it is. -/
def readQuoted : List Char → Option (List Char × List Char)
  | [] => none
  | c :: cs =>
    if !isQuotable c then none
    else
      match cs.span (fun c => isQuotable c && c != '"') with
      | (value, '"' :: rest) => some (c :: value, rest)
      | _ => none

/-- Reads what separates a quoted value from the next parameter. -/
def readSeparator (cs : List Char) : Option (List Char) :=
  match cs.dropWhile (· == ' ') with
  | [] => some []
  | ';' :: rest => some rest
  | _ => none

/-- Reads a value and the semicolon after it. -/
def readValue : List Char → Option (List Char × List Char)
  | '"' :: cs => do
    let (value, rest) ← readQuoted cs
    return (value, ← readSeparator rest)
  | cs =>
    match cs.span isToken with
    | (value, []) => some (value, [])
    | (value, ';' :: rest) => if value.isEmpty then none else some (value, rest)
    | _ => none

/-- Reads parameters. -/
def readParams : List Char → Option (List (String × String))
  | [] => some []
  | ' ' :: rest => readParams rest
  | cs =>
    match cs.span isToken with
    | (name, '=' :: rest) =>
      if name.isEmpty then none
      else do
        let (value, rest) ← readValue rest
        if rest.length < cs.length then
          let params ← readParams rest
          return (Text.asciiLower (String.ofList name), String.ofList value) :: params
        else none
    | _ => none
termination_by cs => cs.length

/-- A subtype without the suffix after its last plus sign; a plus sign at the start begins none. -/
def dropSuffix : List Char → List Char
  | [] => []
  | c :: cs =>
    match cs.reverse.dropWhile (· != '+') with
    | [] => c :: cs
    | _ :: kept => c :: kept.reverse

/-- Reads a media type. -/
def parse (s : String) : Option MediaType :=
  match s.toList.span isToken with
  | (type, '/' :: rest) =>
    if type.isEmpty then none
    else
      let (subtype, rest) := rest.span isToken
      let make := fun params =>
        MediaType.mk (Text.asciiLower (String.ofList type))
          (Text.asciiLower (String.ofList (dropSuffix subtype))) params
      match rest with
      | [] => some (make [])
      | ';' :: rest => if subtype.isEmpty then none else (readParams rest).map make
      | _ => none
  | _ => none

/-- The value of a parameter; the first of a name counts. -/
def param? (m : MediaType) (name : String) : Option String :=
  m.params.lookup name

/-- The character set that a content type names. -/
def charset? (contentType : Option String) : Option String := do
  (← parse (← contentType)).param? "charset"

/-- The boundary that a content type gives for a form of several parts. -/
def boundary? (contentType : Option String) : Option String := do
  let m ← parse (← contentType)
  if m.type == "multipart" && m.subtype == "form-data" then m.param? "boundary" else none

end MediaType

end ApiCodegen
