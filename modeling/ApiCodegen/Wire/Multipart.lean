import ApiCodegen.Text.Charset
import ApiCodegen.Wire.ErrorBody
import ApiCodegen.Wire.MediaType

/-!
# Forms of several parts

A body of the type `multipart/form-data` holds its fields between lines with the boundary. A field
has headers, of which two matter: the disposition holds its name and the content type may name the
character set of its value. Text before the first boundary and after the last one is ignored.
-/

namespace ApiCodegen.Multipart

/-- Raw bytes. -/
abbrev Bytes := List UInt8

/-- Splits at the first occurrence of `word`, which is dropped. -/
def cut? (word : Bytes) : Bytes → Option (Bytes × Bytes)
  | [] => if word.isEmpty then some ([], []) else none
  | b :: bs =>
    if word.isPrefixOf (b :: bs) then some ([], (b :: bs).drop word.length)
    else (cut? word bs).map fun (before, rest) => (b :: before, rest)

/-- The bytes of an ASCII text. -/
def bytesOf (s : String) : Bytes := Text.encode s

/-- The end of a line. -/
def lineEnd : Bytes := [13, 10]

/-- Spaces and tabs. -/
def isGap (b : UInt8) : Bool := b == 32 || b == 9

/-- ASCII white space. -/
def isSpace (b : UInt8) : Bool := b == 32 || b == 9 || b == 10 || b == 12 || b == 13

/-- The bytes of the names of headers. -/
def isNameByte (b : UInt8) : Bool :=
  b.toNat < 128 && MediaType.isToken (Char.ofNat b.toNat)

/-- The bytes of the values of headers. -/
def isValueByte (b : UInt8) : Bool :=
  b == 9 || (b.toNat > 31 && b != 127)

/-- Drops blanks at the end. -/
def trimEnd : Bytes → Bytes
  | [] => []
  | b :: bs =>
    match trimEnd bs with
    | [] => if isGap b then [] else [b]
    | rest => b :: rest

/-- Removes the end of a line, which may lack its carriage return. -/
def lineEnd? : Bytes → Option Bytes
  | 13 :: 10 :: rest => some rest
  | 10 :: rest => some rest
  | _ => none

/-- Reads headers up to the empty line; at most `count` of them. Names are put in lower case. -/
def readHeaders : Nat → Bytes → Option (List (String × Bytes))
  | count, bytes =>
    match lineEnd? bytes with
    | some _ => some []
    | none =>
      match count with
      | 0 => none
      | count + 1 =>
        match bytes.span isNameByte with
        | ([], _) => none
        | (name, 58 :: rest) => do
          let (value, rest) := (rest.dropWhile isGap).span isValueByte
          let rest ← lineEnd? rest
          let headers ← readHeaders count rest
          return (Text.asciiLower (Text.decodeLossy name), trimEnd value) :: headers
        | _ => none

/-- How many headers a field may have. -/
def headerLimit : Nat := 32

/-- The value of a header; the last of a name counts. -/
def header? (headers : List (String × Bytes)) (name : String) : Option Bytes :=
  headers.reverse.lookup name

/-- Reads a quoted attribute up to a quote without a backslash before it. -/
def readQuoted : Bytes → Option Bytes
  | [] => none
  | 34 :: _ => some []
  | 92 :: 34 :: rest => (readQuoted rest).map (34 :: ·)
  | b :: rest => (readQuoted rest).map (b :: ·)

/-- Reads the value of an attribute after its name; none where no equals sign follows. -/
def readAttribute (bytes : Bytes) : Option Bytes :=
  match bytes.dropWhile isSpace with
  | 61 :: rest =>
    match rest.dropWhile isSpace with
    | 34 :: rest => readQuoted rest
    | rest => some (rest.takeWhile fun b => b != 59 && b != 32)
  | _ => none

/-- Finds the attribute `name` of a disposition, whose letters are the four bytes matched here. Its
first occurrence at the start of a word decides. `before` is the byte before the rest. -/
def findName : Option UInt8 → Bytes → Option Bytes
  | before, 110 :: 97 :: 109 :: 101 :: rest =>
    if before.all (fun p => isSpace p || p == 59) then readAttribute rest else findName none rest
  | _, b :: rest => findName (some b) rest
  | _, [] => none

/-- The name of a field, empty where it has none. -/
def fieldName (headers : List (String × Bytes)) : String :=
  let name := do Text.decode? (← findName none (← header? headers "content-disposition"))
  name.getD ""

/-- The value of a field as text. -/
def fieldText (headers : List (String × Bytes)) (value : Bytes) : String :=
  Text.decodeBody (MediaType.charset? ((header? headers "content-type").map Text.decodeLossy)) value

/-- Reads the padding after a boundary and the end of its line. -/
def afterBoundary (bytes : Bytes) : Option Bytes :=
  match bytes.dropWhile isGap with
  | 13 :: 10 :: rest => some rest
  | _ => none

/-- Reads the fields after a boundary. -/
def readFields (boundary : Bytes) : Bytes → Option (List WirePair)
  | 45 :: 45 :: _ => some []
  | bytes => do
    let (head, rest) ← cut? (lineEnd ++ lineEnd) (← afterBoundary bytes)
    let headers ← readHeaders headerLimit (head ++ lineEnd ++ lineEnd)
    let (value, rest) ← cut? (lineEnd ++ boundary) rest
    if rest.length < bytes.length then
      let fields ← readFields boundary rest
      return (fieldName headers, fieldText headers value) :: fields
    else none
termination_by bytes => bytes.length

/-- Why a form of several parts is refused. -/
inductive Fault where
  /-- The content type gives no boundary. -/
  | noBoundary
  | malformed
deriving DecidableEq, Repr

/-- The wording of a refusal. -/
def Fault.message : Fault → String
  | noBoundary => "Invalid `boundary` for `multipart/form-data` request"
  | malformed => "Error parsing `multipart/form-data` request"

/-- The body of the response to a refused form. -/
def Fault.toBadRequest (f : Fault) : BadRequest :=
  .plain .body ("Reading request body failed: " ++ f.message)

/-- Reads the fields of a form. -/
def pairs (contentType : Option String) (body : Bytes) : Except Fault (List WirePair) :=
  match MediaType.boundary? contentType with
  | none => .error .noBoundary
  | some boundary =>
    let boundary := bytesOf ("--" ++ boundary)
    match (cut? boundary body).bind fun (_, rest) => readFields boundary rest with
    | some fields => .ok fields
    | none => .error .malformed

end ApiCodegen.Multipart
