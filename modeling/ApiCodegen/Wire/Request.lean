import ApiCodegen.Text.Utf8
import ApiCodegen.Wire.ErrorBody

/-!
# Requests

What a handler reads from a request besides typed parameters: the pairs of its headers, the pairs of
a form in the URL encoding, and a JSON body.
-/

namespace ApiCodegen

/-- The headers of a message in order of arrival. -/
abbrev Headers := List WirePair

namespace Headers

/-- Whether a value is printable ASCII with tabs. -/
def isPrintable (value : String) : Bool :=
  value.toList.all fun c => c == '\t' || (31 < c.toNat && c.toNat < 127)

/-- The headers with names in lower case, all values of a name at its first place. -/
def grouped (headers : Headers) : Headers :=
  let lower := headers.map fun (name, value) => (Text.asciiLower name, value)
  let names := (lower.map Prod.fst).eraseDups
  names.flatMap fun name => lower.filter (·.1 == name)

/-- The pairs that header parameters are read from. Values that are not printable are left out. -/
def pairs (headers : Headers) : List WirePair :=
  (grouped headers).filter fun (_, value) => isPrintable value

/-- The content type that the headers declare, empty where they declare none. -/
def contentType (headers : Headers) : String :=
  match (headers.find? fun (name, _) => Text.asciiLower name == "content-type") with
  | some (_, value) => if isPrintable value then value else ""
  | none => ""

/-- Checks that the headers declare a content type. -/
def checkContentType (headers : Headers) (expected : String) : Except BadRequest Unit :=
  let found := contentType headers
  if Text.occursIn expected.toList found.toList then .ok ()
  else
    .error ⟨.header, "Failed to parse header",
      [⟨"Content-Type", ParamProblem.absentCode,
        some ("Expected Content-Type header: '" ++ expected ++ "' was not provided, found: '" ++
          found ++ "'")⟩]⟩

end Headers

namespace UrlEncoded

/-- The value of a hexadecimal digit. -/
def hexDigit? (b : UInt8) : Option Nat :=
  let n := b.toNat
  if 48 ≤ n ∧ n ≤ 57 then some (n - 48)
  else if 65 ≤ n ∧ n ≤ 70 then some (n - 55)
  else if 97 ≤ n ∧ n ≤ 102 then some (n - 87)
  else none

/-- The byte of an escape, if both characters after the percent sign are digits. -/
def escape? : List UInt8 → Option UInt8
  | a :: b :: _ => do return UInt8.ofNat ((← hexDigit? a) * 16 + (← hexDigit? b))
  | _ => none

/-- Replaces plus signs and escapes. A percent sign without two digits stands for itself. The
counter holds how many bytes of an escape are still to be dropped. -/
def unescape : Nat → List UInt8 → List UInt8
  | _, [] => []
  | n + 1, _ :: rest => unescape n rest
  | 0, b :: rest =>
    if b = 43 then 32 :: unescape 0 rest
    else if b = 37 then
      match escape? rest with
      | some byte => byte :: unescape 2 rest
      | none => b :: unescape 0 rest
    else b :: unescape 0 rest

/-- The pieces between ampersands. -/
def pieces : List UInt8 → List (List UInt8)
  | [] => [[]]
  | b :: bs =>
    match pieces bs with
    | [] => [[b]]
    | piece :: rest => if b = 38 then [] :: piece :: rest else (b :: piece) :: rest

/-- The name and the value of a piece, parted at the first equals sign. -/
def pairOf (piece : List UInt8) : WirePair :=
  let (name, rest) := piece.span (· != 61)
  (Text.decodeLossy (unescape 0 name), Text.decodeLossy (unescape 0 (rest.drop 1)))

/-- The pairs of a form in the URL encoding; empty pieces give none. -/
def pairs (body : List UInt8) : List WirePair :=
  ((pieces body).filter (!·.isEmpty)).map pairOf

end UrlEncoded

namespace JsonBody

/-- The body of the response to a JSON body that could not be read. Only a value of the wrong shape
is reported with its place. -/
def refusal (failure : Json.Failure) : BadRequest :=
  ⟨.body, "Failed to parse body",
    match failure.path? with
    | some path =>
      [⟨path, ParamProblem.unreadableCode, some ("Failed to parse JSON, field: " ++ path)⟩]
    | none => []⟩

/-- Reads a JSON body. -/
def read (schema : Json.Schema) (body : List UInt8) : Except BadRequest Json :=
  (schema.read body).mapError refusal

end JsonBody

end ApiCodegen
