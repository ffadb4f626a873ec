import ApiCodegen.Json.Basic
import ApiCodegen.Number.Shortest

/-!
# Compact JSON text

`Json.compact` writes a value without blanks, fields in the order in which the value holds them.
-/

namespace ApiCodegen.Json

open Number

/-- The two lower case hexadecimal digits of a control character. -/
def controlDigits (n : Nat) : List Char :=
  let digits := Nat.toDigits 16 n
  List.replicate (2 - digits.length) '0' ++ digits

/-- How one character is written inside a JSON string. -/
def escapeChar (c : Char) : List Char :=
  match c with
  | '"' => ['\\', '"']
  | '\\' => ['\\', '\\']
  | '\n' => ['\\', 'n']
  | '\r' => ['\\', 'r']
  | '\t' => ['\\', 't']
  | '\x08' => ['\\', 'b']
  | '\x0c' => ['\\', 'f']
  | c => if c.toNat < 0x20 then ['\\', 'u', '0', '0'] ++ controlDigits c.toNat else [c]

/-- The JSON string of `s`. -/
def quoted (s : String) : String :=
  String.ofList ('"' :: (s.toList.flatMap escapeChar ++ ['"']))

mutual

/-- Appends the text of a value. -/
def write (out : String) : Json → String
  | .null => out ++ "null"
  | .bool true => out ++ "true"
  | .bool false => out ++ "false"
  | .int n => out ++ toString n
  | .float (.finite negative m e) => out ++ (Binary.finite negative m e).text double jsonStyle
  | .float _ => out ++ "null"
  | .str s => out ++ quoted s
  | .arr items => writeItems (out ++ "[") true items ++ "]"
  | .obj fields => writeFields (out ++ "\x7b") true fields ++ "\x7d"

/-- Appends the values of a list, with commas between them. -/
def writeItems (out : String) (first : Bool) : List Json → String
  | [] => out
  | item :: rest =>
    writeItems (write (if first then out else out ++ ",") item) false rest

/-- Appends the fields of an object, with commas between them. -/
def writeFields (out : String) (first : Bool) : List (String × Json) → String
  | [] => out
  | (name, value) :: rest =>
    let out := (if first then out else out ++ ",") ++ quoted name ++ ":"
    writeFields (write out value) false rest

end

/-- The compact text of a value. -/
def compact (j : Json) : String :=
  write "" j

end ApiCodegen.Json
