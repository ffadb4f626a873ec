import ApiCodegen.Text.ByteSet
import ApiCodegen.Text.Chars
import ApiCodegen.Text.EastAsian
import ApiCodegen.Text.Utf8

/-!
# Character sets of text bodies

A text body is read in the character set that its content type names. A byte order mark overrules
the name, and an unknown name means UTF-8. The label `iso-8859-1` stands for windows-1252, as it
does on the web.
-/

namespace ApiCodegen.Text

/-- The character sets that bodies are read in. -/
inductive Charset where
  | utf8
  | bytes (set : ByteSet)
  | eastAsian (set : EastAsianSet)
  | utf16 (bigEndian : Bool)
  /-- A set too dangerous to read: a body that is not empty is one replacement character. -/
  | unread
deriving DecidableEq, Repr

/-- The labels of little endian UTF-16. -/
def utf16Labels : List String :=
  ["csunicode", "iso-10646-ucs-2", "ucs-2", "unicode", "unicodefeff", "utf-16", "utf-16le"]

/-- The labels of big endian UTF-16. -/
def utf16BigLabels : List String := ["unicodefffe", "utf-16be"]

/-- The labels of the sets that are not read. -/
def unreadLabels : List String :=
  ["csiso2022kr", "hz-gb-2312", "iso-2022-cn", "iso-2022-cn-ext", "iso-2022-kr", "replacement"]

/-- The character sets other than UTF-8 with their labels. -/
def Charset.labelled : List (List String × Charset) :=
  ByteSet.all.map (fun set => (set.labels, .bytes set)) ++
    EastAsianSet.all.map (fun set => (set.labels, .eastAsian set)) ++
    [(utf16Labels, .utf16 false), (utf16BigLabels, .utf16 true), (unreadLabels, .unread)]

/-- The character set that a label names, in any case and between blanks. -/
def Charset.ofLabel (label : String) : Charset :=
  let label := asciiLower (String.ofList (trim label.toList))
  match labelled.find? fun (labels, _) => labels.contains label with
  | some (_, set) => set
  | none => .utf8

/-- The 16-bit units of the bytes, and whether a byte is left over. -/
def units16 (bigEndian : Bool) : List UInt8 → List Nat × Bool
  | [] => ([], false)
  | [_] => ([], true)
  | a :: b :: rest =>
    let (units, odd) := units16 bigEndian rest
    ((if bigEndian then a.toNat * 256 + b.toNat else b.toNat * 256 + a.toNat) :: units, odd)

/-- Pairs up surrogates, after the first half `lead` of a pair. A unit without its partner becomes
the replacement character, as does a byte left over at the end; both at once are one fault. -/
def utf16Chars (odd : Bool) : Option Nat → List Nat → List Char
  | none, [] => if odd then ['\uFFFD'] else []
  | some _, [] => ['\uFFFD']
  | some l, u :: rest =>
    if 0xDC00 ≤ u ∧ u < 0xE000 then
      Char.ofNat (0x10000 + (l - 0xD800) * 1024 + (u - 0xDC00)) :: utf16Chars odd none rest
    else if 0xD800 ≤ u ∧ u < 0xDC00 then '\uFFFD' :: utf16Chars odd (some u) rest
    else '\uFFFD' :: Char.ofNat u :: utf16Chars odd none rest
  | none, u :: rest =>
    if 0xD800 ≤ u ∧ u < 0xDC00 then utf16Chars odd (some u) rest
    else if 0xDC00 ≤ u ∧ u < 0xE000 then '\uFFFD' :: utf16Chars odd none rest
    else Char.ofNat u :: utf16Chars odd none rest

/-- Reads bytes in a given character set. -/
def Charset.decode (set : Charset) (bytes : List UInt8) : String :=
  match set with
  | .utf8 => decodeLossy bytes
  | .bytes set => String.ofList (bytes.map set.char)
  | .eastAsian set => String.ofList (set.decode bytes)
  | .utf16 bigEndian =>
    let (units, odd) := units16 bigEndian bytes
    String.ofList (utf16Chars odd none units)
  | .unread => if bytes.isEmpty then "" else "\uFFFD"

/-- Reads a body: a byte order mark decides the character set and is left out. -/
def decodeBody (label : Option String) (bytes : List UInt8) : String :=
  match bytes with
  | 0xEF :: 0xBB :: 0xBF :: rest => Charset.utf8.decode rest
  | 0xFF :: 0xFE :: rest => (Charset.utf16 false).decode rest
  | 0xFE :: 0xFF :: rest => (Charset.utf16 true).decode rest
  | _ => ((label.map Charset.ofLabel).getD .utf8).decode bytes

end ApiCodegen.Text
