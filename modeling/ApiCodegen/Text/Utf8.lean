/-!
# UTF-8

Reading bytes as UTF-8. `decode` refuses the first byte that is no part of a character;
`decodeLossy` puts the replacement character U+FFFD in the place of every maximal prefix of a
character that breaks off.
-/

namespace ApiCodegen.Text

/-- What a lead byte announces: how many continuation bytes follow, the range that the first of
them must lie in, and the bits that the lead byte gives. -/
structure Utf8Lead where
  count : Nat
  low : Nat
  high : Nat
  bits : Nat

/-- Reads a byte that starts a character of more than one byte. -/
def utf8Lead? (b : UInt8) : Option Utf8Lead :=
  let n := b.toNat
  if n < 0xC2 then none
  else if n < 0xE0 then some ⟨1, 0x80, 0xBF, n - 0xC0⟩
  else if n == 0xE0 then some ⟨2, 0xA0, 0xBF, 0⟩
  else if n == 0xED then some ⟨2, 0x80, 0x9F, 0xD⟩
  else if n < 0xF0 then some ⟨2, 0x80, 0xBF, n - 0xE0⟩
  else if n == 0xF0 then some ⟨3, 0x90, 0xBF, 0⟩
  else if n < 0xF4 then some ⟨3, 0x80, 0xBF, n - 0xF0⟩
  else if n == 0xF4 then some ⟨3, 0x80, 0x8F, 4⟩
  else none

/-- A character that is still missing `count` bytes, the next of them between `low` and `high`. -/
structure Utf8Partial where
  count : Nat
  low : Nat
  high : Nat
  bits : Nat

/-- A decoded piece: a character, or a place where none could be read. -/
inductive Utf8Piece where
  | char (c : Char)
  | broken

/-- One byte between characters. -/
def utf8Start (b : UInt8) : List Utf8Piece × Option Utf8Partial :=
  if b.toNat < 0x80 then ([.char (Char.ofNat b.toNat)], none)
  else match utf8Lead? b with
    | some lead => ([], some ⟨lead.count, lead.low, lead.high, lead.bits⟩)
    | none => ([.broken], none)

/-- One byte inside a character; a byte that does not fit starts anew. -/
def utf8Continue (p : Utf8Partial) (b : UInt8) : List Utf8Piece × Option Utf8Partial :=
  if p.low ≤ b.toNat ∧ b.toNat ≤ p.high then
    let bits := p.bits * 64 + (b.toNat - 0x80)
    if p.count ≤ 1 then ([.char (Char.ofNat bits)], none)
    else ([], some ⟨p.count - 1, 0x80, 0xBF, bits⟩)
  else
    let (pieces, next) := utf8Start b
    (.broken :: pieces, next)

/-- The pieces that the bytes spell, after the part `pending` of a character. -/
def utf8Pieces : Option Utf8Partial → List UInt8 → List Utf8Piece
  | none, [] => []
  | some _, [] => [.broken]
  | pending, b :: bs =>
    let (pieces, next) := match pending with
      | none => utf8Start b
      | some p => utf8Continue p b
    pieces ++ utf8Pieces next bs

/-- The text of the bytes with a replacement character for each broken piece. -/
def decodeLossy (bytes : List UInt8) : String :=
  String.ofList <| (utf8Pieces none bytes).map fun
    | .char c => c
    | .broken => '\uFFFD'

/-- The text of the bytes, when they are valid. -/
def decode? (bytes : List UInt8) : Option String :=
  let chars? := (utf8Pieces none bytes).mapM fun
    | .char c => some c
    | .broken => none
  chars?.map String.ofList

/-- The bytes of `s`. -/
def encode (s : String) : List UInt8 :=
  s.toUTF8.toList

end ApiCodegen.Text
