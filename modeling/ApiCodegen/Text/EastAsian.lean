import ApiCodegen.Text.Table.Big5
import ApiCodegen.Text.Table.Hangul
import ApiCodegen.Text.Table.Hanzi
import ApiCodegen.Text.Table.Kanji
import ApiCodegen.Text.Table.KanjiSupplement

/-!
# East Asian character sets

Character sets in which an ASCII character is one byte and an ideograph is two or more. A sequence
without a meaning becomes one replacement character, and an ASCII byte that ends it is read again.
-/

namespace ApiCodegen.Text

/-- Several bytes. -/
abbrev ByteString := List UInt8

/-- Whether a byte lies between two others. -/
def inBytes (low high : Nat) (b : UInt8) : Bool :=
  low ≤ b.toNat && b.toNat ≤ high

/-- What one sequence of bytes stands for, and how many bytes it has after the first one. -/
structure Decoded where
  chars : List Char
  more : Nat
deriving DecidableEq, Repr

namespace Decoded

/-- One character. -/
def char (n more : Nat) : Decoded := ⟨[Char.ofNat n], more⟩

/-- A sequence without a meaning. -/
def fault (more : Nat) : Decoded := ⟨['\uFFFD'], more⟩

/-- The characters of a sequence that ends with `last`, if it has any. An ASCII byte is no part of a
sequence without a meaning. -/
def ofChars (chars : Option (List Char)) (last : UInt8) (more : Nat) : Decoded :=
  match chars with
  | some chars => ⟨chars, more⟩
  | none => fault (if last.toNat < 0x80 then more - 1 else more)

/-- Like `ofChars` for a single character. -/
def ofChar (c : Option Char) (last : UInt8) (more : Nat) : Decoded :=
  ofChars (c.map ([·])) last more

end Decoded

/-- Reads one sequence after its first byte. -/
abbrev SequenceReader := UInt8 → ByteString → Decoded

/-- Reads all sequences. The counter holds how many bytes of a sequence are still to be dropped. -/
def decodeSequences (read : SequenceReader) : Nat → ByteString → List Char
  | _, [] => []
  | n + 1, _ :: rest => decodeSequences read n rest
  | 0, b :: rest =>
    let found := read b rest
    found.chars ++ decodeSequences read found.more rest

/-- The place of a trailing byte in a row that leaves out 0x7F and, when `gap` holds, the bytes up
to 0xA0. -/
def column (gap : Bool) (trail : UInt8) : Nat :=
  if trail.toNat < 0x7F then trail.toNat - 0x40 else trail.toNat - (if gap then 0x62 else 0x41)

/-- The place of a pair in rows of 94. -/
def square (lead trail : UInt8) (first : Nat) : Nat :=
  (lead.toNat - first) * 94 + (trail.toNat - first)

/-- The halfwidth katakana of a byte, which count from `first`. -/
def halfwidth (first : Nat) (b : UInt8) : Nat := 0xFF61 - first + b.toNat

/-- The syllables that KS X 1001 lacks. -/
def otherHangul : CharTable := hangul.others 0xAC00 11172

/-- The place of a trailing byte among the letters and the bytes from 0x81 on. -/
def letterColumn? (trail : UInt8) : Option Nat :=
  if inBytes 0x41 0x5A trail then some (trail.toNat - 0x41)
  else if inBytes 0x61 0x7A trail then some (trail.toNat - 0x61 + 26)
  else if inBytes 0x81 0xFE trail then some (trail.toNat - 0x81 + 52)
  else none

/-- The character of a pair in the unified Hangul code. -/
def hangulPair (lead trail : UInt8) : Option Char :=
  if inBytes 0xA1 0xFE lead && inBytes 0xA1 0xFE trail then hangul.char? (square lead trail 0xA1)
  else do
    let column ← letterColumn? trail
    otherHangul.char? <|
      if lead.toNat ≤ 0xA0 then (lead.toNat - 0x81) * 178 + column
      else 32 * 178 + (lead.toNat - 0xA1) * 84 + column

/-- Reads the unified Hangul code. -/
def readHangul : SequenceReader := fun b rest =>
  if b.toNat < 0x80 then .char b.toNat 0
  else if !inBytes 0x81 0xFE b then .fault 0
  else match rest with
    | [] => .fault 0
    | trail :: _ => .ofChar (hangulPair b trail) trail 1

/-- The characters of a pair in Big5; four pairs have a letter and a combining accent. -/
def big5Pair (lead trail : UInt8) : Option (List Char) :=
  if inBytes 0x40 0x7E trail || inBytes 0xA1 0xFE trail then
    match (lead.toNat - 0x81) * 157 + column true trail with
    | 1133 => some ['\u00CA', '\u0304']
    | 1135 => some ['\u00CA', '\u030C']
    | 1164 => some ['\u00EA', '\u0304']
    | 1166 => some ['\u00EA', '\u030C']
    | pointer => (big5.char? pointer).map ([·])
  else none

/-- Reads Big5. -/
def readBig5 : SequenceReader := fun b rest =>
  if b.toNat < 0x80 then .char b.toNat 0
  else if !inBytes 0x81 0xFE b then .fault 0
  else match rest with
    | [] => .fault 0
    | trail :: _ => .ofChars (big5Pair b trail) trail 1

/-- The character of a pair in shifted JIS; the rows from the 95th to the 114th are private. -/
def shiftedPair (lead trail : UInt8) : Option Char :=
  if inBytes 0x40 0x7E trail || inBytes 0x80 0xFC trail then
    let pointer := (lead.toNat - (if lead.toNat < 0xA0 then 0x81 else 0xC1)) * 188 +
      column false trail
    if 8836 ≤ pointer ∧ pointer ≤ 10715 then some (Char.ofNat (0xE000 + (pointer - 8836)))
    else kanji.char? pointer
  else none

/-- Reads shifted JIS. -/
def readShifted : SequenceReader := fun b rest =>
  if b.toNat ≤ 0x80 then .char b.toNat 0
  else if inBytes 0xA1 0xDF b then .char (halfwidth 0xA1 b) 0
  else if !(inBytes 0x81 0x9F b || inBytes 0xE0 0xFC b) then .fault 0
  else match rest with
    | [] => .fault 0
    | trail :: _ => .ofChar (shiftedPair b trail) trail 1

/-- The character of a pair of bytes from 0xA1 on. -/
def extendedPair (table : CharTable) (lead trail : UInt8) : Option Char :=
  if inBytes 0xA1 0xFE lead && inBytes 0xA1 0xFE trail then
    table.char? (square lead trail 0xA1)
  else none

/-- Reads the extended Unix code of Japanese. -/
def readExtended : SequenceReader := fun b rest =>
  if b.toNat < 0x80 then .char b.toNat 0
  else if b.toNat = 0x8E then
    match rest with
    | [] => .fault 0
    | trail :: _ =>
      if inBytes 0xA1 0xDF trail then .char (halfwidth 0xA1 trail) 1 else .ofChar none trail 1
  else if b.toNat = 0x8F then
    match rest with
    | [] => .fault 0
    | lead :: rest =>
      if inBytes 0xA1 0xFE lead then
        match rest with
        | [] => .fault 1
        | trail :: _ => .ofChar (extendedPair kanjiSupplement lead trail) trail 2
      else .ofChar none lead 1
  else if !inBytes 0xA1 0xFE b then .fault 0
  else match rest with
    | [] => .fault 0
    | trail :: _ => .ofChar (extendedPair kanji b trail) trail 1

/-- The ideographs of the basic block that GB 2312 lacks. -/
def otherHanzi : CharTable := hanzi.others 0x4E00 20902

/-- An ideograph that GB 2312 lacks, or one of those after them. -/
def extensionHanzi (n : Nat) : Option Char :=
  (otherHanzi.char? n).orElse fun _ => hanziTail.char? (n - otherHanzi.chars.size)

/-- The character of a pair in the Chinese national code. -/
def hanziPair (lead trail : UInt8) : Option Char :=
  let l := lead.toNat
  let privateUse := fun first n => some (Char.ofNat (first + n))
  if inBytes 0xA1 0xFE trail && 0xA1 ≤ l then
    let place := fun first => (l - first) * 94 + (trail.toNat - 0xA1)
    if l ≤ 0xA9 then hanziSymbols.char? (place 0xA1)
    else if l ≤ 0xAF then privateUse 0xE000 (place 0xAA)
    else if l ≤ 0xF7 then hanzi.char? (place 0xB0)
    else privateUse 0xE234 (place 0xF8)
  else if inBytes 0x40 0x7E trail || inBytes 0x80 0xFE trail then
    let place := fun first => (l - first) * 96 + column false trail
    if l ≤ 0xA0 then extensionHanzi ((l - 0x81) * 190 + column false trail)
    else if l = 0xA3 ∧ trail.toNat = 0xA0 then some '\u3000'
    else if l ≤ 0xA7 then privateUse 0xE4C6 (place 0xA1)
    else if l ≤ 0xA9 then hanziExtraSymbols.char? (place 0xA8)
    else extensionHanzi (32 * 190 + place 0xAA)
  else none

/-- The character of four bytes in the Chinese national code. -/
def hanziFour (a b c d : UInt8) : Option Char :=
  let pointer := (((a.toNat - 0x81) * 10 + (b.toNat - 0x30)) * 126 + (c.toNat - 0x81)) * 10 +
    (d.toNat - 0x30)
  if (39419 < pointer ∧ pointer < 189000) ∨ 1237575 < pointer then none
  else if pointer = 7457 then some '\uE7C7'
  else (hanziRanges.reverse.find? (·.1 ≤ pointer)).map fun (first, code) =>
    Char.ofNat (code + (pointer - first))

/-- Reads the Chinese national code. -/
def readHanzi : SequenceReader := fun b rest =>
  if b.toNat < 0x80 then .char b.toNat 0
  else if b.toNat = 0x80 then .char 0x20AC 0
  else if b.toNat = 0xFF then .fault 0
  else match rest with
    | [] => .fault 0
    | second :: rest =>
      if inBytes 0x30 0x39 second then
        match rest with
        | [] => .fault 1
        | third :: rest =>
          if !inBytes 0x81 0xFE third then .fault 0
          else match rest with
            | [] => .fault 2
            | fourth :: _ =>
              if !inBytes 0x30 0x39 fourth then .fault 0
              else match hanziFour b second third fourth with
                | some c => ⟨[c], 3⟩
                | none => .fault 3
      else .ofChar (hanziPair b second) second 1

/-- The sets that an escape sequence switches to. -/
inductive EscapedSet where
  | ascii
  /-- ASCII with a yen sign and an overline. -/
  | roman
  | katakana
  | kanji
deriving DecidableEq, Repr

/-- The set that the two bytes after an escape name. -/
def EscapedSet.ofEscape? : ByteString → Option EscapedSet
  | 0x28 :: 0x42 :: _ => some ascii
  | 0x28 :: 0x4A :: _ => some roman
  | 0x28 :: 0x49 :: _ => some katakana
  | 0x24 :: 0x40 :: _ | 0x24 :: 0x42 :: _ => some kanji
  | _ => none

/-- Reads one sequence other than an escape. -/
def EscapedSet.read : EscapedSet → SequenceReader
  | ascii, b, _ => if plain b then .char b.toNat 0 else .fault 0
  | roman, b, _ =>
    if b = 0x5C then .char 0xA5 0
    else if b = 0x7E then .char 0x203E 0
    else if plain b then .char b.toNat 0
    else .fault 0
  | katakana, b, _ => if inBytes 0x21 0x5F b then .char (halfwidth 0x21 b) 0 else .fault 0
  | kanji, b, rest =>
    if !inBytes 0x21 0x7E b then .fault 0
    else match rest with
      | [] => .fault 0
      | trail :: _ =>
        if trail = 0x1B then .fault 0
        else if inBytes 0x21 0x7E trail then
          match Text.kanji.char? (square b trail 0x21) with
          | some c => ⟨[c], 1⟩
          | none => .fault 1
        else .fault 1
where
  /-- The bytes that stand for themselves. -/
  plain (b : UInt8) : Bool := b.toNat < 0x80 && b != 0x0E && b != 0x0F

/-- Reads the Japanese code with escape sequences. `idle` tells that nothing has been read since the
last escape, which makes the next one a fault. -/
def decodeEscaped (set : EscapedSet) (idle : Bool) : Nat → ByteString → List Char
  | _, [] => []
  | n + 1, _ :: rest => decodeEscaped set idle n rest
  | 0, b :: rest =>
    if b = 0x1B then
      match EscapedSet.ofEscape? rest with
      | some next => (if idle then ['\uFFFD'] else []) ++ decodeEscaped next true 2 rest
      | none => '\uFFFD' :: decodeEscaped set false 0 rest
    else
      let found := set.read b rest
      found.chars ++ decodeEscaped set false found.more rest

/-- The East Asian character sets. -/
inductive EastAsianSet where
  | hangul
  | big5
  | hanzi
  | shiftedKanji
  | extendedKanji
  | escapedKanji
deriving DecidableEq, Repr

namespace EastAsianSet

/-- The East Asian character sets. -/
def all : List EastAsianSet :=
  [hangul, big5, hanzi, shiftedKanji, extendedKanji, escapedKanji]

/-- The labels of a set. -/
def labels : EastAsianSet → List String
  | hangul =>
    ["cseuckr", "csksc56011987", "euc-kr", "iso-ir-149", "korean", "ks_c_5601-1987",
      "ks_c_5601-1989", "ksc5601", "ksc_5601", "windows-949"]
  | big5 => ["big5", "big5-hkscs", "cn-big5", "csbig5", "x-x-big5"]
  | hanzi =>
    ["chinese", "csgb2312", "csiso58gb231280", "gb2312", "gb_2312", "gb_2312-80", "gb18030", "gbk",
      "iso-ir-58", "x-gbk"]
  | shiftedKanji =>
    ["csshiftjis", "ms932", "ms_kanji", "shift-jis", "shift_jis", "sjis", "windows-31j", "x-sjis"]
  | extendedKanji => ["cseucpkdfmtjapanese", "euc-jp", "x-euc-jp"]
  | escapedKanji => ["csiso2022jp", "iso-2022-jp"]

/-- The characters that bytes stand for. -/
def decode : EastAsianSet → ByteString → List Char
  | hangul => decodeSequences readHangul 0
  | big5 => decodeSequences readBig5 0
  | hanzi => decodeSequences readHanzi 0
  | shiftedKanji => decodeSequences readShifted 0
  | extendedKanji => decodeSequences readExtended 0
  | escapedKanji => decodeEscaped .ascii false 0

end EastAsianSet

end ApiCodegen.Text
