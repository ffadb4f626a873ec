import ApiCodegen.Json.Basic
import ApiCodegen.Json.Failure
import ApiCodegen.Number.Read
import ApiCodegen.Text.Utf8

/-!
# Scalars of a JSON document

Readers for the words, strings and numbers of a document, over its bytes. Each returns what it read
and the bytes that follow.

A whole number stays exact as long as it fits 64 bits; any other number becomes a 64-bit float from
its leading digits and a power of ten, and one beyond the largest float is malformed.
-/

namespace ApiCodegen.Json

open Number

/-- The bytes of a document that are still to be read. -/
abbrev Bytes := List UInt8

/-- A reader of values of type `α`. -/
abbrev Reader (α : Type) := Bytes → Except Failure (α × Bytes)

/-- The byte of an ASCII character. -/
def ascii (c : Char) : UInt8 := UInt8.ofNat c.toNat

/-- The four blanks of JSON. -/
def isGap (b : UInt8) : Bool :=
  b == 0x20 || b == 0x0A || b == 0x0D || b == 0x09

/-- The bytes from the next that is no blank. -/
def skipGap (bytes : Bytes) : Bytes :=
  bytes.dropWhile isGap

/-- Whether the byte is a decimal digit. -/
def isDigitByte (b : UInt8) : Bool :=
  ascii '0' ≤ b && b ≤ ascii '9'

/-- Reads the given bytes and nothing else. -/
def expect : List UInt8 → Bytes → Except Failure Bytes
  | [], bytes => .ok bytes
  | _ :: _, [] => .error .early
  | w :: word, b :: bytes => if w = b then expect word bytes else .error .malformed

/-- Reads the rest of a word whose first letter has been seen. -/
def word (rest : String) (bytes : Bytes) : Except Failure Bytes :=
  expect (rest.toList.map ascii) bytes

/-- The value of a hexadecimal digit. -/
def hexDigit? (b : UInt8) : Option Nat :=
  let n := b.toNat
  if 0x30 ≤ n ∧ n ≤ 0x39 then some (n - 0x30)
  else if 0x41 ≤ n ∧ n ≤ 0x46 then some (n - 0x37)
  else if 0x61 ≤ n ∧ n ≤ 0x66 then some (n - 0x57)
  else none

/-- The number that four hexadecimal digits write. -/
def hex4? (a b c d : UInt8) : Option Nat := do
  let a ← hexDigit? a
  let b ← hexDigit? b
  let c ← hexDigit? c
  let d ← hexDigit? d
  return ((a * 16 + b) * 16 + c) * 16 + d

/-- The byte that a one-letter escape stands for. -/
def escapedByte? (b : UInt8) : Option UInt8 :=
  [('"', 0x22), ('\\', 0x5C), ('/', 0x2F), ('b', 0x08), ('f', 0x0C), ('n', 0x0A), ('r', 0x0D),
    ('t', 0x09)].findSome? fun (c, value) => if ascii c = b then some value else none

/-- The bytes of a character, last byte first, before `bytes`. -/
def pushChar (n : Nat) (bytes : List UInt8) : List UInt8 :=
  (Text.encode (String.singleton (Char.ofNat n))).reverse ++ bytes

/-- What follows a four digit escape: a whole character, or the first half of a pair. -/
inductive EscapeStep where
  | char (n : Nat)
  | half (n : Nat)
  | lone

/-- Joins an escape with the first half of a pair that may stand before it. -/
def escapeStep : Option Nat → Nat → EscapeStep
  | none, n =>
    if n < 0xD800 ∨ 0xE000 ≤ n then .char n
    else if n < 0xDC00 then .half n
    else .lone
  | some high, n =>
    if 0xDC00 ≤ n ∧ n < 0xE000 then .char (0x10000 + (high - 0xD800) * 1024 + (n - 0xDC00))
    else .lone

/-- Reads the inside of a string and its closing quote. `seen` holds the bytes read so far, last
first, and `high` the first half of a surrogate pair. -/
def stringBody (seen : List UInt8) (high : Option Nat) : Reader String
  | [] => .error .early
  | b :: bytes =>
    if b = 0x5C then
      match bytes with
      | [] => .error .early
      | e :: bytes =>
        if e = ascii 'u' then
          match bytes with
          | h₁ :: h₂ :: h₃ :: h₄ :: bytes =>
            match (hex4? h₁ h₂ h₃ h₄).map (escapeStep high) with
            | some (.char n) => stringBody (pushChar n seen) none bytes
            | some (.half n) => stringBody seen (some n) bytes
            | _ => .error .malformed
          | _ => .error .early
        else match high, escapedByte? e with
          | none, some value => stringBody (value :: seen) none bytes
          | _, _ => .error .malformed
    else if high.isSome ∨ b < 0x20 then .error .malformed
    else if b = 0x22 then
      match Text.decode? seen.reverse with
      | some s => .ok (s, bytes)
      | none => .error .malformed
    else stringBody (b :: seen) none bytes

/-- Reads a string after its opening quote. -/
def string : Reader String :=
  stringBody [] none

/-- The largest number of 64 bits. -/
def wordMax : Nat := Nat.pow 2 64 - 1

/-- The leading digits of a number as far as they fit 64 bits, and the power of ten that stands for
the rest. -/
structure Significand where
  digits : Nat
  exponent : Int
  full : Bool

/-- Takes up a digit before the point. -/
def Significand.whole (s : Significand) (digit : Nat) : Significand :=
  if s.full ∨ wordMax < s.digits * 10 + digit then
    { s with exponent := s.exponent + 1, full := true }
  else { s with digits := s.digits * 10 + digit }

/-- Takes up a digit after the point. -/
def Significand.decimal (s : Significand) (digit : Nat) : Significand :=
  if s.full ∨ wordMax < s.digits * 10 + digit then { s with full := true }
  else { s with digits := s.digits * 10 + digit, exponent := s.exponent - 1 }

/-- The value of a digit byte. -/
def digitValue (b : UInt8) : Nat := b.toNat - 0x30

/-- The magnitude of `x` as mantissa and exponent. -/
def magnitude : Binary → Nat × Int
  | .finite _ m e => (m, e)
  | _ => (0, 0)

/-- The product of two magnitudes, rounded. -/
def mulRounded (x y : Binary) : Binary :=
  let (m, e) := magnitude x
  let (n, f) := magnitude y
  let (num, den) := fraction (m * n) (e + f)
  double.round false num den

/-- The quotient of two magnitudes, rounded. -/
def divRounded (x y : Binary) : Binary :=
  let (m, e) := magnitude x
  let (n, f) := magnitude y
  let (num, den) := fraction m (e - f)
  double.round false num (den * n)

/-- The float nearest to a power of ten. -/
def powerOfTen (n : Nat) : Binary :=
  double.round false (Nat.pow 10 n) 1

/-- Scales a float by a power of ten in steps of at most 308 places; none if it grows too large. -/
def scaleByTen (x : Binary) (exponent : Int) : Option Binary :=
  if (magnitude x).1 = 0 then some x
  else if 308 < exponent then none
  else if 0 ≤ exponent then
    match mulRounded x (powerOfTen exponent.toNat) with
    | .finite negative m e => some (.finite negative m e)
    | _ => none
  else if -308 ≤ exponent then some (divRounded x (powerOfTen (-exponent).toNat))
  else scaleByTen (divRounded x (powerOfTen 308)) (exponent + 308)
termination_by (-exponent).toNat
decreasing_by omega

/-- Gives a magnitude its sign. -/
def signed (negative : Bool) (x : Binary) : Binary :=
  let (m, e) := magnitude x
  .finite negative m e

/-- The float of a significand with an exponent; out of range is malformed. -/
def floatOf (negative : Bool) (s : Significand) (exponent : Int) : Except Failure Json :=
  match scaleByTen (double.round false s.digits 1) (s.exponent + exponent) with
  | some x => .ok (.float (signed negative x))
  | none => .error .malformed

/-- The value of a number without point and exponent. -/
def wholeNumber (negative : Bool) (s : Significand) : Except Failure Json :=
  if s.full then floatOf negative s 0
  else if negative then
    if s.digits = 0 ∨ Nat.pow 2 63 < s.digits then
      .ok (.float (signed true (double.round false s.digits 1)))
    else .ok (.int (-(s.digits : Int)))
  else .ok (.int s.digits)

/-- The largest exponent that is read digit by digit. -/
def exponentMax : Nat := Nat.pow 2 31 - 1

/-- Reads the exponent after its letter. -/
def exponentPart (negative : Bool) (s : Significand) (bytes : Bytes) :
    Except Failure (Json × Bytes) :=
  let (down, bytes) := match bytes with
    | b :: rest => if b = ascii '-' then (true, rest) else if b = ascii '+' then (false, rest)
      else (false, b :: rest)
    | [] => (false, [])
  let (digits, rest) := bytes.span isDigitByte
  match digits with
  | [] => .error (if bytes.isEmpty then .early else .malformed)
  | digits =>
    let n := digits.foldl (fun n b => n * 10 + digitValue b) 0
    if exponentMax < n then
      if s.digits ≠ 0 ∧ !down then .error .malformed
      else .ok (.float (.finite negative 0 double.minExponent), rest)
    else (floatOf negative s (if down then -(n : Int) else n)).map (·, rest)

/-- Reads what follows the digits before the point. -/
def numberTail (negative : Bool) (s : Significand) : Reader Json
  | [] => (wholeNumber negative s).map (·, [])
  | b :: bytes =>
    if b = ascii '.' then
      let (digits, rest) := bytes.span isDigitByte
      if digits.isEmpty then .error (if bytes.isEmpty then .early else .malformed)
      else
        let s := digits.foldl (fun s b => s.decimal (digitValue b)) { s with full := false }
        match rest with
        | b :: more =>
          if b = ascii 'e' ∨ b = ascii 'E' then exponentPart negative s more
          else (floatOf negative s 0).map (·, rest)
        | [] => (floatOf negative s 0).map (·, rest)
    else if b = ascii 'e' ∨ b = ascii 'E' then exponentPart negative s bytes
    else (wholeNumber negative s).map (·, b :: bytes)

/-- Reads an unsigned number. -/
def unsigned (negative : Bool) (bytes : Bytes) : Except Failure (Json × Bytes) :=
  let (digits, rest) := bytes.span isDigitByte
  match digits with
  | [] => .error (if bytes.isEmpty then .early else .malformed)
  | first :: more =>
    if first = ascii '0' ∧ !more.isEmpty then .error .malformed
    else
      numberTail negative (digits.foldl (fun s b => s.whole (digitValue b)) ⟨0, 0, false⟩) rest

/-- Reads a number from its first byte, a digit or a minus. -/
def number : Reader Json
  | [] => .error .early
  | b :: bytes => if b = ascii '-' then unsigned true bytes else unsigned false (b :: bytes)

end ApiCodegen.Json
