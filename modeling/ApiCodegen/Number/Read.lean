import ApiCodegen.Number.Binary

/-!
# Numbers in text

Readers for the numbers that parameters carry. An integer is an optional sign and decimal digits
within the bounds of its type. A floating point number may leave out the digits on one side of the
point, may have an exponent, and may be spelled `inf`, `infinity` or `nan` in any case.
-/

namespace ApiCodegen.Number

/-- The number that the digits write. -/
def ofDigits (digits : List Char) : Nat :=
  digits.foldl (fun n c => n * 10 + (c.toNat - '0'.toNat)) 0

/-- Splits off a leading sign; `true` is the minus. -/
def readSign : List Char → Bool × List Char
  | '-' :: cs => (true, cs)
  | '+' :: cs => (false, cs)
  | cs => (false, cs)

/-- Reads an integer between `low` and `high`. -/
def readInt? (low high : Int) (s : String) : Option Int :=
  let (negative, digits) := readSign s.toList
  if digits.isEmpty || !digits.all Char.isDigit then none
  else
    let n : Int := ofDigits digits
    let n := if negative then -n else n
    if low ≤ n ∧ n ≤ high then some n else none

/-- Reads a 32-bit integer. -/
def readInt32? : String → Option Int := readInt? (-2147483648) 2147483647

/-- Reads a 64-bit integer. -/
def readInt64? : String → Option Int := readInt? (-9223372036854775808) 9223372036854775807

/-- Reads the exponent part of a number, which may be absent. -/
def readExponent? : List Char → Option Int
  | [] => some 0
  | c :: cs =>
    let (negative, digits) := readSign cs
    if (c == 'e' || c == 'E') && !digits.isEmpty && digits.all Char.isDigit then
      some (if negative then -(ofDigits digits : Int) else ofDigits digits)
    else none

/-- Reads an unsigned decimal number as digits and a power of ten. -/
def readDecimal? (cs : List Char) : Option (Nat × Int) :=
  let (whole, rest) := cs.span Char.isDigit
  let (decimals, rest) := match rest with
    | '.' :: rest => rest.span Char.isDigit
    | rest => ([], rest)
  if whole.isEmpty && decimals.isEmpty then none
  else (readExponent? rest).map fun e => (ofDigits (whole ++ decimals), e - decimals.length)

/-- Reads a floating point number, rounded to the format. -/
def readBinary? (f : Format) (s : String) : Option Binary :=
  let (negative, cs) := readSign s.toList
  let word := String.ofList (cs.map Char.toLower)
  if word == "nan" then some .nan
  else if word == "inf" || word == "infinity" then some (.infinite negative)
  else (readDecimal? cs).map fun (digits, e) => f.ofDecimal negative digits e

/-- Reads `true` or `false`. -/
def readBool? : String → Option Bool
  | "true" => some true
  | "false" => some false
  | _ => none

end ApiCodegen.Number
