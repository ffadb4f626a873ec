import ApiCodegen.Number.Binary

/-!
# Shortest decimal text

The text of a floating point value has the fewest digits that still round to the value, and of
those the nearest. Where the point stands, and which way an exact tie goes, is the choice of a
`FloatStyle`.
-/

namespace ApiCodegen.Number

/-- Which of two equally near candidates is taken. -/
inductive Tie where
  | up
  | even
deriving DecidableEq

/-- The reals that round to a value, as numerators over one denominator; the ends belong to it
when `closed` holds. -/
structure Interval where
  low : Nat
  value : Nat
  high : Nat
  den : Nat
  closed : Bool

/-- The interval of `mantissa * 2 ^ exponent`. The gap below a power of two is half the gap above,
except at the bottom of the format. -/
def Format.interval (f : Format) (mantissa : Nat) (exponent : Int) : Interval :=
  let (scale, den) := fraction 1 (exponent - 2)
  let below := if mantissa = Nat.pow 2 (f.precision - 1) ∧ f.minExponent < exponent then 1 else 2
  { low := (4 * mantissa - below) * scale
    value := 4 * mantissa * scale
    high := (4 * mantissa + 2) * scale
    den := den
    closed := mantissa % 2 = 0 }

/-- The number of digits before the point: the least `k` with `num / den < 10 ^ k`. -/
def pointPlace (num den : Nat) : Int :=
  let estimate := (((Nat.log2 num : Int) - Nat.log2 den) * 30103).fdiv 100000
  let fits := fun k => let (n, d) := scaleDown 10 num den k; decide (n < d)
  (([estimate - 1, estimate, estimate + 1].find? fits).getD (estimate + 2))

/-- Whether `digits * 10 ^ exponent` lies in the interval. -/
def Interval.contains (i : Interval) (digits : Nat) (exponent : Int) : Bool :=
  let (n, d) := scaleDown 10 digits 1 (-exponent)
  let x := n * i.den
  if i.closed then i.low * d ≤ x && x ≤ i.high * d else i.low * d < x && x < i.high * d

/-- The nearer of the two neighbours of the value among the decimals with the given exponent, if
one of them lies in the interval. -/
def Interval.candidate (i : Interval) (tie : Tie) (exponent : Int) : Option Nat :=
  let (n, d) := scaleDown 10 i.value i.den exponent
  let floor := n / d
  let rest := n % d
  match i.contains floor exponent, i.contains (floor + 1) exponent with
  | true, true =>
    if 2 * rest < d then some floor
    else if d < 2 * rest then some (floor + 1)
    else match tie with
      | .up => some (floor + 1)
      | .even => some (if floor % 2 = 0 then floor else floor + 1)
  | true, false => some floor
  | false, true => some (floor + 1)
  | false, false => none

/-- The digits of a positive value and the place of the point among them. -/
def Format.shortest (f : Format) (tie : Tie) (mantissa : Nat) (exponent : Int) :
    List Char × Int :=
  let i := f.interval mantissa exponent
  let place := pointPlace i.value i.den
  let found := (List.range 17).findSome? fun (n : Nat) =>
    (i.candidate tie (place - ((n : Int) + 1))).map fun digits => (digits, place - ((n : Int) + 1))
  let (digits, unit) := found.getD (i.value / i.den, 0)
  let text := Nat.toDigits 10 digits
  let kept := (text.reverse.dropWhile (· == '0')).reverse
  (kept, unit + text.length)

/-- How a finite value is laid out. -/
structure FloatStyle where
  /-- The choice between equally near digits. -/
  tie : Tie
  /-- Whether a whole number ends in `.0`. -/
  pointZero : Bool
  /-- The places of the point at which no exponent is written. -/
  positional : Int → Bool
  /-- Whether an exponent above zero has a sign. -/
  plusSign : Bool

/-- Plain decimal notation at every magnitude. -/
def plainStyle : FloatStyle := ⟨.up, false, fun _ => true, false⟩

/-- The notation of JSON documents: an exponent, always with a sign, from 10^16 and below 10^-5. -/
def jsonStyle : FloatStyle := ⟨.even, true, fun place => -5 < place && place ≤ 16, true⟩

/-- Digits with the point at a given place. -/
def positionalText (pointZero : Bool) (digits : List Char) (place : Int) : List Char :=
  if place ≤ 0 then '0' :: '.' :: (List.replicate (-place).toNat '0' ++ digits)
  else if digits.length ≤ place then
    digits ++ List.replicate (place.toNat - digits.length) '0' ++
      (if pointZero then ['.', '0'] else [])
  else digits.take place.toNat ++ '.' :: digits.drop place.toNat

/-- Digits with the point after the first and a power of ten. -/
def exponentText (plusSign : Bool) (digits : List Char) (place : Int) : List Char :=
  let head := match digits with
    | [] => []
    | [d] => [d]
    | d :: rest => d :: '.' :: rest
  let sign := if plusSign && 1 < place then ['+'] else []
  head ++ 'e' :: (sign ++ (toString (place - 1)).toList)

/-- The text of a value. -/
def Binary.text (f : Format) (style : FloatStyle) : Binary → String
  | .nan => "NaN"
  | .infinite negative => if negative then "-inf" else "inf"
  | .finite negative mantissa exponent =>
    let body :=
      if mantissa = 0 then if style.pointZero then ['0', '.', '0'] else ['0']
      else
        let (digits, place) := f.shortest style.tie mantissa exponent
        if style.positional place then positionalText style.pointZero digits place
        else exponentText style.plusSign digits place
    String.ofList (if negative then '-' :: body else body)

end ApiCodegen.Number
