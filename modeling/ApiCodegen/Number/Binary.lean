/-!
# Binary floating point

Values of a binary format as a sign, a mantissa and a power of two, so that all rounding is exact
arithmetic on natural numbers. `Format.round` takes a fraction to the nearest value of the format,
the even neighbour on a tie, and to infinity past the largest finite value.
-/

namespace ApiCodegen.Number

/-- A format whose finite values are `m * 2 ^ e` with `m < 2 ^ precision` and `e` between the two
exponents. -/
structure Format where
  precision : Nat
  minExponent : Int
  maxExponent : Int

/-- The 32-bit format. -/
def single : Format := ⟨24, -149, 104⟩

/-- The 64-bit format. -/
def double : Format := ⟨53, -1074, 971⟩

/-- A value of some binary format. -/
inductive Binary where
  | finite (negative : Bool) (mantissa : Nat) (exponent : Int)
  | infinite (negative : Bool)
  | nan
deriving DecidableEq, Repr

/-- The integer nearest to `num / den`, the even one on a tie. -/
def roundDiv (num den : Nat) : Nat :=
  let q := num / den
  let r := num % den
  if 2 * r < den then q
  else if den < 2 * r then q + 1
  else if q % 2 = 0 then q else q + 1

/-- The fraction `num / den / base ^ e`. -/
def scaleDown (base num den : Nat) (e : Int) : Nat × Nat :=
  if 0 ≤ e then (num, den * Nat.pow base e.toNat) else (num * Nat.pow base (-e).toNat, den)

/-- The exponent at which the mantissa of `num / den` fills the precision, as far as the format
reaches down. -/
def Format.exponentOf (f : Format) (num den : Nat) : Int :=
  let e := (Nat.log2 num : Int) - Nat.log2 den - f.precision
  let (n, d) := scaleDown 2 num den e
  max (if n < d * Nat.pow 2 f.precision then e else e + 1) f.minExponent

/-- The value of the format nearest to `num / den`. -/
def Format.round (f : Format) (negative : Bool) (num den : Nat) : Binary :=
  if num = 0 then .finite negative 0 f.minExponent
  else
    let e := f.exponentOf num den
    let (n, d) := scaleDown 2 num den e
    let m := roundDiv n d
    let (m, e) := if m = Nat.pow 2 f.precision then (Nat.pow 2 (f.precision - 1), e + 1) else (m, e)
    if f.maxExponent < e then .infinite negative else .finite negative m e

/-- Every power of ten past this one is infinite in both formats, and every one below its inverse
is zero. -/
def decimalReach : Int := 400

/-- The value of the format nearest to `digits * 10 ^ exponent`. -/
def Format.ofDecimal (f : Format) (negative : Bool) (digits : Nat) (exponent : Int) : Binary :=
  let magnitude := (Nat.toDigits 10 digits).length + exponent
  if digits = 0 ∨ magnitude < -decimalReach then .finite negative 0 f.minExponent
  else if decimalReach < magnitude then .infinite negative
  else
    let (n, d) := scaleDown 10 digits 1 (-exponent)
    f.round negative n d

/-- The fraction that a finite magnitude denotes. -/
def fraction (mantissa : Nat) (exponent : Int) : Nat × Nat :=
  scaleDown 2 mantissa 1 (-exponent)

end ApiCodegen.Number
