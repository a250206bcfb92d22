/-!
# Rounding decimals to binary64

A decimal is read as a quotient of natural numbers and rounded in exact
arithmetic to the nearest number with 53 binary digits and an exponent of at
least -1074, where a tie goes to the even mantissa. A value past the largest of
these numbers is infinite.
-/

namespace MoveBindings.Decimal

/-- A finite magnitude `mantissa * 2 ^ exponent` of binary64. -/
structure Magnitude where
  mantissa : Nat
  exponent : Int
deriving DecidableEq

/-- A number of binary64. -/
inductive Binary64 where
  | nan
  | infinite (negative : Bool)
  | finite (negative : Bool) (magnitude : Magnitude)
deriving DecidableEq

/-- A quotient rounded to the nearest natural number; a tie goes to the even one. -/
def roundQuotient (numerator denominator : Nat) : Nat :=
  let floor := numerator / denominator
  let twice := 2 * (numerator % denominator)
  if twice < denominator then floor
  else if denominator < twice then floor + 1
  else floor + floor % 2

/-- `value * 2 ^ exponent` as a fraction. -/
def scaleByTwo (numerator denominator : Nat) (exponent : Int) : Nat × Nat :=
  if exponent < 0 then (numerator, denominator * Nat.pow 2 (-exponent).toNat)
  else (numerator * Nat.pow 2 exponent.toNat, denominator)

/-- The greatest `e` with `2 ^ e ≤ numerator / denominator`, for a positive quotient. -/
def floorLog2 (numerator denominator : Nat) : Int :=
  let estimate : Int := (Nat.log2 numerator : Int) - (Nat.log2 denominator : Int)
  let power := scaleByTwo denominator 1 estimate
  if power.1 ≤ numerator * power.2 then estimate else estimate - 1

namespace Magnitude

/-- The least exponent of a magnitude. -/
def leastExponent : Int := -1074

/-- The greatest exponent of a magnitude. -/
def greatestExponent : Int := 971

/-- The least mantissa of a magnitude that uses all 53 binary digits. -/
def leastMantissa : Nat := Nat.pow 2 52

/-- The magnitude nearest to a quotient, unless that lies beyond the largest one. -/
def ofQuotient (numerator denominator : Nat) : Option Magnitude :=
  if numerator = 0 then some ⟨0, leastExponent⟩
  else
    let exponent := max (floorLog2 numerator denominator - 52) leastExponent
    let scaled := scaleByTwo numerator denominator (-exponent)
    let mantissa := roundQuotient scaled.1 scaled.2
    let rounded : Magnitude :=
      if mantissa = 2 * leastMantissa then ⟨leastMantissa, exponent + 1⟩
      else ⟨mantissa, exponent⟩
    if greatestExponent < rounded.exponent then none else some rounded

/-- The magnitude nearest to `digits * 10 ^ exponent`. Exponents that are out of range whatever
the digits are settled without computing the power. -/
def ofDecimal (digits : Nat) (exponent : Int) : Option Magnitude :=
  let length : Int := (Nat.toDigits 10 digits).length
  if digits = 0 ∨ length + exponent < -400 then some ⟨0, leastExponent⟩
  else if 400 < length + exponent then none
  else if exponent < 0 then ofQuotient digits (Nat.pow 10 (-exponent).toNat)
  else ofQuotient (digits * Nat.pow 10 exponent.toNat) 1

end Magnitude

/-- The number nearest to a signed decimal. -/
def Binary64.ofDecimal (negative : Bool) (digits : Nat) (exponent : Int) : Binary64 :=
  match Magnitude.ofDecimal digits exponent with
  | some magnitude => .finite negative magnitude
  | none => .infinite negative

end MoveBindings.Decimal
