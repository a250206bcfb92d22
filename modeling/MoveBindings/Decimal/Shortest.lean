import MoveBindings.Decimal.Rounding

/-!
# Shortest decimals

The decimal chosen for a binary64 magnitude is the one with the fewest digits
among those that round back to it, and the nearest of these. The decimals that
round back form an interval around the magnitude: it reaches halfway to both
neighbours and holds its ends exactly when the mantissa is even.
-/

namespace MoveBindings.Decimal

/-- `digits * 10 ^ exponent`. -/
structure Digits where
  digits : Nat
  exponent : Int
deriving DecidableEq

namespace Magnitude

/-- A magnitude with the interval that rounds to it, in quarters of its last binary digit over
a common denominator. -/
structure Neighbourhood where
  value : Nat
  lower : Nat
  upper : Nat
  denominator : Nat
  closed : Bool

/-- The neighbour below a power of two is half as far away as the one above. -/
def neighbourhood (m : Magnitude) : Neighbourhood :=
  let unit := scaleByTwo 1 1 (m.exponent - 2)
  let below := if m.mantissa = leastMantissa ∧ leastExponent < m.exponent then 1 else 2
  { value := 4 * m.mantissa * unit.1
    lower := (4 * m.mantissa - below) * unit.1
    upper := (4 * m.mantissa + 2) * unit.1
    denominator := unit.2
    closed := m.mantissa % 2 == 0 }

namespace Neighbourhood

/-- The same interval measured in units of `10 ^ exponent`. -/
def inUnits (n : Neighbourhood) (exponent : Int) : Neighbourhood :=
  if exponent < 0 then
    let power := Nat.pow 10 (-exponent).toNat
    { n with value := n.value * power, lower := n.lower * power, upper := n.upper * power }
  else { n with denominator := n.denominator * Nat.pow 10 exponent.toNat }

/-- Whether a natural number lies in the interval. -/
def holds (n : Neighbourhood) (k : Nat) : Bool :=
  let point := k * n.denominator
  if n.closed then n.lower ≤ point && point ≤ n.upper
  else n.lower < point && point < n.upper

/-- The natural number nearest to the value among its two neighbours in the interval. -/
def nearest? (n : Neighbourhood) : Option Nat :=
  let floor := n.value / n.denominator
  match n.holds floor, n.holds (floor + 1) with
  | true, true =>
    let twice := 2 * n.value
    let middle := (2 * floor + 1) * n.denominator
    some (if twice < middle then floor else if middle < twice then floor + 1
      else floor + floor % 2)
  | true, false => some floor
  | false, true => some (floor + 1)
  | false, false => none

/-- The greatest `e` with `10 ^ e ≤ value`, for a positive value. -/
def floorLog10 (n : Neighbourhood) : Int :=
  if n.denominator ≤ n.value then
    ((Nat.toDigits 10 (n.value / n.denominator)).length : Int) - 1
  else
    match (List.range 400).find? (fun j => n.denominator ≤ n.value * Nat.pow 10 j) with
    | some j => -(j : Int)
    | none => -400

end Neighbourhood

end Magnitude

/-- Trailing zeros moved from the digits into the exponent, at most `fuel` of them. -/
def Digits.strip (fuel : Nat) (d : Digits) : Digits :=
  match fuel with
  | 0 => d
  | fuel + 1 =>
    if d.digits ≠ 0 ∧ d.digits % 10 = 0 then strip fuel ⟨d.digits / 10, d.exponent + 1⟩ else d

/-- The shortest decimal that rounds to a positive magnitude. Seventeen digits always do. -/
def Magnitude.shortest (m : Magnitude) : Digits :=
  let n := m.neighbourhood
  let top := n.floorLog10
  let tries := (List.range 17).map fun (i : Nat) => top - (i : Int)
  let found := tries.findSome? fun exponent =>
    (n.inUnits exponent).nearest?.map fun k => (⟨k, exponent⟩ : Digits)
  match found with
  | some d => d.strip 17
  | none => ⟨n.value / n.denominator, 0⟩

/-- How digits are laid out: where positional writing starts and ends, in terms of the decimal
exponent of the first digit, and the least number of digits of a written exponent. -/
structure Layout where
  positionalFrom : Int
  positionalBelow : Int
  exponentWidth : Nat

/-- A natural number in decimal digits, padded with zeros on the left. -/
def padded (width n : Nat) : List Char :=
  let digits := Nat.toDigits 10 n
  List.replicate (width - digits.length) '0' ++ digits

/-- Digits written positionally, always with a digit on both sides of the point. `point` is the
number of digits before the decimal point, which may be negative. -/
def positional (digits : List Char) (point : Int) : List Char :=
  if point ≤ 0 then '0' :: '.' :: List.replicate (-point).toNat '0' ++ digits
  else
    let whole := point.toNat
    if digits.length ≤ whole then
      digits ++ List.replicate (whole - digits.length) '0' ++ ['.', '0']
    else digits.take whole ++ '.' :: digits.drop whole

/-- Digits written with one of them before the point and a signed exponent. -/
def scientific (width : Nat) (digits : List Char) (exponent : Int) : List Char :=
  let fraction := digits.drop 1
  digits.take 1 ++ (if fraction.isEmpty then [] else '.' :: fraction) ++
    ['e', if exponent < 0 then '-' else '+'] ++ padded width exponent.natAbs

/-- The text of a positive decimal. -/
def Digits.text (layout : Layout) (d : Digits) : List Char :=
  let digits := Nat.toDigits 10 d.digits
  let point : Int := (digits.length : Int) + d.exponent
  let leading := point - 1
  if layout.positionalFrom ≤ leading ∧ leading < layout.positionalBelow then
    positional digits point
  else scientific layout.exponentWidth digits leading

/-- The text of a magnitude by its shortest decimal; zero is `0.0`. -/
def Magnitude.text (layout : Layout) (m : Magnitude) : List Char :=
  if m.mantissa = 0 then ['0', '.', '0'] else m.shortest.text layout

end MoveBindings.Decimal
