/-!
# The shortest decimal of a double

A finite double stands for an interval of reals: those that round to it.  Among
the decimals in that interval this module selects one with the fewest digits,
and of those the nearest to the double.  The search works on the decoded bits
with natural numbers only, so no step rounds.
-/

namespace PatchScript
namespace Decimal

/-- The magnitude of a finite double, `significand * 2 ^ exponent`. -/
structure Binary where
  /-- The integer significand, hidden bit included. -/
  significand : Nat
  exponent : Int
  /-- The gap to the next smaller double is half the gap to the next larger one. -/
  narrowBelow : Bool

/-- Decode the magnitude of a double that is neither infinite nor a NaN. -/
def Binary.ofFloat (x : Float) : Binary :=
  let bits := x.toBits.toNat
  let exponent : Nat := bits / Nat.pow 2 52 % Nat.pow 2 11
  let fraction := bits % Nat.pow 2 52
  if exponent = 0 then
    { significand := fraction, exponent := -1074, narrowBelow := false }
  else
    { significand := Nat.pow 2 52 + fraction
      exponent := (exponent : Int) - 1075
      narrowBelow := fraction == 0 && exponent > 1 }

/-- The decimal `significand * 10 ^ exponent`. -/
structure Digits where
  /-- The digits, read as one integer. -/
  significand : Nat
  /-- The power of ten of the last digit. -/
  exponent : Int
deriving DecidableEq

def digitCount (number : Nat) : Nat :=
  (Nat.toDigits 10 number).length

/-- Which of two equally near decimals is taken. -/
inductive Tie where
  /-- The larger one. -/
  | up
  /-- The one with an even last digit. -/
  | even

/-- The power of ten of the first digit of a nonzero magnitude. -/
def Binary.firstDigitExponent (value : Binary) : Int :=
  let numerator := value.significand * Nat.pow 2 value.exponent.toNat
  let denominator := Nat.pow 2 (-value.exponent).toNat
  let estimate : Int := (digitCount numerator : Int) - digitCount denominator
  if numerator * Nat.pow 10 (-estimate).toNat ≥ denominator * Nat.pow 10 estimate.toNat then
    estimate
  else
    estimate - 1

/-- The decimal with unit `10 ^ unit` that rounds to the value, if there is
one; of two, the nearer. -/
def Binary.onGrid (value : Binary) (tie : Tie) (unit : Int) : Option Nat :=
  -- A quarter of the last binary place, measured in `10 ^ unit`.
  let place := value.exponent - 2
  let numerator := Nat.pow 2 place.toNat * Nat.pow 10 (-unit).toNat
  let denominator := Nat.pow 2 (-place).toNat * Nat.pow 10 unit.toNat
  let exact := 4 * value.significand * numerator
  let lowest := (4 * value.significand - if value.narrowBelow then 1 else 2) * numerator
  let highest := (4 * value.significand + 2) * numerator
  let endsIncluded := value.significand % 2 = 0
  let below := exact / denominator
  let belowHits := if endsIncluded then lowest ≤ below * denominator
    else lowest < below * denominator
  let aboveHits := if endsIncluded then (below + 1) * denominator ≤ highest
    else (below + 1) * denominator < highest
  if belowHits then
    if aboveHits then
      let middle := (2 * below + 1) * denominator
      if 2 * exact < middle then some below
      else if middle < 2 * exact then some (below + 1)
      else match tie with
        | .up => some (below + 1)
        | .even => some (if below % 2 = 0 then below else below + 1)
    else some below
  else if aboveHits then some (below + 1)
  else none

/-- Move trailing zeros of the digits into the exponent. -/
def Digits.normalizeWithin : Nat → Digits → Digits
  | 0, digits => digits
  | steps + 1, digits =>
    if digits.significand ≠ 0 ∧ digits.significand % 10 = 0 then
      normalizeWithin steps
        { significand := digits.significand / 10, exponent := digits.exponent + 1 }
    else digits

/-- The same decimal without trailing zeros. -/
def Digits.normalize (digits : Digits) : Digits :=
  digits.normalizeWithin (digitCount digits.significand)

/-- The exact decimal expansion of a magnitude. -/
def Binary.expansion (value : Binary) : Digits :=
  { significand :=
      value.significand * Nat.pow 2 value.exponent.toNat * Nat.pow 5 (-value.exponent).toNat
    exponent := if value.exponent < 0 then value.exponent else 0 }

/-- A decimal with the fewest digits that rounds to a nonzero magnitude.
Seventeen digits identify every double. -/
def Binary.shortest (value : Binary) (tie : Tie) : Digits :=
  let first := value.firstDigitExponent
  let found := (List.range 17).findSome? fun (more : Nat) =>
    let unit := first - more
    (value.onGrid tie unit).map fun significand =>
      { significand := significand, exponent := unit : Digits }
  (found.getD value.expansion).normalize

end Decimal
end PatchScript
