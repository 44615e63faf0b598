import PatchScript.Decimal.Layout

/-!
# Arithmetic on doubles

The operations that the built-in arithmetic lacks.  Remainders are computed on
integers, so they are exact.
-/

namespace PatchScript
namespace Number

/-- A double that is not a number. -/
def nan : Float := 0.0 / 0.0

/-- The greatest double. -/
def infinity : Float := 1.0 / 0.0

/-- A magnitude with a sign. -/
def withSign (negative : Bool) (magnitude : Float) : Float :=
  if negative then -magnitude else magnitude

/-- The remainder of a division that rounds toward zero.  It has the sign of the
dividend. -/
def remainder (x y : Float) : Float :=
  if x.isNaN || y.isNaN || x.isInf || y == 0 then nan
  else if y.isInf then x
  else
    let dividend := Decimal.Binary.ofFloat x
    let divisor := Decimal.Binary.ofFloat y
    let exponent := min dividend.exponent divisor.exponent
    let scaledDividend :=
      dividend.significand * Nat.pow 2 (dividend.exponent - exponent).toNat
    let scaledDivisor :=
      divisor.significand * Nat.pow 2 (divisor.exponent - exponent).toNat
    withSign (Decimal.isSigned x)
      ((Float.ofNat (scaledDividend % scaledDivisor)).scaleB exponent)

/-- Drop the fractional part. -/
def truncate (x : Float) : Float :=
  if x < 0 then x.ceil else x.floor

/-- The lesser of two numbers; one that is not a number is passed over. -/
def least (x y : Float) : Float :=
  if x.isNaN then y else if y.isNaN then x else if y < x then y else x

/-- The greater of two numbers; one that is not a number is passed over. -/
def greatest (x y : Float) : Float :=
  if x.isNaN then y else if y.isNaN then x else if x < y then y else x

def sign (x : Float) : Float :=
  if x > 0 then 1 else if x < 0 then -1 else 0

end Number
end PatchScript
