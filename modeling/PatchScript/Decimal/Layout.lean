import PatchScript.Decimal.Shortest

/-!
# Writing and reading doubles

A double is written with the fewest digits that identify it.  Two layouts are
in use: the plain one, which never has an exponent, and the one of JSON text,
which turns to an exponent far from the decimal point.
-/

namespace PatchScript
namespace Decimal

/-- How the digits of a double are laid out. -/
structure Layout where
  /-- Which of two equally near decimals is written. -/
  tie : Tie
  /-- Whether a number whose first digit has this power of ten is written
  positionally. -/
  positional : Int → Bool
  /-- What follows the digits of an integral number. -/
  integralSuffix : String

/-- Numbers in messages and in rendered values: positional at every size. -/
def plainLayout : Layout :=
  { tie := .up, positional := fun _ => true, integralSuffix := "" }

/-- Numbers in JSON text that are not written as integers. -/
def jsonLayout : Layout :=
  { tie := .even
    positional := fun exponent => -5 ≤ exponent && exponent ≤ 15
    integralSuffix := ".0" }

def zeros (count : Nat) : String :=
  String.ofList (List.replicate count '0')

/-- Decimal digits of a natural number. -/
def naturalText (number : Nat) : String :=
  String.ofList (Nat.toDigits 10 number)

/-- Decimal digits of an integer, with a sign if it is negative. -/
def integerText (number : Int) : String :=
  if number < 0 then "-" ++ naturalText number.natAbs
  else naturalText number.natAbs

/-- Digits around a decimal point, without an exponent. -/
def Digits.positionalText (digits : Digits) (integralSuffix : String) : String :=
  let text := Nat.toDigits 10 digits.significand
  if 0 ≤ digits.exponent then
    String.ofList text ++ zeros digits.exponent.toNat ++ integralSuffix
  else
    let places := digits.exponent.natAbs
    if places < text.length then
      String.ofList (text.take (text.length - places)) ++ "." ++
        String.ofList (text.drop (text.length - places))
    else
      "0." ++ zeros (places - text.length) ++ String.ofList text

/-- One digit, the other digits as a fraction, and a signed exponent. -/
def Digits.scientificText (digits : Digits) : String :=
  let text := Nat.toDigits 10 digits.significand
  let exponent := digits.exponent + text.length - 1
  let fraction := text.drop 1
  String.ofList (text.take 1) ++
    (if fraction.isEmpty then "" else "." ++ String.ofList fraction) ++
    (if exponent < 0 then "e-" else "e+") ++ naturalText exponent.natAbs

def Layout.magnitudeText (layout : Layout) (value : Binary) : String :=
  if value.significand = 0 then "0" ++ layout.integralSuffix
  else
    let digits := value.shortest layout.tie
    let first := digits.exponent + digitCount digits.significand - 1
    if layout.positional first then digits.positionalText layout.integralSuffix
    else digits.scientificText

/-- Whether the sign bit of a double is set, which holds of `-0` as well. -/
def isSigned (x : Float) : Bool :=
  Nat.pow 2 63 ≤ x.toBits.toNat

def Layout.text (layout : Layout) (x : Float) : String :=
  if x.isNaN then "NaN"
  else
    (if isSigned x then "-" else "") ++
      if x.isInf then "inf" else layout.magnitudeText (Binary.ofFloat x)

/-- A double in plain digits: `1000`, `0.1`, `-0`, `inf`, `NaN`. -/
def plainText (x : Float) : String :=
  plainLayout.text x

/-- The bound of the integers of 64 signed bits. -/
def integerBound : Int := 9223372036854775808

/-- The integer a double denotes, if it is integral and fits 64 signed bits. -/
def integer? (x : Float) : Option Int :=
  if x.isNaN || x.isInf then none
  else
    let value := Binary.ofFloat x
    let shift := (-value.exponent).toNat
    if value.significand % Nat.pow 2 shift = 0 then
      let magnitude := value.significand / Nat.pow 2 shift * Nat.pow 2 value.exponent.toNat
      let number : Int := if isSigned x then -magnitude else magnitude
      if -integerBound ≤ number ∧ number < integerBound then some number else none
    else none

/-- A double as an integer where it is one, and in plain digits elsewhere. -/
def formattedText (x : Float) : String :=
  match integer? x with
  | some number => integerText number
  | none => plainText x

def digitValue (c : Char) : Nat :=
  c.toNat - '0'.toNat

/-- The number that a list of decimal digits spells. -/
def ofDigits (digits : List Char) : Nat :=
  digits.foldl (fun number c => number * 10 + digitValue c) 0

/-- The double nearest to `significand * 10 ^ exponent`.  Exponents far outside
the range of doubles are answered without computing the power. -/
def nearest (significand : Nat) (exponent : Int) : Float :=
  let first := exponent + digitCount significand
  if significand = 0 ∨ first < -400 then 0
  else if first > 400 then 1.0 / 0.0
  else Float.ofScientific significand (exponent < 0) exponent.natAbs

/-- The double nearest to the decimal with these digits before and after the
point. -/
def ofDecimalDigits (whole fraction : List Char) : Float :=
  nearest (ofDigits (whole ++ fraction)) (-(fraction.length : Int))

end Decimal
end PatchScript
