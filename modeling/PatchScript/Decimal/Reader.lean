import PatchScript.Decimal.Layout

/-!
# Reading doubles

The text of a double: digits with an optional point and exponent, or one of the
names of the values that are not finite.  The double is the nearest to the number
written.
-/

namespace PatchScript
namespace Decimal

/-- A sign at the head of a text, and the rest. -/
def splitSign : List Char → Bool × List Char
  | '-' :: rest => (true, rest)
  | '+' :: rest => (false, rest)
  | text => (false, text)

def integerOfText? (text : String) : Option Int :=
  let (negative, digits) := splitSign text.toList
  if !digits.isEmpty && digits.all Char.isDigit then
    some (if negative then -(ofDigits digits : Int) else ofDigits digits)
  else none

/-- The exponent at the head of a text that has nothing else, or none. -/
def exponent? : List Char → Option Int
  | [] => some 0
  | mark :: rest =>
    if mark = 'e' ∨ mark = 'E' then integerOfText? (String.ofList rest) else none

/-- The magnitude that a text without sign spells. -/
def magnitudeOfText? (text : List Char) : Option Float :=
  let name := (String.ofList text).toLower
  if name = "inf" ∨ name = "infinity" then some (1.0 / 0.0)
  else if name = "nan" then some (0.0 / 0.0)
  else
    let whole := text.takeWhile Char.isDigit
    let afterWhole := text.dropWhile Char.isDigit
    let (fraction, rest) := match afterWhole with
      | '.' :: rest => (rest.takeWhile Char.isDigit, rest.dropWhile Char.isDigit)
      | other => ([], other)
    if whole.isEmpty && fraction.isEmpty then none
    else (exponent? rest).map fun exponent =>
      nearest (ofDigits (whole ++ fraction)) (exponent - fraction.length)

def ofText? (text : String) : Option Float :=
  let (negative, rest) := splitSign text.toList
  (magnitudeOfText? rest).map fun magnitude => if negative then -magnitude else magnitude

end Decimal
end PatchScript
