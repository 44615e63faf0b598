import PatchScript.Json
import PatchScript.Text.Escape

/-!
# Reading JSON text

The grammar of JSON and nothing beyond it.  Containers may be nested up to a
limit.  A repeated member name keeps its first place and its last value.
-/

namespace PatchScript
namespace Json

/-- The deepest nesting of containers that is read. -/
def maxReadDepth : Nat := 127

/-- Blanks between the tokens of JSON text. -/
def isBlank (c : Char) : Bool :=
  c == ' ' || c == '\n' || c == '\t' || c == '\r'

/-- Drop blanks at the head of a text. -/
def skipBlanks (text : List Char) : List Char :=
  text.dropWhile isBlank

/-- A 16-bit unit written as four hexadecimal digits. -/
def readUnit? : List Char → Option (Nat × List Char)
  | a :: b :: c :: d :: rest => do
    let a ← Text.hexValue? a
    let b ← Text.hexValue? b
    let c ← Text.hexValue? c
    let d ← Text.hexValue? d
    return (a * 4096 + b * 256 + c * 16 + d, rest)
  | _ => none

/-- The character of a numeric escape.  A character outside the first plane is
written as a pair of units; a unit of a pair does not stand alone. -/
def readUnicode? (text : List Char) : Option (Char × List Char) := do
  let (unit, rest) ← readUnit? text
  if 0xD800 ≤ unit ∧ unit ≤ 0xDBFF then
    match rest with
    | '\\' :: 'u' :: more =>
      let (low, rest) ← readUnit? more
      if 0xDC00 ≤ low ∧ low ≤ 0xDFFF then
        return (Char.ofNat (0x10000 + (unit - 0xD800) * 1024 + (low - 0xDC00)), rest)
      else none
    | _ => none
  else if 0xDC00 ≤ unit ∧ unit ≤ 0xDFFF then none
  else return (Char.ofNat unit, rest)

/-- The character that an escape stands for, after its backslash. -/
def readEscape? : List Char → Option (Char × List Char)
  | '"' :: rest => some ('"', rest)
  | '\\' :: rest => some ('\\', rest)
  | '/' :: rest => some ('/', rest)
  | 'b' :: rest => some ('\x08', rest)
  | 'f' :: rest => some ('\x0c', rest)
  | 'n' :: rest => some ('\n', rest)
  | 'r' :: rest => some ('\r', rest)
  | 't' :: rest => some ('\t', rest)
  | 'u' :: rest => readUnicode? rest
  | _ => none

/-- Read a string after its opening quote.  The first argument bounds the number
of characters. -/
def readString? : Nat → String → List Char → Option (String × List Char)
  | 0, _, _ => none
  | _ + 1, _, [] => none
  | more + 1, read, c :: rest =>
    if c = '"' then some (read, rest)
    else if c = '\\' then
      match readEscape? rest with
      | none => none
      | some (meant, rest) => readString? more (read.push meant) rest
    else if c.toNat < 0x20 then none
    else readString? more (read.push c) rest

/-- The digits of a numeral as a 64-bit significand and a power of ten. -/
structure Scaled where
  /-- The leading digits, as far as they fit 64 bits. -/
  significand : Nat
  /-- The power of ten. -/
  exponent : Int
  /-- A digit did not fit. -/
  full : Bool

/-- Whether one more digit fits the significand. -/
def Scaled.fits (scaled : Scaled) (digit : Nat) : Bool :=
  scaled.significand * 10 + digit < Nat.pow 2 64

/-- Add a digit before the point.  From the first digit that does not fit, only
the power of ten grows. -/
def Scaled.addWhole (scaled : Scaled) (c : Char) : Scaled :=
  let digit := Decimal.digitValue c
  if scaled.full || !scaled.fits digit then
    { scaled with exponent := scaled.exponent + 1, full := true }
  else { scaled with significand := scaled.significand * 10 + digit }

/-- Add the digits after the point, up to the first that does not fit. -/
def Scaled.addFraction (scaled : Scaled) : List Char → Scaled
  | [] => scaled
  | c :: rest =>
    let digit := Decimal.digitValue c
    if scaled.fits digit then
      addFraction
        { scaled with
          significand := scaled.significand * 10 + digit
          exponent := scaled.exponent - 1 } rest
    else scaled

/-- The largest power of ten among the doubles. -/
def maxPower : Nat := 308

/-- Scale a double by a power of ten, one rounded operation for each factor up to
the largest power.  The result is absent if it is too large. -/
def scaleDouble? : Nat → Float → Int → Option Float
  | 0, x, _ => some x
  | more + 1, x, exponent =>
    if exponent.natAbs ≤ maxPower then
      let power := Decimal.nearest 1 exponent.natAbs
      if 0 ≤ exponent then
        let scaled := x * power
        if scaled.isInf then none else some scaled
      else some (x / power)
    else if x == 0 then some x
    else if 0 ≤ exponent then none
    else scaleDouble? more (x / Decimal.nearest 1 maxPower) (exponent + maxPower)

/-- The largest exponent that is read as a number. -/
def maxExponent : Nat := Nat.pow 2 31 - 1

/-- The double of a numeral. -/
def Scaled.toFloat? (scaled : Scaled) (exponentNegative : Bool) (exponent : Nat) : Option Float :=
  if exponent > maxExponent then
    if scaled.significand = 0 ∨ exponentNegative then some 0 else none
  else
    let shift : Int := if exponentNegative then -exponent else exponent
    scaleDouble? 8 (Float.ofNat scaled.significand) (scaled.exponent + shift)

/-- The exponent of a numeral, if it has one: its sign and its digits. -/
def readExponent? : List Char → Option ((Bool × List Char) × List Char)
  | '+' :: rest => digits false rest
  | '-' :: rest => digits true rest
  | rest => digits false rest
where
  /-- The digits of an exponent, at least one. -/
  digits
      (negative : Bool)
      (text : List Char) : Option ((Bool × List Char) × List Char) :=
    let found := text.takeWhile Char.isDigit
    if found.isEmpty then none
    else some ((negative, found), text.drop found.length)

/-- The digits after the point of a numeral, if it has one. -/
def readFraction? : List Char → Option (Option (List Char) × List Char)
  | '.' :: more =>
    let fraction := more.takeWhile Char.isDigit
    if fraction.isEmpty then none
    else some (some fraction, more.drop fraction.length)
  | rest => some (none, rest)

/-- The exponent of a numeral with its mark, if it has one. -/
def readPower? : List Char → Option (Option (Bool × List Char) × List Char)
  | 'e' :: more => (readExponent? more).map fun found => (some found.1, found.2)
  | 'E' :: more => (readExponent? more).map fun found => (some found.1, found.2)
  | rest => some (none, rest)

/-- The double of a numeral that is given by its parts. -/
def realOf? (negative : Bool) (whole : Scaled) (fraction : List Char)
    (exponent : Bool × List Char) : Option JsonNumber := do
  let magnitude ← (whole.addFraction fraction).toFloat? exponent.1 (Decimal.ofDigits exponent.2)
  return .real (if negative then -magnitude else magnitude)

/-- The number of a numeral that is given by its parts.  Without a fraction and an exponent
it is an integer if it fits 64 bits. -/
def numberOf? (negative : Bool) (whole : Scaled) (fraction : Option (List Char))
    (exponent : Option (Bool × List Char)) : Option JsonNumber :=
  if fraction.isNone && exponent.isNone && !whole.full && !negative then
    some (.integer whole.significand)
  else if fraction.isNone && exponent.isNone && !whole.full && 0 < whole.significand &&
      whole.significand ≤ Nat.pow 2 63 then
    some (.integer (-whole.significand))
  else realOf? negative whole (fraction.getD []) (exponent.getD (false, []))

/-- Read a number after its sign. -/
def readNumber? (negative : Bool) (text : List Char) : Option (Json × List Char) :=
  let whole := text.takeWhile Char.isDigit
  if whole.isEmpty || (whole.head? == some '0' && whole.length > 1) then none
  else do
    let (fraction, rest) ← readFraction? (text.drop whole.length)
    let (exponent, rest) ← readPower? rest
    let scaled := whole.foldl Scaled.addWhole { significand := 0, exponent := 0, full := false }
    let value ← numberOf? negative scaled fraction exponent
    return (.number value, rest)

/-- Read the items of an array, given how to read one.  The first argument bounds
their number. -/
def readItems? (readItem : List Char → Option (Json × List Char)) :
    Nat → List Json → List Char → Option (List Json × List Char)
  | 0, _, _ => none
  | more + 1, read, text =>
    match readItem text with
    | none => none
    | some (item, rest) =>
      match skipBlanks rest with
      | ',' :: rest => readItems? readItem more (item :: read) rest
      | ']' :: rest => some ((item :: read).reverse, rest)
      | _ => none

/-- Read the members of an object, given how to read a value and a bound on the
length of names.  The next argument bounds their number. -/
def readMembers? (readItem : List Char → Option (Json × List Char)) (bound : Nat) :
    Nat → List (String × Json) → List Char → Option (List (String × Json) × List Char)
  | 0, _, _ => none
  | more + 1, read, text =>
    match skipBlanks text with
    | '"' :: rest =>
      match readString? bound "" rest with
      | none => none
      | some (name, rest) =>
        match skipBlanks rest with
        | ':' :: rest =>
          match readItem rest with
          | none => none
          | some (value, rest) =>
            let read := Entries.insert name value read
            match skipBlanks rest with
            | ',' :: rest => readMembers? readItem bound more read rest
            | '}' :: rest => some (read, rest)
            | _ => none
        | _ => none
    | _ => none

/-- Read a value whose containers may be nested to a given depth.  The bound is on
the length of strings and containers. -/
def readValue? (bound : Nat) : Nat → List Char → Option (Json × List Char)
  | depth, text =>
    match skipBlanks text with
    | 'n' :: 'u' :: 'l' :: 'l' :: rest => some (.null, rest)
    | 't' :: 'r' :: 'u' :: 'e' :: rest => some (.bool true, rest)
    | 'f' :: 'a' :: 'l' :: 's' :: 'e' :: rest => some (.bool false, rest)
    | '"' :: rest =>
      (readString? bound "" rest).map fun found => (.string found.1, found.2)
    | '[' :: rest =>
      match depth with
      | 0 => none
      | depth + 1 =>
        match skipBlanks rest with
        | ']' :: rest => some (.array [], rest)
        | rest =>
          (readItems? (readValue? bound depth) bound [] rest).map fun found =>
            (.array found.1, found.2)
    | '{' :: rest =>
      match depth with
      | 0 => none
      | depth + 1 =>
        match skipBlanks rest with
        | '}' :: rest => some (.object [], rest)
        | rest =>
          (readMembers? (readValue? bound depth) bound bound [] rest).map fun found =>
            (.object found.1, found.2)
    | '-' :: rest => readNumber? true rest
    | rest => readNumber? false rest

/-- Read a text that holds one value and blanks around it. -/
def ofText? (text : String) : Option Json :=
  match readValue? (text.length + 1) maxReadDepth text.toList with
  | some (json, rest) => if (skipBlanks rest).isEmpty then some json else none
  | none => none

end Json
end PatchScript
