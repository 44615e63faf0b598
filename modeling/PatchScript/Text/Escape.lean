/-!
# Escaped text

Diagnostics show text in a form that is plain ASCII and fits on one line.
Printable ASCII stands for itself, apart from quotes and the backslash; tab,
carriage return and line feed have letters of their own; every other character
is written as its code point in braces.
-/

namespace PatchScript
namespace Text

/-- Lower-case hexadecimal digits of a number, without padding. -/
def hexDigits (number : Nat) : String :=
  String.ofList (Nat.toDigits 16 number)

/-- The value of a hexadecimal digit of either case. -/
def hexValue? (c : Char) : Option Nat :=
  if c.isDigit then some (c.toNat - '0'.toNat)
  else if 'a' ≤ c ∧ c ≤ 'f' then some (c.toNat - 'a'.toNat + 10)
  else if 'A' ≤ c ∧ c ≤ 'F' then some (c.toNat - 'A'.toNat + 10)
  else none

/-- A character written as its code point, `\u` and braces. -/
def escapeCodePoint (c : Char) : String :=
  "\\u\x7b" ++ hexDigits c.toNat ++ "\x7d"

/-- One character in escaped form. -/
def escapeChar (c : Char) : String :=
  if c = '\t' then "\\t"
  else if c = '\r' then "\\r"
  else if c = '\n' then "\\n"
  else if c = '\'' then "\\'"
  else if c = '"' then "\\\""
  else if c = '\\' then "\\\\"
  else if 0x20 ≤ c.toNat ∧ c.toNat ≤ 0x7e then String.singleton c
  else escapeCodePoint c

def escape (text : String) : String :=
  text.foldl (fun written c => written ++ escapeChar c) ""

/-- An escaped text between double quotes. -/
def quote (text : String) : String :=
  "\"" ++ escape text ++ "\""

end Text
end PatchScript
