import PatchScript.Grammar.Cursor
import PatchScript.Json

/-!
# Constants

The values of header tags: numbers, texts, truth values and null, and arrays and
objects of constants.  Unquoted words stand for texts.
-/

namespace PatchScript
namespace Grammar

/-- Numbers below this magnitude are exact as integers. -/
def exactIntegerBound : Nat := Nat.pow 2 53

/-- A number of a header tag: an integer where it is an exact one. -/
def exactNumber (x : Float) : JsonNumber :=
  match Decimal.integer? x with
  | some number => if number.natAbs < exactIntegerBound then .integer number else .real x
  | none => .real x

/-- A number that is not finite is null. -/
def numberConstant (x : Float) : Json :=
  if x.isNaN || x.isInf then .null else .number (exactNumber x)

/-- Take the key of an object of constants. -/
def takeConstantKey : Parse (String × Span) := do
  let token ← advance
  match token.kind with
  | .string key => return (key, token.span)
  | .word key => return (key, token.span)
  | other => failAt ("Expected an object key, found " ++ other.describe) token.span

/-- One part of a list of constants, given those before it: up to a comma, or to the symbol that
closes the list. -/
def constantPart {α : Type} (closing : Symbol) (expected : String) (part : List α → Parse α)
    (whole : List α → Json) (found : List α) : Parse (Turn (List α) Json) := do
  if ← takeSymbol closing then return .done (whole found)
  let next ← part found
  if ← takeSymbol .comma then return .again (found ++ [next])
  expectSymbol closing expected
  return .done (whole (found ++ [next]))

/-- A key and its value, given the members of an object before them. -/
def constantEntry (nested : Parse Json)
    (members : List (String × Json)) : Parse (String × Json) := do
  let (key, span) ← takeConstantKey
  expectSymbol .colon "':' after object key"
  let value ← nested
  if (members.lookup key).isSome then
    failAt ("Duplicate object key '" ++ key ++ "'") span
  return (key, value)

/-- One item of an array of constants, given those before it. -/
def constantItem (nested : Parse Json) : List Json → Parse (Turn (List Json) Json) :=
  constantPart .rightBracket "',' or ']'" (fun _ => nested) .array

/-- One member of an object of constants, given those before it. -/
def constantMember (nested : Parse Json) :
    List (String × Json) → Parse (Turn (List (String × Json)) Json) :=
  constantPart .rightBrace "',' or '\x7d'" (constantEntry nested) .object

/-- A constant whose parts are read by `nested`. -/
def constantForm (nested : Parse Json) : Parse Json := do
  let token ← advance
  match token.kind with
  | .number value => return numberConstant value
  | .symbol .minus =>
    match (← advance).kind with
    | .number value => return numberConstant (-value)
    | other =>
      failAt ("Expected a number after '-', found " ++ other.describe) (← previousSpan)
  | .string value => return .string value
  | .word value => return .string value
  | .keyword .trueWord => return .bool true
  | .keyword .falseWord => return .bool false
  | .keyword .nullWord => return .null
  | .symbol .leftBracket => loop (constantItem nested) []
  | .symbol .leftBrace => loop (constantMember nested) []
  | other => failAt ("Expected a constant value, found " ++ other.describe) token.span

/-- A constant nested at most to a given depth. -/
def constant : Nat → Parse Json
  | 0 => failTooDeep
  | depth + 1 => constantForm (constant depth)

/-- How the value of a header tag is read. -/
inductive TagRule where
  /-- The version of the language; there is only one. -/
  | version
  | anyConstant

/-- The keys that header tags may have. -/
abbrev TagRules := List (String × TagRule)

/-- The rule of a key that has no other rule is to take any constant. -/
def TagRule.ofKey (key : String) : TagRule :=
  if key = "version" then .version else .anyConstant

/-- The keys known without further ado. -/
def TagRules.standard : TagRules :=
  ["version", "target"].map fun key => (key, TagRule.ofKey key)

def TagRule.read : TagRule → Parse Json
  | .anyConstant => constant maxNesting
  | .version => do
    let token ← advance
    match token.kind with
    | .number value =>
      if value == 1 then return .number (.integer 1)
      else
        failAt ("Unsupported version " ++ Decimal.plainText value ++
          "; only version 1 is supported") token.span
    | other =>
      failAt ("Expected a version number, found " ++ other.describe) token.span

end Grammar
end PatchScript
