import PatchScript.OrderedMap
import PatchScript.Decimal.Layout

/-!
# JSON documents

The values of JSON and their text.  A number is kept as an integer where it is
written as one, so that a document that is only passed on keeps its spelling.
Members of an object are in order.
-/

namespace PatchScript

inductive JsonNumber where
  /-- A number written as an integer. -/
  | integer (value : Int)
  | real (value : Float)

inductive Json where
  | null
  | bool (value : Bool)
  | number (value : JsonNumber)
  | string (value : String)
  | array (items : List Json)
  | object (members : List (String × Json))
deriving Inhabited

namespace JsonNumber

def toFloat : JsonNumber → Float
  | .integer value => Float.ofInt value
  | .real value => value

def text : JsonNumber → String
  | .integer value => Decimal.integerText value
  | .real value => Decimal.jsonLayout.text value

end JsonNumber

namespace Json

def natural (value : Nat) : Json :=
  .number (.integer value)

/-- The member of an object with a given name. -/
def member? (json : Json) (name : String) : Option Json :=
  match json with
  | .object members => members.lookup name
  | _ => none

def charText (c : Char) : String :=
  if c = '"' then "\\\""
  else if c = '\\' then "\\\\"
  else if c = '\x08' then "\\b"
  else if c = '\x0c' then "\\f"
  else if c = '\n' then "\\n"
  else if c = '\r' then "\\r"
  else if c = '\t' then "\\t"
  else if c.toNat < 0x20 then
    let digits := Nat.toDigits 16 c.toNat
    "\\u" ++ String.ofList (List.replicate (4 - digits.length) '0' ++ digits)
  else String.singleton c

def stringText (text : String) : String :=
  "\"" ++ text.foldl (fun written c => written ++ charText c) "" ++ "\""

/-- Where the parts of a container go. -/
structure Style where
  /-- What separates a name from its value. -/
  colon : String
  /-- What stands before a part at a nesting depth. -/
  lineStart : Nat → String

/-- Everything on one line without blanks. -/
def compactStyle : Style :=
  { colon := ":", lineStart := fun _ => "" }

/-- One part a line, indented by two blanks a level. -/
def prettyStyle : Style :=
  { colon := ": "
    lineStart := fun depth => "\n" ++ String.ofList (List.replicate (2 * depth) ' ') }

mutual

/-- The text of a value at a nesting depth. -/
def textAt (style : Style) (depth : Nat) : Json → String
  | .null => "null"
  | .bool value => if value then "true" else "false"
  | .number value => value.text
  | .string value => stringText value
  | .array [] => "[]"
  | .array (item :: items) =>
    itemsText style (depth + 1) items
      ("[" ++ style.lineStart (depth + 1) ++ textAt style (depth + 1) item) ++
      style.lineStart depth ++ "]"
  | .object [] => "\x7b\x7d"
  | .object ((name, value) :: members) =>
    membersText style (depth + 1) members
      ("\x7b" ++ style.lineStart (depth + 1) ++ stringText name ++ style.colon ++
        textAt style (depth + 1) value) ++
      style.lineStart depth ++ "\x7d"

/-- Append the items of an array after the first. -/
def itemsText (style : Style) (depth : Nat) : List Json → String → String
  | [], written => written
  | item :: items, written =>
    itemsText style depth items
      (written ++ "," ++ style.lineStart depth ++ textAt style depth item)

/-- Append the members of an object after the first. -/
def membersText (style : Style) (depth : Nat) : List (String × Json) → String → String
  | [], written => written
  | (name, value) :: members, written =>
    membersText style depth members
      (written ++ "," ++ style.lineStart depth ++ stringText name ++ style.colon ++
        textAt style depth value)

end

def compact (json : Json) : String :=
  json.textAt compactStyle 0

def pretty (json : Json) : String :=
  json.textAt prettyStyle 0

end Json
end PatchScript
