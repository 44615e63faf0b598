import PatchScript.Limits
import PatchScript.Native.CallSite
import PatchScript.Regex.Replace
import PatchScript.Text.Case
import PatchScript.Text.Search

/-!
# Functions on texts
-/

namespace PatchScript
namespace StringFunction

def regex (pattern : String) : Except ErrorKind Regex :=
  match Regex.ofText? pattern with
  | some regex => .ok regex
  | none => .error (.typeError "valid regex pattern" "invalid regex")

/-- The characters of a text between two bounds. -/
def sliceText (text : String) (start : Int) (stop : Option Int) : Except ErrorKind String := do
  let chars := text.toList
  let (start, stop) ← sliceBounds chars.length start stop
  return String.ofList ((chars.take stop).drop start)

/-- The character of a text at an index. -/
def charText (text : String) (index : Int) : Except ErrorKind String := do
  let chars := text.toList
  let position ← resolveIndex index chars.length false
  return String.ofList (chars[position]?.toList)

/-- Replace every match of a text that is not empty. -/
def replaceText (text old new : String) : Except ErrorKind String := do
  if old.isEmpty then throw (.runtime "Cannot replace an empty string")
  let parts := Text.split old.toList text.toList
  if old.utf8ByteSize < new.utf8ByteSize then
    checkLength
      ((parts.length - 1) * (new.utf8ByteSize - old.utf8ByteSize) + text.utf8ByteSize)
  return Text.join new (parts.map String.ofList)

/-- A text repeated a number of times that is not negative. -/
def repeatText (text : String) (count : Int) : Except ErrorKind String := do
  if count < 0 then
    throw (.runtime ("Repeat count must not be negative, got " ++ Decimal.integerText count))
  return Text.repeated text (← repetitions text.utf8ByteSize count.toNat)

def body : StringFunction → List Value → Run Value
  | .length, [.string text] => return .number (Float.ofNat text.length)
  | .upper, [.string text] => return .string (Text.upper text)
  | .lower, [.string text] => return .string (Text.lower text)
  | .trim, [.string text] => return .string (Text.trim text)
  | .contains, [.string text, .string needle] =>
    return .boolean (Text.find? needle.toList text.toList).isSome
  | .startsWith, [.string text, .string start] =>
    return .boolean (start.toList.isPrefixOf text.toList)
  | .endsWith, [.string text, .string stop] =>
    return .boolean (stop.toList.isSuffixOf text.toList)
  | .indexOf, [.string text, .string needle] =>
    return .number
      (match Text.find? needle.toList text.toList with
      | some position => Float.ofNat position
      | none => -1)
  | .substring, [.string text, .number start] => do
    return .string (← Run.lift (sliceText text (← integerArgument start) none))
  | .substring, [.string text, .number start, .number stop] => do
    return .string
      (← Run.lift (sliceText text (← integerArgument start) (some (← integerArgument stop))))
  | .replace, [.string text, .string old, .string new] => do
    return .string (← Run.lift (replaceText text old new))
  | .split, [.string text, .string separator] =>
    Run.newArray
      ((Text.split separator.toList text.toList).map
        fun part => Value.string (String.ofList part)).toArray
  | .repeated, [.string text, .number count] => do
    return .string (← Run.lift (repeatText text (← integerArgument count)))
  | .charAt, [.string text, .number index] => do
    return .string (← Run.lift (charText text (← integerArgument index)))
  | .matchesPattern, [.string text, .string pattern] => do
    return .boolean (Regex.isMatch (← Run.lift (regex pattern)) text)
  | .replaceRegex, [.string text, .string pattern, .string replacement] => do
    return .string (Regex.replaceAll (← Run.lift (regex pattern)) text replacement)
  | _, _ => throw .malformedCall

end StringFunction
end PatchScript
