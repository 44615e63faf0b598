import PatchScript.Regex.Reader
import PatchScript.Text.LetterTable

/-!
# Reading the start of groups

A group captures what it matches unless it starts with flags.  Flags with nothing
after them are no group: they hold for the rest of the group around them.
-/

namespace PatchScript
namespace Regex
namespace Reader

/-- Set or clear the flag of a letter. -/
def setFlag (flags : Flags) (value : Bool) : Char → Option Flags
  | 'i' => some { flags with ignoreCase := value }
  | 'm' => some { flags with multiLine := value }
  | 's' => some { flags with dotAll := value }
  | 'U' => some { flags with swapGreed := value }
  | 'x' => some { flags with verbose := value }
  | 'u' => if value then some flags else none
  | _ => none

/-- Read flag letters: the letters seen, and whether a dash came before. -/
def flagLetters (flags : Flags) (seen : List Char) (negated : Bool) : List Char → Option Flags
  | [] => if seen.head? = some '-' then none else some flags
  | c :: rest =>
    if seen.contains c then none
    else if c = '-' then flagLetters flags (c :: seen) true rest
    else do flagLetters (← setFlag flags (!negated) c) (c :: seen) negated rest

/-- Whether a character may stand in the name of a group. -/
def isNameChar (first : Bool) (c : Char) : Bool :=
  c == '_' || Text.letters.contains c ||
    (!first && (c == '.' || c == '[' || c == ']' || Text.numerals.contains c))

/-- The name of a group after its opening angle bracket. -/
def groupName : Reader String := do
  let name ← takeWhile (· != '>')
  let _ ← next
  match name with
  | [] => fail
  | first :: others =>
    let text := String.ofList name
    if isNameChar true first && others.all (isNameChar false) &&
        !((← get).names.any fun entry => entry.1 == text) then
      return text
    else fail

/-- How a group begins. -/
inductive GroupStart where
  | capture (index : Nat)
  | plain
  /-- Flags that hold for the rest of the group around them. -/
  | flags

def newGroup (name : Option String) : Reader GroupStart := do
  let index := (← get).groupCount + 1
  modify fun state =>
    { state with
      groupCount := index
      names := match name with
        | some name => (name, index) :: state.names
        | none => state.names }
  return .capture index

/-- Whether a condition on the text around a position comes next. -/
def looksAround : Reader Bool := do
  let rest := (← get).rest
  return ["?=", "?!", "?<=", "?<!"].any fun opening => opening.toList.isPrefixOf rest

/-- Read flags up to their colon or closing parenthesis. -/
def groupFlags : Reader GroupStart := do
  let letters ← takeWhile fun c => c != ':' && c != ')'
  let stop ← next
  match flagLetters (← get).flags [] false letters with
  | none => fail
  | some flags =>
    if stop = ')' ∧ letters.isEmpty then fail
    else
      modify fun state => { state with flags := flags }
      return if stop = ')' then .flags else .plain

/-- Read the start of a group after its opening parenthesis. -/
def groupStart : Reader GroupStart := do
  skipFiller
  if ← looksAround then fail
  if ← take? "?P<" then return ← newGroup (some (← groupName))
  if ← take? "?<" then return ← newGroup (some (← groupName))
  if ← take? "?" then return ← groupFlags
  newGroup none

end Reader
end Regex
end PatchScript
