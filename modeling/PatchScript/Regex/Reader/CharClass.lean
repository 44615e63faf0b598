import PatchScript.Regex.Reader

/-!
# Reading character classes

A class stands in brackets.  It holds characters, ranges, named sets and classes.
Set operations between its members group to the left and take in all that was
read before them.  Where case does not matter, named sets, classes and the operands
of set operations are closed under case variants before they are used.
-/

namespace PatchScript
namespace Regex
namespace Reader

/-- A named set in brackets and colons, if one comes next. -/
def namedSet? : Reader (Option CharSet) := do
  match (← get).rest with
  | '[' :: ':' :: rest =>
    let (negated, rest) := match rest with
      | '^' :: rest => (true, rest)
      | other => (false, other)
    let name := rest.takeWhile (· != ':')
    match rest.dropWhile (· != ':'), CharSet.named? (String.ofList name) with
    | ':' :: ']' :: rest, some set =>
      modify fun state => { state with rest := rest }
      let set ← caseClosed set
      return some (if negated then set.complement else set)
    | _, _ => return none
  | _ => return none

/-- One member of a class: a character or a set. -/
def classMember : Reader Escaped := do
  match ← next with
  | '\\' => escape
  | c => return .literal c

/-- The set of a member of a class. -/
def memberSet : Escaped → Reader CharSet
  | .literal c => return CharSet.singleton c
  | .set set => return set
  | .assertion _ => fail

/-- Whether a dash that comes next stands between the ends of a range. -/
def dashMakesRange : Reader Bool := do
  match (← get).rest with
  | '-' :: rest =>
    let rest := if (← get).flags.verbose then afterFiller rest.length rest else rest
    match rest with
    | ']' :: _ => return false
    | '-' :: _ => return false
    | _ => return true
  | _ => return false

/-- A member of a class or a range of characters. -/
def classRange : Reader CharSet := do
  let first ← classMember
  skipFiller
  if ← dashMakesRange then
    let _ ← nextSkipping
    let last ← classMember
    match first, last with
    | .literal first, .literal last => if first ≤ last then return .range first last else fail
    | _, _ => fail
  else memberSet first

/-- How a set combines with the one before it. -/
abbrev Combine := CharSet → CharSet → CharSet

/-- A set operation, if one comes next. -/
def setOperation? : Reader (Option Combine) := do
  if ← take? "&&" then return some .intersection
  if ← take? "--" then return some .difference
  if ← take? "~~" then return some .symmetricDifference
  return none

/-- A class in the making: what stands before the last set operation, that
operation, and the members read since. -/
structure ClassState where
  /-- The last operation and what stands before it. -/
  before : Option (Combine × CharSet)
  /-- The members since the last operation. -/
  members : List CharSet

/-- The set read so far. -/
def ClassState.set (state : ClassState) : Reader CharSet := do
  let set := CharSet.unionOf state.members
  match state.before with
  | none => return set
  | some (combine, before) => return combine (← caseClosed before) (← caseClosed set)

/-- Open a class: whether it is negated, and the dashes or the bracket that stand
for themselves at its start. -/
def openClass : Reader (Bool × List CharSet) := do
  skip 1
  skipFiller
  let negated ← take? "^"
  skipFiller
  let dashes ← takeWhile (· == '-')
  if dashes.isEmpty then
    if ← take? "]" then return (negated, [CharSet.singleton ']'])
  return (negated, dashes.map CharSet.singleton)

/-- Close a class: ignore case where it does not matter, then negate. -/
def closeClass (negated : Bool) (set : CharSet) : Reader CharSet := do
  let set ← caseClosed set
  return if negated then set.complement else set

/-- The members of a class up to its closing bracket. -/
def classMembers : Nat → ClassState → Reader CharSet
  | 0, _ => fail
  | budget + 1, state => do
    skipFiller
    match ← peek with
    | none => fail
    | some ']' =>
      skip 1
      state.set
    | some '[' =>
      match ← namedSet? with
      | some set => classMembers budget { state with members := set :: state.members }
      | none =>
        let (negated, opening) ← openClass
        let inner ← classMembers budget { before := none, members := opening }
        let set ← closeClass negated inner
        classMembers budget { state with members := set :: state.members }
    | some _ =>
      match ← setOperation? with
      | some combine =>
        let before ← state.set
        classMembers budget { before := some (combine, before), members := [] }
      | none =>
        let set ← classRange
        classMembers budget { state with members := set :: state.members }

/-- A class; the opening bracket comes next. -/
def charClass : Reader CharSet := do
  let budget := (← get).rest.length
  let (negated, opening) ← openClass
  closeClass negated (← classMembers budget { before := none, members := opening })

end Reader
end Regex
end PatchScript
