import PatchScript.Regex.Reader.CharClass
import PatchScript.Regex.Reader.Group

/-!
# Reading patterns

A pattern is a list of alternatives, each a sequence of parts that may repeat.  A
text is a pattern if it is read to its end and its program is not too long.
-/

namespace PatchScript
namespace Regex
namespace Reader

/-- A character that stands for itself. -/
def literal (c : Char) : Reader Pattern := do
  return .ofSet (← caseClosed (.singleton c))

/-- The pattern of an escape. -/
def escapedPattern : Escaped → Reader Pattern
  | .literal c => literal c
  | .set set => return .ofSet set
  | .assertion assertion => return .assertion assertion

/-- The bounds of a counted repetition after its opening brace. -/
def bounds : Reader (Nat × Option Nat) := do
  skipFiller
  let least ← decimal
  let bounds ←
    match ← peek with
    | some ',' =>
      skip 1
      skipFiller
      match ← peek with
      | some '\x7d' => pure (least, none)
      | _ =>
        let most ← decimal
        if least ≤ most then pure (least, some most) else fail
    | _ => pure (least, some least)
  if ← take? "\x7d" then return bounds else fail

/-- Repeat a pattern, lazily if a question mark follows. -/
def repeated (body : Pattern) (least : Nat) (most : Option Nat) : Reader Pattern := do
  let isLazy ← take? "?"
  return body.repeatBetween least most (isLazy == (← get).flags.swapGreed)

/-- Read the repetitions that follow a pattern. -/
def repetitions : Nat → Pattern → Reader Pattern
  | 0, body => return body
  | budget + 1, body => do
    skipFiller
    match ← peek with
    | some '*' =>
      skip 1
      repetitions budget (← repeated body 0 none)
    | some '+' =>
      skip 1
      repetitions budget (← repeated body 1 none)
    | some '?' =>
      skip 1
      repetitions budget (← repeated body 0 (some 1))
    | some '\x7b' =>
      skip 1
      let (least, most) ← bounds
      skipFiller
      repetitions budget (← repeated body least most)
    | _ => return body

/-- What was read of a group: the alternatives before the last bar, and the
sequence after it. -/
structure GroupState where
  /-- The alternatives, last one first. -/
  alternatives : List Pattern
  /-- The sequence being read, last part first. -/
  current : List Pattern

/-- A group of which nothing was read. -/
def GroupState.start : GroupState :=
  { alternatives := [], current := [] }

/-- Add a part to the sequence. -/
def GroupState.add (state : GroupState) (part : Pattern) : GroupState :=
  { state with current := part :: state.current }

/-- End the sequence at a bar. -/
def GroupState.split (state : GroupState) : GroupState :=
  { alternatives := Pattern.concat state.current.reverse :: state.alternatives, current := [] }

/-- The pattern read so far. -/
def GroupState.pattern (state : GroupState) : Pattern :=
  Pattern.choice state.split.alternatives.reverse

/-- Read patterns up to the end of the group around them. -/
def group : Nat → GroupState → Reader Pattern
  | 0, _ => fail
  | budget + 1, state => do
    let continueWith (atom : Pattern) : Reader Pattern := do
      let pattern ← repetitions (← get).rest.length atom
      group budget (state.add pattern)
    skipFiller
    match ← peek with
    | none => return state.pattern
    | some ')' => return state.pattern
    | some '|' =>
      skip 1
      group budget state.split
    | some '(' =>
      skip 1
      let outer := (← get).flags
      match ← groupStart with
      | .flags => group budget state
      | .plain =>
        let body ← group budget .start
        if ← take? ")" then
          modify fun reading => { reading with flags := outer }
          continueWith body
        else fail
      | .capture index =>
        let body ← group budget .start
        if ← take? ")" then
          modify fun reading => { reading with flags := outer }
          continueWith (.capture index body)
        else fail
    | some '[' => continueWith (.ofSet (← charClass))
    | some '.' =>
      skip 1
      continueWith (.ofSet (if (← get).flags.dotAll then .any else .notLineFeed))
    | some '^' =>
      skip 1
      continueWith (.assertion (if (← get).flags.multiLine then .lineStart else .textStart))
    | some '$' =>
      skip 1
      continueWith (.assertion (if (← get).flags.multiLine then .lineEnd else .textEnd))
    | some '\\' =>
      skip 1
      continueWith (← escapedPattern (← escape))
    | some '*' | some '+' | some '?' | some '\x7b' => fail
    | some c =>
      skip 1
      continueWith (← literal c)

end Reader

/-- The greatest number of instructions of a pattern. -/
def maxInstructions : Nat := 327680

def ofText? (text : String) : Option Regex := do
  let start : ReaderState :=
    { rest := text.toList, flags := {}, groupCount := 0, names := [] }
  let (pattern, state) ←
    Reader.group (text.length + 1) .start start
  if state.rest.isEmpty ∧ pattern.size ≤ maxInstructions then
    some { pattern := pattern, names := state.names, groupCount := state.groupCount }
  else none

end Regex
end PatchScript
