import PatchScript.Regex.Match
import PatchScript.Regex.Reader.Pattern

/-!
# Replacing matches

Every match that does not overlap an earlier one is replaced.  The replacement may
name groups of the match after a dollar sign.
-/

namespace PatchScript
namespace Regex

/-- A part of a replacement. -/
inductive Piece where
  | literal (c : Char)
  /-- The text of a group. -/
  | group (name : String)

/-- Whether a character may stand in the name of a group after a dollar sign. -/
def isReferenceChar (c : Char) : Bool :=
  c.isAlphanum || c == '_'

/-- The parts of a replacement.  The first `skip` characters are already read. -/
def pieces (skip : Nat) : List Char → List Piece
  | [] => []
  | c :: rest =>
    match skip with
    | more + 1 => pieces more rest
    | 0 =>
      if c ≠ '$' then .literal c :: pieces 0 rest
      else
        match rest with
        | '$' :: _ => .literal '$' :: pieces 1 rest
        | '\x7b' :: inner =>
          let name := inner.takeWhile (· != '\x7d')
          if name.length < inner.length then
            .group (String.ofList name) :: pieces (name.length + 2) rest
          else .literal '$' :: pieces 0 rest
        | _ =>
          let name := rest.takeWhile isReferenceChar
          if name.isEmpty then .literal '$' :: pieces 0 rest
          else .group (String.ofList name) :: pieces name.length rest

/-- The number of a group given by number or name. -/
def groupIndex? (regex : Regex) (name : String) : Option Nat :=
  let digits := match name.toList with
    | '+' :: rest => rest
    | other => other
  if !digits.isEmpty && digits.all Char.isDigit then
    some (digits.foldl (fun value c => value * 10 + (c.toNat - '0'.toNat)) 0)
  else regex.names.lookup name

/-- The characters of a text between two positions. -/
def between (text : Array Char) (bounds : Nat × Nat) : List Char :=
  (text.extract bounds.1 bounds.2).toList

/-- The characters of a part of a replacement. -/
def expand (regex : Regex) (text : Array Char) (found : Match) : Piece → List Char
  | .literal c => [c]
  | .group name =>
    match (groupIndex? regex name).bind found.group? with
    | some bounds => between text bounds
    | none => []

/-- Replace the matches in what follows a position.  An empty match right after
the match before it is passed over. -/
def replaceFrom (expandMatch : Match → List Char) (program : Program) :
    Nat → Option Nat → Nat → Option Char → List Char → List Char → List Char
  | 0, _, _, _, rest, written => written.reverse ++ rest
  | budget + 1, lastStop, position, before, rest, written =>
    match find? program position before rest with
    | none => written.reverse ++ rest
    | some found =>
      if found.start = found.stop ∧ lastStop = some found.stop then
        match rest with
        | [] => written.reverse
        | c :: rest =>
          replaceFrom expandMatch program budget lastStop (position + 1) (some c) rest
            (c :: written)
      else
        let kept := rest.take (found.start - position)
        let matched := rest.take (found.stop - position)
        replaceFrom expandMatch program budget (some found.stop) found.stop
          (matched.getLast?.or before) (rest.drop (found.stop - position))
          ((expandMatch found).reverse ++ (kept.reverse ++ written))

def replaceAll (regex : Regex) (text replacement : String) : String :=
  let chars := text.toList
  let indexed := chars.toArray
  let parts := pieces 0 replacement.toList
  let expandMatch (found : Match) : List Char :=
    parts.flatMap (expand regex indexed found)
  String.ofList
    (replaceFrom expandMatch (compile regex) (2 * chars.length + 2) none 0 none chars [])

end Regex
end PatchScript
