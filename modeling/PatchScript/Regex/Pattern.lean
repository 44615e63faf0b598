import PatchScript.Regex.CharSet

/-!
# Patterns

The syntax trees of regular expressions.
-/

namespace PatchScript
namespace Regex

/-- A condition on the characters around a position. -/
inductive Assertion where
  | textStart
  | textEnd
  | lineStart
  | lineEnd
  | wordBoundary
  | notWordBoundary
  | wordStart
  | wordEnd
  /-- No word character before. -/
  | wordStartHalf
  /-- No word character after. -/
  | wordEndHalf
deriving DecidableEq

def isWordAt (c : Option Char) : Bool :=
  c.any isWordChar

/-- Whether a condition holds between two characters. -/
def Assertion.holds (assertion : Assertion) (before after : Option Char) : Bool :=
  match assertion with
  | .textStart => before.isNone
  | .textEnd => after.isNone
  | .lineStart => before.isNone || before == some '\n'
  | .lineEnd => after.isNone || after == some '\n'
  | .wordBoundary => isWordAt before != isWordAt after
  | .notWordBoundary => isWordAt before == isWordAt after
  | .wordStart => !isWordAt before && isWordAt after
  | .wordEnd => isWordAt before && !isWordAt after
  | .wordStartHalf => !isWordAt before
  | .wordEndHalf => !isWordAt after

/-- A regular expression. -/
inductive Pattern where
  | empty
  /-- Characters one after the other. -/
  | literal (text : List Char)
  | char (set : CharSet)
  | assertion (condition : Assertion)
  /-- A pattern whose match is kept under a number. -/
  | capture (index : Nat) (body : Pattern)
  | sequence (first rest : Pattern)
  /-- Either pattern, the first if both match. -/
  | either (first rest : Pattern)
  /-- A pattern repeated between two bounds; as often as possible if greedy, as
  rarely as possible otherwise. -/
  | repetition (body : Pattern) (least : Nat) (most : Option Nat) (greedy : Bool)
deriving DecidableEq

namespace Pattern

def size : Pattern → Nat
  | .empty => 0
  | .literal text => text.length
  | .char _ => 1
  | .assertion _ => 1
  | .capture _ body => body.size + 2
  | .sequence first rest => first.size + rest.size
  | .either first rest => first.size + rest.size + 1
  | .repetition body least most _ =>
    match most with
    | some most => least * body.size + (most - least) * (body.size + 1)
    | none => (least + 1) * (body.size + 1) + 1

/-- Whether a pattern matches the empty text and no other.  A set without characters
matches nothing at all. -/
def matchesOnlyEmpty : Pattern → Bool
  | .empty => true
  | .literal text => text.isEmpty
  | .char _ => false
  | .assertion _ => true
  | .capture _ body => body.matchesOnlyEmpty
  | .sequence first rest => first.matchesOnlyEmpty && rest.matchesOnlyEmpty
  | .either first rest => first.matchesOnlyEmpty && rest.matchesOnlyEmpty
  | .repetition body _ most _ => most.isSome && body.matchesOnlyEmpty

/-- The least number of characters that a pattern reads.  It is not known where a
set without characters takes part. -/
def leastLength? : Pattern → Option Nat
  | .empty => some 0
  | .literal text => some text.length
  | .char set => if set = .empty then none else some 1
  | .assertion _ => some 0
  | .capture _ body => body.leastLength?
  | .sequence first rest => do return (← first.leastLength?) + (← rest.leastLength?)
  | .either first rest => do return Nat.min (← first.leastLength?) (← rest.leastLength?)
  | .repetition body least _ _ => do return least * (← body.leastLength?)

/-- Whether a pattern is known to read a character. -/
def readsCharacter (pattern : Pattern) : Bool :=
  pattern.leastLength?.any (0 < ·)

end Pattern

end Regex

/-- A pattern with the names of its groups. -/
structure Regex where
  pattern : Regex.Pattern
  /-- The names of groups and their numbers. -/
  names : List (String × Nat)
  /-- How many groups there are, the whole match not counted. -/
  groupCount : Nat

end PatchScript
