import PatchScript.Regex.Pattern

/-!
# Building patterns in simple form

Patterns are built by functions that simplify them one level at a time.  Sequences
and alternatives are flat, characters in a row are one literal, alternatives between
single characters are one set, and what all alternatives start with stands once in
front of them.  The last rule decides what matches: `a*a|a*b` prefers the longest run
of `a` that one of the alternatives can follow, as `a*(a|b)` does.
-/

namespace PatchScript
namespace Regex
namespace Pattern

/-- One character of a set. -/
def ofSet (set : CharSet) : Pattern :=
  match set.only? with
  | some c => .literal [c]
  | none => .char set

/-- The parts of a sequence. -/
def parts : Pattern → List Pattern
  | .empty => []
  | .sequence first rest => first :: rest.parts
  | other => [other]

/-- The pattern of the parts of a sequence. -/
def ofParts : List Pattern → Pattern
  | [] => .empty
  | [part] => part
  | part :: rest => .sequence part (ofParts rest)

/-- Put a part in front of others.  Two literals become one. -/
def consPart : Pattern → List Pattern → List Pattern
  | .literal text, .literal next :: rest => .literal (text ++ next) :: rest
  | part, rest => part :: rest

/-- Patterns one after the other. -/
def concat (patterns : List Pattern) : Pattern :=
  ofParts ((patterns.flatMap parts).foldr consPart [])

/-- The branches of alternatives. -/
def branches : Pattern → List Pattern
  | .either first rest => first :: rest.branches
  | other => [other]

/-- The pattern of the branches of alternatives. -/
def ofBranches : List Pattern → Pattern
  | [] => .char .empty
  | [branch] => branch
  | branch :: rest => .either branch (ofBranches rest)

/-- The characters that a pattern matches, if it matches single characters only. -/
def set? : Pattern → Option CharSet
  | .literal [c] => some (.singleton c)
  | .char set => some set
  | _ => none

/-- Alternatives as one set if they match single characters only, as branches
otherwise. -/
def mergeSets (alternatives : List Pattern) : Pattern :=
  match alternatives.mapM set? with
  | some sets => ofSet (.unionOf sets)
  | none => ofBranches alternatives

/-- What two lists start with. -/
def sharedStart : List Pattern → List Pattern → List Pattern
  | first :: left, second :: right =>
    if first = second then first :: sharedStart left right else []
  | _, _ => []

/-- What the parts of all alternatives start with.  It is empty unless all of them
are sequences. -/
def sharedParts : List Pattern → List Pattern
  | [] => []
  | alternative :: rest =>
    if (alternative :: rest).all fun pattern => 2 ≤ pattern.parts.length then
      rest.foldl (fun shared pattern => sharedStart shared pattern.parts) alternative.parts
    else []

/-- Alternatives between patterns.  Once their common start is taken off they have
none left, so one turn is enough. -/
def choice (alternatives : List Pattern) : Pattern :=
  match alternatives.flatMap branches with
  | [alternative] => alternative
  | flat =>
    match sharedParts flat with
    | [] => mergeSets flat
    | shared =>
      let rests := flat.map fun pattern => ofParts (pattern.parts.drop shared.length)
      concat (shared ++ [mergeSets (rests.flatMap branches)])

/-- A pattern repeated between two bounds.  What matches only the empty text is
repeated at most once. -/
def repeatBetween (body : Pattern) (least : Nat) (most : Option Nat) (greedy : Bool) : Pattern :=
  let least := if body.matchesOnlyEmpty then Nat.min least 1 else least
  let most := if body.matchesOnlyEmpty then some (Nat.min (most.getD 1) 1) else most
  if least = 0 ∧ most = some 0 then .empty
  else if least = 1 ∧ most = some 1 then body
  else .repetition body least most greedy

end Pattern
end Regex
end PatchScript
