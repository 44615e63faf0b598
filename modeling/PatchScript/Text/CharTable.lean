/-!
# Sets of characters

A set of characters is a sorted array of code point ranges.  Tables of the ranges
are written as the lengths of runs of code points, which are by turns outside and
inside of the set.

Tables write their numbers one after the other.  A digit or capital letter ends a
number, with a last place of base 36; small letters before it are higher places, of
base 26, and a minus sign makes the number negative.  Blanks do not count.
-/

namespace PatchScript
namespace Text

/-- A set of characters as ranges of code points, ends included. -/
structure CharTable where
  ranges : Array (Nat × Nat)

/-- The numbers that a table writes, the first with a sign and its highest places. -/
def numbersAfter (sign : Int) (high : Nat) : List Char → List Int
  | [] => []
  | c :: rest =>
    if c.isWhitespace then numbersAfter sign high rest
    else if c = '-' then numbersAfter (-1) high rest
    else if c.isLower then numbersAfter sign (26 * high + (c.toNat - 'a'.toNat)) rest
    else
      let last := if c.isDigit then c.toNat - '0'.toNat else c.toNat - 'A'.toNat + 10
      sign * (36 * high + last : Nat) :: numbersAfter 1 0 rest

/-- The numbers that a table writes. -/
def numbers (table : String) : List Int :=
  numbersAfter 1 0 table.toList

/-- The ranges that runs from a code point on are made of. -/
def CharTable.rangesFrom (start : Nat) : List Nat → List (Nat × Nat)
  | outside :: inside :: rest =>
    (start + outside, start + outside + inside - 1) ::
      rangesFrom (start + outside + inside) rest
  | _ => []

/-- A set from the lengths of its runs. -/
def CharTable.ofRuns (lengths : String) : CharTable :=
  ⟨(rangesFrom 0 ((numbers lengths).map Int.toNat)).toArray⟩

/-- Whether a code point lies in one of the ranges. -/
def CharTable.containsCode (table : CharTable) (code : Nat) : Bool :=
  table.ranges.any fun range => range.1 ≤ code && code ≤ range.2

def CharTable.contains (table : CharTable) (c : Char) : Bool :=
  table.containsCode c.toNat

end Text
end PatchScript
