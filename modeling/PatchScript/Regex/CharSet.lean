import PatchScript.Text.Blank
import PatchScript.Text.FoldTable
import PatchScript.Text.WordTable

/-!
# Character classes of patterns

A set of characters is kept as the list of its maximal ranges of code points, in
order, so that equal sets are equal lists.  The code points of surrogates are in no
set.  Ignoring case closes a set under case variants.
-/

namespace PatchScript
namespace Regex

/-- Whether a character makes up words. -/
def isWordChar (c : Char) : Bool :=
  Text.wordChars.contains c

/-- A range of code points, ends included. -/
structure CodeRange where
  first : Nat
  last : Nat
deriving DecidableEq

namespace CodeRange

/-- Put a range in front of later ones, joined with those that it meets. -/
def join (range : CodeRange) : List CodeRange → List CodeRange
  | [] => [range]
  | next :: rest =>
    if range.last + 1 < next.first then range :: next :: rest
    else join { range with last := Nat.max range.last next.last } rest

/-- Join the ranges of a list sorted by first code points. -/
def joinSorted : List CodeRange → List CodeRange
  | [] => []
  | range :: rest => range.join (joinSorted rest)

/-- The ranges between the ranges of a sorted list, from a code point on. -/
def gaps (start : Nat) : List CodeRange → List CodeRange
  | [] => if start ≤ 0x10ffff then [⟨start, 0x10ffff⟩] else []
  | range :: rest =>
    if start < range.first then ⟨start, range.first - 1⟩ :: gaps (range.last + 1) rest
    else gaps (range.last + 1) rest

/-- Whether a code point is in one of the ranges of a sorted list. -/
def covers (code : Nat) : List CodeRange → Bool
  | [] => false
  | range :: rest =>
    if code < range.first then false
    else if code ≤ range.last then true
    else covers code rest

/-- The ranges of a list in order, joined. -/
def normalize (ranges : List CodeRange) : List CodeRange :=
  joinSorted (ranges.mergeSort fun left right => left.first ≤ right.first)

end CodeRange

/-- A set of characters. -/
structure CharSet where
  /-- The maximal ranges of its code points, in order. -/
  ranges : List CodeRange
deriving DecidableEq

namespace CharSet

def contains (set : CharSet) (c : Char) : Bool :=
  CodeRange.covers c.toNat set.ranges

def empty : CharSet :=
  ⟨[]⟩

def singleton (c : Char) : CharSet :=
  ⟨[⟨c.toNat, c.toNat⟩]⟩

/-- The only character of a set, if it has exactly one. -/
def only? (set : CharSet) : Option Char :=
  match set.ranges with
  | [range] => if range.first = range.last then some (Char.ofNat range.first) else none
  | _ => none

def union (left right : CharSet) : CharSet :=
  ⟨CodeRange.normalize (left.ranges ++ right.ranges)⟩

/-- The code points that are no characters. -/
def surrogates : CodeRange :=
  ⟨0xd800, 0xdfff⟩

def complement (set : CharSet) : CharSet :=
  ⟨CodeRange.gaps 0 (CodeRange.normalize (surrogates :: set.ranges))⟩

def any : CharSet :=
  complement empty

def intersection (left right : CharSet) : CharSet :=
  complement (union (complement left) (complement right))

/-- The characters of the first set that are not in the second. -/
def difference (left right : CharSet) : CharSet :=
  intersection left (complement right)

/-- The characters of exactly one of two sets. -/
def symmetricDifference (left right : CharSet) : CharSet :=
  difference (union left right) (intersection left right)

/-- All characters between two, ends included. -/
def range (first last : Char) : CharSet :=
  intersection any ⟨[⟨first.toNat, last.toNat⟩]⟩

def ofTable (table : Text.CharTable) : CharSet :=
  ⟨table.ranges.toList.map fun range => ⟨range.1, range.2⟩⟩

def word : CharSet :=
  ofTable Text.wordChars

def digit : CharSet :=
  ofTable Text.decimalDigits

def blank : CharSet :=
  ofTable Text.blanks

/-- Every character but the line feed. -/
def notLineFeed : CharSet :=
  complement (singleton '\n')

/-- Add code points to a set. -/
def insertCodes (set : CharSet) (codes : List Nat) : CharSet :=
  ⟨CodeRange.normalize (set.ranges ++ codes.map fun code => ⟨code, code⟩)⟩

/-- The characters with a case variant in a set: first the characters that stand for
members, then all that these stand for. -/
def anyCase (set : CharSet) : CharSet :=
  let standIns := Text.foldPairs.filterMap fun (code, standIn) =>
    if CodeRange.covers code set.ranges then some standIn else none
  let folded := set.insertCodes standIns
  let variants := Text.foldPairs.filterMap fun (code, standIn) =>
    if CodeRange.covers standIn folded.ranges then some code else none
  folded.insertCodes variants

def unionOf (sets : List CharSet) : CharSet :=
  ⟨CodeRange.normalize (sets.flatMap CharSet.ranges)⟩

/-- The ASCII set of a name. -/
def named? : String → Option CharSet
  | "alnum" => some (unionOf [range '0' '9', range 'A' 'Z', range 'a' 'z'])
  | "alpha" => some (unionOf [range 'A' 'Z', range 'a' 'z'])
  | "ascii" => some (range '\x00' '\x7f')
  | "blank" => some (unionOf [singleton '\t', singleton ' '])
  | "cntrl" => some (unionOf [range '\x00' '\x1f', singleton '\x7f'])
  | "digit" => some (range '0' '9')
  | "graph" => some (range '!' '~')
  | "lower" => some (range 'a' 'z')
  | "print" => some (range ' ' '~')
  | "punct" =>
    some (unionOf [range '!' '/', range ':' '@', range '[' '\x60', range '\x7b' '~'])
  | "space" => some (unionOf [range '\t' '\r', singleton ' '])
  | "upper" => some (range 'A' 'Z')
  | "word" => some (unionOf [range '0' '9', range 'A' 'Z', singleton '_', range 'a' 'z'])
  | "xdigit" => some (unionOf [range '0' '9', range 'A' 'F', range 'a' 'f'])
  | _ => none

end CharSet
end Regex
end PatchScript
