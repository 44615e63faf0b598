/-!
# Searching in texts

Texts are searched from left to right for matches that do not overlap.
Positions count characters.
-/

namespace PatchScript
namespace Text

/-- The position of the first occurrence of a text in another. -/
def find? (needle : List Char) : List Char → Option Nat
  | [] => if needle.isEmpty then some 0 else none
  | c :: rest =>
    if needle.isPrefixOf (c :: rest) then some 0
    else (find? needle rest).map (· + 1)

/-- Cut a text at every match of a nonempty separator.  The first `skip`
characters belong to a match already found, and `part` is the part being read,
reversed. -/
def splitFrom (separator : List Char) (skip : Nat) (part : List Char) : List Char → List (List Char)
  | [] => [part.reverse]
  | c :: rest =>
    match skip with
    | more + 1 => splitFrom separator more part rest
    | 0 =>
      if separator.isPrefixOf (c :: rest) then
        part.reverse :: splitFrom separator (separator.length - 1) [] rest
      else splitFrom separator 0 (c :: part) rest

/-- The parts of a text between the matches of a separator; an empty separator
gives the single characters. -/
def split (separator text : List Char) : List (List Char) :=
  if separator.isEmpty then text.map fun c => [c]
  else splitFrom separator 0 [] text

def join (separator : String) : List String → String
  | [] => ""
  | first :: rest => rest.foldl (fun joined part => joined ++ separator ++ part) first

/-- Append a text a number of times. -/
def appendRepeated (text : String) : Nat → String → String
  | 0, written => written
  | count + 1, written => appendRepeated text count (written ++ text)

def repeated (text : String) (count : Nat) : String :=
  appendRepeated text count ""

end Text
end PatchScript
