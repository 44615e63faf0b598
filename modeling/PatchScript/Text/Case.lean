import PatchScript.Text.CasedTable
import PatchScript.Text.CaseTable

/-!
# Upper and lower case

Case mappings of texts.  A character may become several, and a capital sigma
becomes its final form at the end of a word.
-/

namespace PatchScript
namespace Text

/-- Map a character by expansion if it has one, by its shift otherwise. -/
def mapCase (shifts : List Shift) (expansions : List (Nat × List Nat)) (c : Char) : List Char :=
  match expansions.lookup c.toNat with
  | some codes => codes.map Char.ofNat
  | none => [Char.ofNat (shifted shifts c.toNat)]

def upper (text : String) : String :=
  String.ofList (text.toList.flatMap (mapCase upperShifts upperExpansions))

/-- Whether the first character that is not ignorable is a letter with case. -/
def meetsCased (text : List Char) : Bool :=
  match text.dropWhile caseIgnorable.contains with
  | [] => false
  | c :: _ => cased.contains c

/-- The lower-case form of what follows a text, which is given reversed. -/
def lowerAfter (before : List Char) : List Char → List Char
  | [] => []
  | c :: rest =>
    let mapped :=
      if c = 'Σ' then
        if meetsCased before && !meetsCased rest then ['ς'] else ['σ']
      else mapCase lowerShifts lowerExpansions c
    mapped ++ lowerAfter (c :: before) rest

def lower (text : String) : String :=
  String.ofList (lowerAfter [] text.toList)

end Text
end PatchScript
