import PatchScript.Text.CharTable

/-!
# Blanks

Characters that separate words, in all scripts, and trimming them off.
-/

namespace PatchScript
namespace Text

/-- Characters that are blank. -/
def blanks : CharTable :=
  ⟨#[
    (0x9, 0xd), (0x20, 0x20), (0x85, 0x85), (0xa0, 0xa0), (0x1680, 0x1680), (0x2000, 0x200a),
    (0x2028, 0x2029), (0x202f, 0x202f), (0x205f, 0x205f), (0x3000, 0x3000)]⟩

def isBlank (c : Char) : Bool :=
  blanks.contains c

def trim (text : String) : String :=
  let kept := text.toList.dropWhile isBlank
  String.ofList (kept.reverse.dropWhile isBlank).reverse

end Text
end PatchScript
