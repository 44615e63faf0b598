import PatchScript.Text.Escape
import PatchScript.Text.HiddenTable

/-!
# Quoted names

Names in listings are quoted.  Letters of all scripts stand for themselves;
quotes, backslashes and characters that cannot be shown are escaped.
-/

namespace PatchScript
namespace Text

/-- One character of a quoted name. -/
def debugChar (c : Char) : String :=
  if c = '\x00' then "\\0"
  else if c = '\t' then "\\t"
  else if c = '\r' then "\\r"
  else if c = '\n' then "\\n"
  else if c = '"' then "\\\""
  else if c = '\\' then "\\\\"
  else if c.toNat < 0x20 ∨ hiddenChars.contains c then escapeCodePoint c
  else String.singleton c

def debug (text : String) : String :=
  "\"" ++ String.join (text.toList.map debugChar) ++ "\""

end Text
end PatchScript
