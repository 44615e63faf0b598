import PatchScript.Limits
import PatchScript.Store

/-!
# Values as text

Rendering writes a value piece by piece.  Where the size of the text is limited,
the first piece that does not fit ends the text, which is then marked by dots.
Below a nesting depth values are left out, so that rendering cyclic values ends.
-/

namespace PatchScript
namespace Store

/-- The nesting depth down to which values are rendered. -/
def maxRenderDepth : Nat := 64

/-- A text being written.  The error is the text so far, when it is full. -/
abbrev Writing := Except String String

/-- Append a piece unless it exceeds the limit. -/
def write (limit : Option Nat) (piece written : String) : Writing :=
  match limit with
  | none => .ok (written ++ piece)
  | some limit =>
    if written.utf8ByteSize + piece.utf8ByteSize ≤ limit then .ok (written ++ piece)
    else .error written

/-- Append as many characters of a plain ASCII text as fit. -/
def writeChars (limit : Option Nat) (text written : String) : Writing :=
  match limit with
  | none => .ok (written ++ text)
  | some limit =>
    if written.utf8ByteSize + text.utf8ByteSize ≤ limit then .ok (written ++ text)
    else
      .error (written ++ (text.take (limit - written.utf8ByteSize)).copy)

/-- Write an escaped text between two pieces. -/
def writeQuoted (limit : Option Nat) (text closing written : String) : Writing := do
  write limit closing (← writeChars limit (Text.escape text) (← write limit "\"" written))

/-- Write a list with a writer for its items, which are separated by commas. -/
def writeList {α : Type} (limit : Option Nat)
    (writeItem : α → String → Writing) : List α → String → Writing
  | [], written => .ok written
  | [item], written => writeItem item written
  | item :: next :: rest, written => do
    writeList limit writeItem (next :: rest)
      (← write limit ", " (← writeItem item written))

/-- Write a value, at most a number of levels deep. -/
def writeValue (store : Store) (limit : Option Nat) : Nat → Value → String → Writing
  | 0, _, written => write limit "..." written
  | _ + 1, .null, written => write limit "null" written
  | _ + 1, .boolean value, written => write limit (if value then "true" else "false") written
  | _ + 1, .number value, written => write limit (Decimal.formattedText value) written
  | _ + 1, .string value, written => writeQuoted limit value "\"" written
  | levels + 1, .array ref, written => do
    let items ← writeList limit (fun item => writeValue store limit levels item)
      (store.array ref).toList (← write limit "[" written)
    write limit "]" items
  | levels + 1, .object ref, written => do
    let items ← writeList limit
      (fun entry written => do
        writeValue store limit levels entry.2 (← writeQuoted limit entry.1 "\": " written))
      (store.object ref).entries (← write limit "\x7b" written)
    write limit "\x7d" items
  | _ + 1, .function ref, written => do
    let name ← write limit (store.describeFunction ref) (← write limit "<function " written)
    write limit ">" name

/-- A value as text, cut short at a limit. -/
def renderWithin (store : Store) (limit : Option Nat) (value : Value) : String :=
  match store.writeValue limit (maxRenderDepth + 1) value "" with
  | .ok text => text
  | .error text => text ++ "..."

def render (store : Store) (value : Value) : String :=
  store.renderWithin none value

/-- A value for logs and for joining: texts as they are, other values rendered
within the size limit. -/
def displayText (store : Store) : Value → String
  | .string value => value
  | other => store.renderWithin (some maxSequenceLength) other

/-- What can be seen of a context. -/
def describeContext (store : Store) (context : Context) : String :=
  "Context \x7b root_keys: " ++
    Decimal.naturalText (store.object context.root).size ++ ", variables: " ++
    store.frames.describe context.scope ++ ", call_depth: " ++
    Decimal.naturalText store.callDepth ++ " \x7d"

end Store
end PatchScript
