import PatchScript.Regex.Simplify
import PatchScript.Text.Escape

/-!
# Reading the characters of patterns

Patterns are read in one pass.  Flags hold from where they are set to the end of
the group around them.  Reading fails on any text that is no pattern; why is not
recorded.  This module holds the state of reading and the escapes.
-/

namespace PatchScript
namespace Regex

/-- How characters are read and matched. -/
structure Flags where
  /-- Case does not matter. -/
  ignoreCase : Bool := false
  /-- Line ends are ends. -/
  multiLine : Bool := false
  /-- The dot matches line feeds. -/
  dotAll : Bool := false
  /-- Repetitions are lazy unless marked. -/
  swapGreed : Bool := false
  /-- Blanks and comments are skipped. -/
  verbose : Bool := false

/-- The state of reading. -/
structure ReaderState where
  rest : List Char
  flags : Flags
  groupCount : Nat
  /-- The names of groups and their numbers. -/
  names : List (String × Nat)

abbrev Reader := StateT ReaderState Option

namespace Reader

def fail {α : Type} : Reader α :=
  fun _ => none

def peek : Reader (Option Char) :=
  return (← get).rest.head?

/-- Move past a number of characters. -/
def skip (count : Nat) : Reader Unit :=
  modify fun state => { state with rest := state.rest.drop count }

/-- Read a text if it comes next. -/
def take? (text : String) : Reader Bool := do
  if text.toList.isPrefixOf (← get).rest then
    skip text.length
    return true
  return false

/-- Drop a comment up to the end of its line. -/
def afterComment (text : List Char) : List Char :=
  text.dropWhile (· != '\n')

/-- Drop blanks and comments. -/
def afterFiller : Nat → List Char → List Char
  | 0, text => text
  | budget + 1, text =>
    match text.dropWhile Text.isBlank with
    | '#' :: rest => afterFiller budget (afterComment rest)
    | other => other

/-- Skip blanks and comments where they are skipped. -/
def skipFiller : Reader Unit :=
  modify fun state =>
    if state.flags.verbose then
      { state with rest := afterFiller state.rest.length state.rest }
    else state

/-- Read one character; fail at the end. -/
def next : Reader Char := do
  match (← get).rest with
  | [] => fail
  | c :: rest =>
    modify fun state => { state with rest := rest }
    return c

/-- Read one character and skip what follows it. -/
def nextSkipping : Reader Char := do
  let c ← next
  skipFiller
  return c

/-- Read characters while they pass a test. -/
def takeWhile (test : Char → Bool) : Reader (List Char) := do
  let taken := (← get).rest.takeWhile test
  modify fun state => { state with rest := state.rest.dropWhile test }
  return taken

/-- Read a natural number with blanks around it. -/
def decimal : Reader Nat := do
  let _ ← takeWhile Text.isBlank
  let digits ← takeWhile Char.isDigit
  let _ ← takeWhile Text.isBlank
  if digits.isEmpty then fail
  else
    let value := digits.foldl (fun value c => value * 10 + (c.toNat - '0'.toNat)) 0
    if value < Nat.pow 2 32 then return value else fail

/-- The character of a code point. -/
def ofCodePoint (code : Nat) : Reader Char :=
  if code < 0xd800 ∨ (0xdfff < code ∧ code ≤ 0x10ffff) then return Char.ofNat code
  else fail

/-- The number that hexadecimal digits spell. -/
def ofHexDigits (digits : List Char) : Reader Nat :=
  digits.foldlM
    (fun value c =>
      match Text.hexValue? c with
      | some digit => return value * 16 + digit
      | none => fail)
    0

/-- A fixed number of hexadecimal digits. -/
def hexDigits (count : Nat) : Reader Char := do
  let digits := (← get).rest.take count
  if digits.length < count then fail
  else
    skip count
    ofCodePoint (← ofHexDigits digits)

/-- A code point in braces, or in a fixed number of digits. -/
def hexEscape (count : Nat) : Reader Char := do
  skipFiller
  if ← take? "\x7b" then
    let digits ← takeWhile (· != '\x7d')
    let _ ← next
    if digits.isEmpty then fail
    else ofCodePoint (← ofHexDigits digits)
  else hexDigits count

/-- A set, closed under case variants where case does not matter. -/
def caseClosed (set : CharSet) : Reader CharSet := do
  return if (← get).flags.ignoreCase then set.anyCase else set

/-- What a backslash and what follows it mean. -/
inductive Escaped where
  | literal (c : Char)
  | set (set : CharSet)
  | assertion (assertion : Assertion)

/-- The special word boundary in braces after a boundary, if there is one. -/
def boundaryName? : Reader (Option Assertion) := do
  if ← take? "\x7bstart\x7d" then return some .wordStart
  if ← take? "\x7bend\x7d" then return some .wordEnd
  if ← take? "\x7bstart-half\x7d" then return some .wordStartHalf
  if ← take? "\x7bend-half\x7d" then return some .wordEndHalf
  match (← get).rest with
  | '\x7b' :: c :: _ => if c.isAlpha || c == '-' then fail else return none
  | _ => return none

/-- Read what follows a backslash. -/
def escape : Reader Escaped := do
  let c ← next
  match c with
  | 'd' => return .set .digit
  | 'D' => return .set (.complement .digit)
  | 's' => return .set .blank
  | 'S' => return .set (.complement .blank)
  | 'w' => return .set .word
  | 'W' => return .set (.complement .word)
  | 'x' => return .literal (← hexEscape 2)
  | 'u' => return .literal (← hexEscape 4)
  | 'U' => return .literal (← hexEscape 8)
  | 'a' => return .literal '\x07'
  | 'f' => return .literal '\x0c'
  | 't' => return .literal '\t'
  | 'n' => return .literal '\n'
  | 'r' => return .literal '\r'
  | 'v' => return .literal '\x0b'
  | 'A' => return .assertion .textStart
  | 'z' => return .assertion .textEnd
  | 'b' => return .assertion ((← boundaryName?).getD .wordBoundary)
  | 'B' => return .assertion .notWordBoundary
  | '<' => return .assertion .wordStart
  | '>' => return .assertion .wordEnd
  | other =>
    if other.toNat < 0x80 && !other.isAlphanum then return .literal other else fail

end Reader
end Regex
end PatchScript
