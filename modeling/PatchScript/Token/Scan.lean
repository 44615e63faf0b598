import PatchScript.Token

/-!
# Cutting a source text into tokens

`readToken` reads one token at the head of a text without regard to where the
text stands.  `scan` alternates it with trivia (blanks, line breaks and
comments) and computes every position from the text before it.
-/

namespace PatchScript

/-- Why a source text cannot be cut into tokens, and where. -/
structure LexError where
  message : String
  file : String
  position : Position

def LexError.text (error : LexError) : String :=
  error.position.text error.file ++ ": " ++ error.message

namespace Scan

/-- Whether a name can start with this character. -/
def isNameStart (c : Char) : Bool :=
  c.isAlpha || c == '_'

/-- Whether a name can go on with this character. -/
def isNamePart (c : Char) : Bool :=
  c.isAlphanum || c == '_'

/-- Characters between tokens that are not part of a comment. -/
def isBlank (c : Char) : Bool :=
  c == ' ' || c == '\r' || c == '\t' || c == '\n'

/-- How many characters at the head of a text are trivia.  A comment runs from
`#` to the end of its line. -/
def triviaLength (inComment : Bool) : List Char → Nat
  | [] => 0
  | c :: rest =>
    if inComment then triviaLength (c != '\n') rest + 1
    else if isBlank c then triviaLength false rest + 1
    else if c = '#' then triviaLength true rest + 1
    else 0

/-- Why no token can be read, with the number of characters between the start
of the token and the fault. -/
structure Fault where
  message : String
  /-- How far from the start of the token. -/
  offset : Nat

/-- The number spelled by exactly this many hexadecimal digits at the head of a
text. -/
def hexNumber? (code : Nat) : Nat → List Char → Option Nat
  | 0, _ => some code
  | _ + 1, [] => none
  | count + 1, c :: rest =>
    match Text.hexValue? c with
    | none => none
    | some digit => hexNumber? (code * 16 + digit) count rest

/-- The character an escape letter stands for by itself. -/
def escapedChar? (c : Char) : Option Char :=
  match c with
  | 'n' => some '\n'
  | 'r' => some '\r'
  | 't' => some '\t'
  | 'b' => some '\x08'
  | '0' => some '\x00'
  | '"' => some '"'
  | '\'' => some '\''
  | '\\' => some '\\'
  | _ => none

/-- A code point in upper case with at least four digits. -/
def paddedHex (code : Nat) : String :=
  let digits := (Nat.toDigits 16 code).map Char.toUpper
  String.ofList (List.replicate (4 - digits.length) '0' ++ digits)

/-- Read the digits of a numeric escape.  The result counts them. -/
def readHexEscape (count : Nat) (rest : List Char) : Except String (Char × Nat) :=
  match hexNumber? 0 count rest with
  | none =>
    .error ("Escape sequence expects " ++ Decimal.naturalText count ++ " hexadecimal digits")
  | some code =>
    if code.isValidChar then .ok (Char.ofNat code, count)
    else .error ("Escape sequence \\u" ++ paddedHex code ++ " is not a valid character")

/-- Read what follows a backslash: the character meant and how many characters
spell it. -/
def readEscape (letter : Char) (rest : List Char) : Except String (Char × Nat) :=
  match escapedChar? letter with
  | some c => .ok (c, 1)
  | none =>
    if letter = 'x' then (readHexEscape 2 rest).map fun found => (found.1, found.2 + 1)
    else if letter = 'u' then (readHexEscape 4 rest).map fun found => (found.1, found.2 + 1)
    else .error ("Invalid escape sequence \\" ++ Text.escapeChar letter)

/-- The fault of a literal without a closing quote. -/
def unterminated : Fault :=
  { message := "Unterminated string literal", offset := 0 }

/-- Read a quoted literal after its opening quote: its decoded characters, and
the length of the literal up to and with the closing quote.  `offset` counts
the characters read so far, and `skip` those that an escape has used up. -/
def readQuoted (quote : Char) (offset skip : Nat)
    (decoded : List Char) : List Char → Except Fault (List Char × Nat)
  | [] => .error unterminated
  | c :: rest =>
    match skip with
    | skip + 1 => readQuoted quote (offset + 1) skip decoded rest
    | 0 =>
      if c = quote then .ok (decoded.reverse, offset + 1)
      else if c = '\n' then
        .error
          { message := "Line break inside string literal (did you forget a quote?)"
            offset := offset }
      else if c = '\\' then
        match rest with
        | [] => .error unterminated
        | letter :: more =>
          match readEscape letter more with
          | .error message => .error { message := message, offset := offset }
          | .ok (meant, length) =>
            readQuoted quote (offset + 1) length (meant :: decoded) rest
      else readQuoted quote (offset + 1) 0 (c :: decoded) rest

/-- The fault of a character that starts no token. -/
def unexpected (c : Char) : Fault :=
  { message := "Unexpected character '" ++ Text.escapeChar c ++ "'", offset := 0 }

/-- Read a number: digits, and a fraction if a digit follows the point. -/
def readNumber (text : List Char) : TokenKind × Nat :=
  let whole := text.takeWhile Char.isDigit
  match text.drop whole.length with
  | '.' :: rest =>
    let fraction := rest.takeWhile Char.isDigit
    if fraction.isEmpty then
      (.number (Decimal.ofDecimalDigits whole []), whole.length)
    else
      (.number (Decimal.ofDecimalDigits whole fraction),
        whole.length + 1 + fraction.length)
  | _ => (.number (Decimal.ofDecimalDigits whole []), whole.length)

def nameOf (text : List Char) : List Char :=
  text.takeWhile isNamePart

/-- The token of an unquoted word. -/
def wordKind (word : String) : TokenKind :=
  match Keyword.ofText? word with
  | some keyword => .keyword keyword
  | none => .word word

/-- Read the token that a character and the text after it start with, and its
length. -/
def readToken (c : Char) (rest : List Char) : Except Fault (TokenKind × Nat) :=
  if c = '"' then
    (readQuoted '"' 1 0 [] rest).map fun found =>
      (.string (String.ofList found.1), found.2)
  else if c = '\'' then
    (readQuoted '\'' 1 0 [] rest).map fun found =>
      (.word (String.ofList found.1), found.2)
  else if c = '$' then
    match rest with
    | first :: _ =>
      if isNameStart first then
        let name := nameOf rest
        .ok (.variable (String.ofList name), name.length + 1)
      else .error { message := "Expected a variable name after '$'", offset := 1 }
    | [] => .error { message := "Expected a variable name after '$'", offset := 1 }
  else if c.isDigit then .ok (readNumber (c :: rest))
  else if isNameStart c then
    let name := nameOf (c :: rest)
    .ok (wordKind (String.ofList name), name.length)
  else
    match Symbol.trie.longestMatch (c :: rest) with
    | some (symbol, length) => .ok (.symbol symbol, length)
    | none => .error (unexpected c)

/-- Cut the rest of a source into tokens, given the position it starts at. -/
def tokensFrom (file : String) (position : Position)
    (source : List Char) : Except LexError (List Token) :=
  let trivia := triviaLength false source
  let start := position.after (source.take trivia)
  match _shape : source.drop trivia with
  | [] =>
    .ok [{ kind := .endOfFile, span := { file := file, start := start, stop := start } }]
  | c :: rest =>
    match readToken c rest with
    | .error fault =>
      .error
        { message := fault.message
          file := file
          position := start.after ((c :: rest).take fault.offset) }
    | .ok (kind, length) =>
      let stop := start.after ((c :: rest).take length)
      let token : Token :=
        { kind := kind, span := { file := file, start := start, stop := stop } }
      match tokensFrom file stop (rest.drop (length - 1)) with
      | .error error => .error error
      | .ok tokens => .ok (token :: tokens)
termination_by source.length
decreasing_by
  have shorter := congrArg List.length _shape
  simp only [List.length_drop, List.length_cons] at shorter ⊢
  omega

end Scan

/-- Cut a source text into tokens, the last of which marks its end. -/
def scan (source file : String) : Except LexError (List Token) :=
  Scan.tokensFrom file Position.start source.toList

end PatchScript
