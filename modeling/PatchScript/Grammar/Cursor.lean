import PatchScript.Token

/-!
# A cursor over tokens

Reading syntax is a computation on a cursor: the tokens that are left, and the
errors recorded so far.  The end of the source is not a token of the list, so
moving past it is impossible.  A failed computation leaves the cursor where it
failed, which is what recovery starts from.
-/

namespace PatchScript

/-- Why a source does not follow the grammar, and where. -/
structure ParseError where
  message : String
  span : Span

def ParseError.text (error : ParseError) : String :=
  error.span.text ++ ": " ++ error.message

/-- All parse errors of a source, one a line. -/
def ParseError.listText (errors : List ParseError) : String :=
  Decimal.naturalText errors.length ++ " parse error(s):\n  " ++
    String.intercalate "\n  " (errors.map ParseError.text)

namespace Grammar

/-- The tokens that are left and what has been found out so far. -/
structure Cursor where
  /-- The tokens that are left, without the end mark. -/
  remaining : List Token
  endSpan : Span
  previous : Span
  /-- Errors of statements that were skipped, in the order found. -/
  errors : List ParseError
  /-- The source ended inside a statement. -/
  aborted : Bool

namespace Cursor

def current (cursor : Cursor) : Token :=
  match cursor.remaining with
  | [] => { kind := .endOfFile, span := cursor.endSpan }
  | token :: _ => token

/-- The token after the next one, or the end mark. -/
def following (cursor : Cursor) : Token :=
  match cursor.remaining with
  | _ :: token :: _ => token
  | _ => { kind := .endOfFile, span := cursor.endSpan }

def atEnd (cursor : Cursor) : Bool :=
  cursor.remaining.isEmpty

/-- Take the next token.  At the end there is none to take. -/
def advance (cursor : Cursor) : Cursor :=
  match cursor.remaining with
  | [] => cursor
  | token :: rest => { cursor with remaining := rest, previous := token.span }

/-- Whether a token marks the end of the source. -/
def isEndMark (token : Token) : Bool :=
  match token.kind with
  | .endOfFile => true
  | _ => false

/-- A cursor before the first token.  Tokens after an end mark are ignored;
without one the source ends where the last token stands. -/
def ofTokens (tokens : List Token) : Cursor :=
  let remaining := tokens.takeWhile fun token => !isEndMark token
  let endSpan :=
    match tokens.find? isEndMark, tokens.getLast? with
    | some token, _ => token.span
    | none, some token => token.span
    | none, none => { file := "", start := Position.start, stop := Position.start }
  let cursor : Cursor :=
    { remaining := remaining
      endSpan := endSpan
      previous := endSpan
      errors := []
      aborted := false }
  { cursor with previous := cursor.current.span }

end Cursor

abbrev Parse := EStateM ParseError Cursor

def peek : Parse Token :=
  return (← get).current

def advance : Parse Token :=
  modifyGet fun cursor => (cursor.current, cursor.advance)

def previousSpan : Parse Span :=
  return (← get).previous

def failAt {α : Type} (message : String) (span : Span) : Parse α :=
  throw { message := message, span := span }

def failHere {α : Type} (message : String) : Parse α := do
  failAt message (← peek).span

def atSymbol (symbol : Symbol) : Parse Bool := do
  match (← peek).kind with
  | .symbol found => return found = symbol
  | _ => return false

def atKeyword (keyword : Keyword) : Parse Bool := do
  match (← peek).kind with
  | .keyword found => return found = keyword
  | _ => return false

def takeSymbol (symbol : Symbol) : Parse Bool := do
  if ← atSymbol symbol then
    let _ ← advance
    return true
  else return false

def takeKeyword (keyword : Keyword) : Parse Bool := do
  if ← atKeyword keyword then
    let _ ← advance
    return true
  else return false

/-- Fail because something else was expected next. -/
def failExpected {α : Type} (expected : String) : Parse α := do
  let token ← peek
  failAt ("Expected " ++ expected ++ ", found " ++ token.kind.describe) token.span

/-- Take a symbol, or fail naming what was expected. -/
def expectSymbol (symbol : Symbol) (expected : String) : Parse Unit := do
  unless ← takeSymbol symbol do failExpected expected

/-- Take a keyword, or fail naming what was expected. -/
def expectKeyword (keyword : Keyword) (expected : String) : Parse Unit := do
  unless ← takeKeyword keyword do failExpected expected

/-- Take a declared name: a word or a variable. -/
def takeName (expected : String) : Parse String := do
  let token ← advance
  match token.kind with
  | .word name => return name
  | .variable name => return name
  | other => failAt ("Expected " ++ expected ++ ", found " ++ other.describe) token.span

/-- What one turn of a loop decides. -/
inductive Turn (α β : Type) where
  | again (state : α)
  | done (result : β)

/-- Take turns, at most a given number of them. -/
def loopWithin {α β : Type} (turn : α → Parse (Turn α β)) : Nat → α → Parse β
  | 0, _ => failHere "Unexpected end of file"
  | bound + 1, state => do
    match ← turn state with
    | .again next => loopWithin turn bound next
    | .done result => return result

/-- Take turns until one is done.  A turn that goes on has taken a token, so there
are no more turns than tokens left and one. -/
def loop {α β : Type} (turn : α → Parse (Turn α β)) (state : α) : Parse β := do
  loopWithin turn ((← get).remaining.length + 1) state

/-- The deepest nesting of statements, expressions and constants, counted
together. -/
def maxNesting : Nat := 200

def failTooDeep {α : Type} : Parse α :=
  failHere ("Code nested too deeply (limit " ++ Decimal.naturalText maxNesting ++ ")")

end Grammar
end PatchScript
