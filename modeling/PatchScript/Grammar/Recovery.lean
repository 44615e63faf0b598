import PatchScript.Grammar.Cursor
import PatchScript.Syntax

/-!
# Recovery from faulty statements

A statement that cannot be read is recorded, skipped and replaced by a
placeholder, so that one pass reports every independent error.  Once the source
ends inside a statement nothing more is reported.
-/

namespace PatchScript
namespace Grammar

/-- Readers for nested syntax.  Statements are told whether they stand in a
loop. -/
structure Nested where
  /-- Read a nested expression whose operators all bind more tightly than a
  given rank. -/
  expression : Nat → Parse Expr
  /-- Read a nested statement. -/
  statement : Bool → Parse Statement

/-- Where a faulty statement ends: just after the next semicolon or the end of
the block it opened, or before a brace that closes an enclosing block.  `depth`
counts the open braces. -/
def skipFaulty (depth : Nat) (previous : Span) : List Token → Span × List Token
  | [] => (previous, [])
  | token :: rest =>
    match token.kind with
    | .symbol .semicolon =>
      if depth = 0 then (token.span, rest) else skipFaulty depth token.span rest
    | .symbol .leftBrace => skipFaulty (depth + 1) token.span rest
    | .symbol .rightBrace =>
      if depth = 0 then (previous, token :: rest)
      else if depth = 1 then (token.span, rest)
      else skipFaulty (depth - 1) token.span rest
    | _ => skipFaulty depth token.span rest

/-- Skip the rest of a faulty statement.  `startLength` is the number of tokens
that were left at its start; at least one token is taken since then. -/
def Cursor.synchronize (cursor : Cursor) (startLength : Nat) : Cursor :=
  let (previous, remaining) := skipFaulty 0 cursor.previous cursor.remaining
  let skipped := { cursor with previous := previous, remaining := remaining }
  if remaining.length = startLength then skipped.advance else skipped

/-- Record an error and skip the faulty statement.  At the end of the source
give up. -/
def Cursor.recover (cursor : Cursor) (error : ParseError) (startLength : Nat) : Cursor :=
  if cursor.aborted then cursor
  else
    let recorded := { cursor with errors := cursor.errors ++ [error] }
    if recorded.atEnd then { recorded with aborted := true }
    else recorded.synchronize startLength

/-- Read a statement, or record its error and leave a placeholder.  There is no
statement once the source ended inside one. -/
def recoveringStatement (nested : Nested) (inLoop : Bool) : Parse (Option Statement) := fun start =>
  match nested.statement inLoop start with
  | .ok statement cursor => .ok (some statement) cursor
  | .error error cursor =>
    let recovered := cursor.recover error start.remaining.length
    if recovered.aborted then .ok none recovered
    else
      let span := start.current.span.through recovered.previous
      .ok (some (.node span (.unparsed error.message))) recovered

/-- One statement of a block, given those before it. -/
def blockStatement (nested : Nested) (inLoop : Bool)
    (statements : List Statement) : Parse (Turn (List Statement) (List Statement)) := do
  if ← takeSymbol .rightBrace then return .done statements
  if (← get).atEnd then failHere "Expected '\x7d' to close block"
  match ← recoveringStatement nested inLoop with
  | some statement => return .again (statements ++ [statement])
  | none => failHere "Unexpected end of file"

/-- The statements between braces. -/
def block (nested : Nested) (inLoop : Bool) : Parse (List Statement) := do
  expectSymbol .leftBrace "'\x7b'"
  loop (blockStatement nested inLoop) []

end Grammar
end PatchScript
