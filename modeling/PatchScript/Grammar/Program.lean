import PatchScript.Grammar.Constant
import PatchScript.Grammar.Statement

/-!
# Reading programs

A program is a header of tags followed by statements.  It is accepted only if
every part of it could be read; otherwise all errors are returned in source
order.
-/

namespace PatchScript
namespace Grammar

/-- Read a header tag after its `@`, and add it to the tags before it. -/
def headerTag (rules : TagRules) (tags : OrderedMap Json) : Parse (OrderedMap Json) := do
  let token ← advance
  match token.kind with
  | .word key =>
    match rules.lookup key with
    | none => failAt ("Unknown metadata key '" ++ key ++ "'") token.span
    | some rule =>
      if tags.contains key then
        failAt ("Duplicate metadata key '" ++ key ++ "'") token.span
      let value ← rule.read
      expectSymbol .semicolon "';' after metadata value"
      return tags.insert key value
  | other =>
    failAt ("Expected a metadata key after '@', found " ++ other.describe) token.span

/-- Read a header tag, or record its error and go on without it. -/
def recoveringTag (rules : TagRules)
    (tags : OrderedMap Json) : Parse (OrderedMap Json) := fun start =>
  match headerTag rules tags start.advance with
  | .ok extended cursor => .ok extended cursor
  | .error error cursor => .ok tags (cursor.recover error start.remaining.length)

/-- One header tag, given those before it. -/
def headerTurn (rules : TagRules)
    (tags : OrderedMap Json) : Parse (Turn (OrderedMap Json) (OrderedMap Json)) := do
  if (← get).aborted || !(← atSymbol .atSign) then return .done tags
  return .again (← recoveringTag rules tags)

/-- One statement at top level, given those before it. -/
def statementTurn
    (statements : List Statement) : Parse (Turn (List Statement) (List Statement)) := do
  let cursor ← get
  if cursor.aborted || cursor.atEnd then return .done statements
  match ← recoveringStatement (nestedTo maxNesting) false with
  | some statement => return .again (statements ++ [statement])
  | none => return .done statements

/-- Read a header and the statements after it. -/
def program (rules : TagRules) : Parse Program := do
  let metadata ← loop (headerTurn rules) OrderedMap.empty
  let statements ← loop statementTurn []
  return { metadata := metadata, statements := statements }

/-- Read a program from its tokens, or list everything that is wrong with it. -/
def programOfTokens (rules : TagRules) (tokens : List Token) : Except (List ParseError) Program :=
  match program rules (Cursor.ofTokens tokens) with
  | .ok parsed cursor => if cursor.errors.isEmpty then .ok parsed else .error cursor.errors
  | .error error cursor => .error (cursor.errors ++ [error])

/-- Read one expression from the start of a list of tokens.  The result tells
whether it uses them all. -/
def expressionOfTokens (tokens : List Token) : Except ParseError (Expr × Bool) :=
  match expression maxNesting Precedence.lowest.rank (Cursor.ofTokens tokens) with
  | .ok expr cursor => .ok (expr, cursor.atEnd)
  | .error error _ => .error error

end Grammar

/-- Why a source text is no program. -/
inductive SourceError where
  /-- It cannot be cut into tokens. -/
  | lex (error : LexError)
  /-- It does not follow the grammar. -/
  | parse (errors : List ParseError)

/-- Every error of a source text. -/
def SourceError.text : SourceError → String
  | .lex error => error.text
  | .parse errors => ParseError.listText errors

/-- Read a program from its source text, with the header tags that some rules allow. -/
def Program.ofTaggedSource (rules : Grammar.TagRules)
    (source file : String) : Except SourceError Program :=
  match scan source file with
  | .error error => .error (.lex error)
  | .ok tokens =>
    match Grammar.programOfTokens rules tokens with
    | .error errors => .error (.parse errors)
    | .ok program => .ok program

/-- Read a program from its source text. -/
def Program.ofSource (source file : String) : Except SourceError Program :=
  Program.ofTaggedSource Grammar.TagRules.standard source file

end PatchScript
