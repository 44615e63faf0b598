import PatchScript.Grammar.Expression
import PatchScript.Token.Scan

/-!
# Reading statements

`statement` and `expression` tie the two kinds of syntax together.  Their first
argument is the nesting that is still allowed, and every nested piece of syntax
has one less.
-/

namespace PatchScript
namespace Grammar

/-- An expression in parentheses. -/
def condition (nested : Nested) : Parse Expr := do
  expectSymbol .leftParen "'('"
  let value ← nested.whole
  expectSymbol .rightParen "')'"
  return value

/-- A conditional after its keyword. -/
def conditionalForm (nested : Nested) (inLoop : Bool) : Parse StatementForm := do
  let test ← condition nested
  let thenBranch ← nested.statement inLoop
  let elseBranch ←
    if ← takeKeyword .elseWord then some <$> nested.statement inLoop else pure none
  return .conditional test thenBranch elseBranch

def whileForm (nested : Nested) : Parse StatementForm := do
  let test ← condition nested
  return .whileLoop test (← nested.statement true)

def declarationForm (nested : Nested) (isMutable : Bool) : Parse StatementForm := do
  let name ← takeName "variable name"
  expectSymbol .assign "'=' in variable declaration"
  let value ← nested.whole
  expectSymbol .semicolon "';' after variable declaration"
  return .declare name isMutable value

/-- The first clause of a `for` loop that has one: a declaration or an expression. -/
def initializerForm (nested : Nested) : Parse StatementForm := do
  match (← peek).kind with
  | .keyword .varWord => do let _ ← advance; declarationForm nested true
  | .keyword .valWord => do let _ ← advance; declarationForm nested false
  | _ =>
    let value ← nested.whole
    expectSymbol .semicolon "';' after loop initializer"
    return .expression value

/-- The first clause of a `for` loop, if there is one. -/
def loopInitializer (nested : Nested) : Parse (Option Statement) := do
  if ← takeSymbol .semicolon then return none
  let start := (← peek).span
  let form ← initializerForm nested
  return some (.node (start.through (← previousSpan)) form)

/-- An expression, unless a given symbol comes first. -/
def unlessSymbol (nested : Nested) (symbol : Symbol) : Parse (Option Expr) := do
  if ← atSymbol symbol then return none
  return some (← nested.whole)

def forForm (nested : Nested) : Parse StatementForm := do
  expectSymbol .leftParen "'(' after 'for'"
  let init ← loopInitializer nested
  let test ← unlessSymbol nested .semicolon
  expectSymbol .semicolon "';' after loop condition"
  let update ← unlessSymbol nested .rightParen
  expectSymbol .rightParen "')' after for clauses"
  return .forLoop init test update (← nested.statement true)

def foreachForm (nested : Nested) : Parse StatementForm := do
  expectSymbol .leftParen "'(' after 'foreach'"
  let variableName ← takeName "loop variable name"
  expectKeyword .inWord "'in' after loop variable"
  let iterable ← nested.whole
  expectSymbol .rightParen "')' after foreach clause"
  return .foreach variableName iterable (← nested.statement true)

def deleteForm (nested : Nested) : Parse StatementForm := do
  let target ← requireReference (← nested.whole) "deleted"
  expectSymbol .semicolon "';' after delete"
  return .delete target

def returnForm (nested : Nested) : Parse StatementForm := do
  let value ← unlessSymbol nested .semicolon
  expectSymbol .semicolon "';' after return"
  return .returnValue value

/-- A jump out of a loop turn, whose keyword has been taken. -/
def jumpForm (inLoop : Bool) (token : Token) (form : StatementForm) : Parse StatementForm := do
  unless inLoop do failAt (token.kind.describe ++ " outside of a loop") token.span
  expectSymbol .semicolon "';'"
  return form

/-- A function declaration after its keyword. -/
def functionDeclaration (nested : Nested) (start : Span) : Parse StatementForm := do
  let name ← takeName "function name"
  let parameters ← functionParameters
  let body ← functionBlock nested
  return .declareFunction (.node (some name) parameters body (start.through (← previousSpan)))

/-- Whether a text could be written as a name: it is a word and no keyword. -/
def isIdentifier (name : String) : Bool :=
  match name.toList with
  | [] => false
  | first :: rest =>
    Scan.isNameStart first && rest.all Scan.isNamePart && (Keyword.ofText? name).isNone

/-- An import statement after its keyword.  Without an alias the name of the
library is the name of the variable. -/
def importForm : Parse StatementForm := do
  let token ← advance
  match token.kind with
  | .string library =>
    let binding ←
      if ← takeKeyword .asWord then takeName "import alias"
      else if isIdentifier library then pure library
      else
        failAt ("Library name \"" ++ library ++
          "\" is not a valid identifier; name it with 'as'") token.span
    expectSymbol .semicolon "';' after import"
    return .importLibrary library binding
  | other =>
    failAt ("Expected a library name string, found " ++ other.describe) token.span

/-- An application to another root, after its keyword. -/
def applyForm (nested : Nested) (inLoop : Bool) : Parse StatementForm := do
  let target ← condition nested
  return .apply target (← nested.statement inLoop)

def expressionForm (nested : Nested) : Parse StatementForm := do
  let value ← nested.whole
  expectSymbol .semicolon "';' after expression"
  return .expression value

def isName : TokenKind → Bool
  | .word _ | .variable _ => true
  | _ => false

def isString : TokenKind → Bool
  | .string _ => true
  | _ => false

/-- Read the form of a statement by its first token and the kind of the token after
it. -/
def statementFormBy (nested : Nested) (inLoop : Bool) (token : Token)
    (following : TokenKind) : Parse StatementForm :=
  match token.kind with
  | .symbol .leftBrace => StatementForm.block <$> block nested inLoop
  | .symbol .semicolon => do let _ ← advance; return .noOp
  | .symbol .atSign =>
    failAt "Metadata tags must come before the first statement" token.span
  | .symbol .rightBrace => failAt "Unexpected '\x7d'" token.span
  | .keyword .ifWord => do let _ ← advance; conditionalForm nested inLoop
  | .keyword .whileWord => do let _ ← advance; whileForm nested
  | .keyword .forWord => do let _ ← advance; forForm nested
  | .keyword .foreachWord => do let _ ← advance; foreachForm nested
  | .keyword .varWord => do let _ ← advance; declarationForm nested true
  | .keyword .valWord => do let _ ← advance; declarationForm nested false
  | .keyword .deleteWord => do let _ ← advance; deleteForm nested
  | .keyword .returnWord => do let _ ← advance; returnForm nested
  | .keyword .breakWord => do let _ ← advance; jumpForm inLoop token .breakLoop
  | .keyword .continueWord => do let _ ← advance; jumpForm inLoop token .continueLoop
  | .keyword .applyWord => do let _ ← advance; applyForm nested inLoop
  | .keyword .functionWord =>
    if isName following then do let _ ← advance; functionDeclaration nested token.span
    else expressionForm nested
  | .keyword .importWord =>
    if isString following then do let _ ← advance; importForm
    else expressionForm nested
  | _ => expressionForm nested

def statementForm (nested : Nested) (inLoop : Bool) : Parse StatementForm := do
  let cursor ← get
  statementFormBy nested inLoop cursor.current cursor.following.kind

/-- Read a statement whose parts are read by `nested`. -/
def statementWith (nested : Nested) (inLoop : Bool) : Parse Statement := do
  let start := (← peek).span
  let form ← statementForm nested inLoop
  return .node (start.through (← previousSpan)) form

mutual

/-- Read an expression nested at most to a given depth, with operators that bind
more tightly than a given rank. -/
def expression : Nat → Nat → Parse Expr
  | 0, _ => failTooDeep
  | depth + 1, floor =>
    climb { expression := expression depth, statement := statement depth } floor

/-- Read a statement nested at most to a given depth. -/
def statement : Nat → Bool → Parse Statement
  | 0, _ => failTooDeep
  | depth + 1, inLoop =>
    statementWith { expression := expression depth, statement := statement depth } inLoop

end

/-- The readers for syntax nested at most to a given depth. -/
def nestedTo (depth : Nat) : Nested :=
  { expression := expression depth, statement := statement depth }

end Grammar
end PatchScript
