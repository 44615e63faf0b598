import PatchScript.Grammar.Precedence
import PatchScript.Grammar.Recovery

/-!
# Reading expressions

An expression is one term and the operators after it, as long as they bind more
tightly than the context asks for.
-/

namespace PatchScript
namespace Grammar

/-- Read a nested expression in full. -/
def Nested.whole (nested : Nested) : Parse Expr :=
  nested.expression Precedence.lowest.rank

/-- The name that a token can give to a property: a word, a text or a keyword. -/
def propertyName? : TokenKind → Option String
  | .word name => some name
  | .string name => some name
  | .keyword reserved => some reserved.text
  | _ => none

def takePropertyName : Parse String := do
  let token ← advance
  match propertyName? token.kind with
  | some name => return name
  | none =>
    failAt ("Expected a property name after '.', found " ++ token.kind.describe) token.span

/-- The reference that an expression has to be. -/
def requireReference (expr : Expr) (action : String) : Parse Reference :=
  match expr.reference? with
  | some target => return target
  | none => failAt ("Only variables, properties and indices can be " ++ action) expr.span

/-- One argument of a call, given those before it. -/
def argument (nested : Nested) (found : List Expr) : Parse (Turn (List Expr) (List Expr)) := do
  let found := found ++ [← nested.whole]
  if ← takeSymbol .comma then return .again found
  return .done found

/-- The arguments of a call after the opening parenthesis. -/
def callArguments (nested : Nested) : Parse (List Expr) := do
  let found ← if ← atSymbol .rightParen then pure [] else loop (argument nested) []
  expectSymbol .rightParen "')' after arguments"
  return found

/-- One item of an array, given those before it. -/
def arrayItem (nested : Nested) (items : List Expr) : Parse (Turn (List Expr) (List Expr)) := do
  if ← atSymbol .rightBracket then return .done items
  let items := items ++ [← nested.whole]
  if ← takeSymbol .comma then return .again items
  return .done items

/-- The items of an array after the opening bracket. -/
def arrayForm (nested : Nested) : Parse ExprForm := do
  let items ← loop (arrayItem nested) []
  expectSymbol .rightBracket "',' or ']' in array"
  return .array items

/-- One entry of an object, given those before it. -/
def objectEntry (nested : Nested) (entries : List (String × Expr)) :
    Parse (Turn (List (String × Expr)) (List (String × Expr))) := do
  if ← atSymbol .rightBrace then return .done entries
  let token ← advance
  match propertyName? token.kind with
  | none => failAt ("Expected an object key, found " ++ token.kind.describe) token.span
  | some key =>
    if (entries.lookup key).isSome then
      failAt ("Duplicate object key '" ++ key ++ "'") token.span
    expectSymbol .colon "':' after object key"
    let entries := entries ++ [(key, ← nested.whole)]
    if ← takeSymbol .comma then return .again entries
    return .done entries

/-- The entries of an object after the opening brace. -/
def objectForm (nested : Nested) : Parse ExprForm := do
  let entries ← loop (objectEntry nested) []
  expectSymbol .rightBrace "',' or '\x7d' in object"
  return .object entries

/-- One parameter of a function, given those before it. -/
def parameter (found : List Parameter) : Parse (Turn (List Parameter) (List Parameter)) := do
  let span := (← peek).span
  let next ←
    if ← takeKeyword .thisWord then pure Parameter.root
    else Parameter.named <$> takeName "parameter name"
  if next ∈ found then
    let shown := match next with
      | .named name => name
      | .root => "this"
    failAt ("Duplicate parameter '" ++ shown ++ "'") span
  let found := found ++ [next]
  if ← takeSymbol .comma then return .again found
  return .done found

/-- The parameters of a function with their parentheses. -/
def functionParameters : Parse (List Parameter) := do
  expectSymbol .leftParen "'(' before parameters"
  let found ← if ← atSymbol .rightParen then pure [] else loop parameter []
  expectSymbol .rightParen "')' after parameters"
  return found

/-- The body of a function in braces.  It starts outside of any loop. -/
def functionBlock (nested : Nested) : Parse FunctionBody :=
  FunctionBody.block <$> block nested false

/-- A function literal after its keyword. -/
def functionForm (nested : Nested) (start : Span) : Parse ExprForm := do
  let parameters ← functionParameters
  let body ←
    if ← takeSymbol .arrow then FunctionBody.expression <$> nested.whole
    else functionBlock nested
  return .function (.node none parameters body (start.through (← previousSpan)))

/-- The library named in an import expression, after its keyword. -/
def libraryForm : Parse ExprForm := do
  expectSymbol .leftParen "'(' after 'import'"
  let token ← advance
  match token.kind with
  | .string name =>
    expectSymbol .rightParen "')' after library name"
    return .library name
  | other =>
    failAt ("Expected a library name string, found " ++ other.describe) token.span

/-- The operator that a symbol denotes before an operand. -/
def unaryOp? : Symbol → Option UnaryOp
  | .minus => some .neg
  | .plus => some .plus
  | .bang => some .not
  | .tilde => some .bitNot
  | _ => none

/-- A step up or down before its operand. -/
def leadingUpdate (nested : Nested) (increment : Bool) : Parse ExprForm := do
  let operand ← nested.expression Precedence.leading.rank
  let target ← requireReference operand "incremented or decremented"
  return .update target increment true

/-- A term that starts with a symbol, which has been taken. -/
def symbolTerm (nested : Nested) (token : Token) (symbol : Symbol) : Parse ExprForm := do
  match symbol with
  | .leftParen =>
    let inner ← nested.whole
    expectSymbol .rightParen "')' to close parenthesis"
    return inner.form
  | .leftBracket => arrayForm nested
  | .leftBrace => objectForm nested
  | .plusPlus => leadingUpdate nested true
  | .minusMinus => leadingUpdate nested false
  | other =>
    match unaryOp? other with
    | some op => return .unary op (← nested.expression Precedence.leading.rank)
    | none => failAt ("Expected an expression, found " ++ token.kind.describe) token.span

/-- Whether a token can start a term. -/
def startsTerm : TokenKind → Bool
  | .number _ | .string _ | .word _ | .variable _ => true
  | .keyword keyword =>
    keyword ∈ [.trueWord, .falseWord, .nullWord, .thisWord, .functionWord, .importWord]
  | .symbol symbol =>
    symbol ∈ [.leftParen, .leftBracket, .leftBrace, .plusPlus, .minusMinus] ||
      (unaryOp? symbol).isSome
  | .endOfFile => false

/-- The form of a term whose first token has been taken. -/
def termForm (nested : Nested) (token : Token) : Parse ExprForm :=
  match token.kind with
  | .number value => return .literal (.number value)
  | .string value => return .literal (.string value)
  | .word name => return .reference (.node token.span (.bare name))
  | .variable name => return .reference (.node token.span (.variable name))
  | .keyword .trueWord => return .literal (.boolean true)
  | .keyword .falseWord => return .literal (.boolean false)
  | .keyword .nullWord => return .literal .null
  | .keyword .thisWord => return .root
  | .keyword .functionWord => functionForm nested token.span
  | .keyword .importWord => libraryForm
  | .symbol symbol => symbolTerm nested token symbol
  | other => failAt ("Expected an expression, found " ++ other.describe) token.span

/-- Read one term.  A token that starts none is left in place. -/
def term (nested : Nested) : Parse Expr := do
  let token ← peek
  unless startsTerm token.kind do
    failHere ("Expected an expression, found " ++ token.kind.describe)
  let _ ← advance
  let form ← termForm nested token
  return .node (token.span.through (← previousSpan)) form

/-- The kind of value named after `is`. -/
def kindTestForm (value : Expr) : Parse ExprForm := do
  let token ← advance
  let name := match token.kind with
    | .word name => name
    | other => other.fixedText?.getD ""
  match ValueKind.ofName? name with
  | some kind => return .hasKind value kind
  | none =>
    failAt ("Unknown type '" ++ token.kind.describe ++
      "' (expected object, array, string, number, boolean, null or function)") token.span

/-- Continue an expression by an operator that has been taken. -/
def continueForm (nested : Nested) (left : Expr)
    (continuation : Continuation) : Parse ExprForm := do
  match continuation with
  | .assign op =>
    let target ← requireReference left "assigned to"
    return .assign target op (← nested.whole)
  | .logical op =>
    return .logical op left (← nested.expression continuation.precedence.rank)
  | .binary op =>
    return .binary op left (← nested.expression (rightOperandFloor op).rank)
  | .kindTest => kindTestForm left
  | .call => return .call left (← callArguments nested)
  | .index =>
    let index ← nested.whole
    expectSymbol .rightBracket "']' after index"
    return .reference (.node (left.span.through (← previousSpan)) (.index left index))
  | .property =>
    let name ← takePropertyName
    return .reference (.node (left.span.through (← previousSpan)) (.property left name))
  | .update increment =>
    let target ← requireReference left "incremented or decremented"
    return .update target increment false

/-- Continue an expression if the next operator binds more tightly than asked. -/
def continueOnce (nested : Nested) (floor : Nat) (left : Expr) : Parse (Turn Expr Expr) := do
  match continuation? (← peek).kind with
  | none => return .done left
  | some continuation =>
    if continuation.precedence.rank ≤ floor then return .done left
    let _ ← advance
    let form ← continueForm nested left continuation
    return .again (.node (left.span.through (← previousSpan)) form)

/-- Read a term and the operators after it that bind more tightly than asked. -/
def climb (nested : Nested) (floor : Nat) : Parse Expr := do
  let first ← term nested
  loop (continueOnce nested floor) first

end Grammar
end PatchScript
