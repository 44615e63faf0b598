import PatchScript.Grammar.Statement

/-!
# Writing expressions

An expression is written as a list of pieces, each of which asks for one token.
A piece fixes its token, except that a name can be spelled in several ways.

An operand is put in parentheses exactly when its own operator does not bind
tightly enough for the position it stands in.  Assignments and functions bind less
tightly than every operator, so they are parenthesised wherever they are operands.
Further operands can be parenthesised at will: `redundant` says which.
-/

namespace PatchScript

open Grammar

/-- What a written expression asks of one token. -/
inductive Piece where
  /-- This very token. -/
  | exactly (kind : TokenKind)
  /-- A token that names a property or a key. -/
  | property (name : String)
  /-- A token that declares a name. -/
  | declared (name : String)
  /-- A token that names a kind of value. -/
  | valueKind (kind : ValueKind)

namespace Piece

/-- Whether a token is what a piece asks for. -/
def Accepts : Piece → TokenKind → Prop
  | .exactly kind, found => found = kind
  | .property name, found =>
    found = .word name ∨ found = .string name ∨
      ∃ reserved : Keyword, found = .keyword reserved ∧ reserved.text = name
  | .declared name, found => found = .word name ∨ found = .variable name
  | .valueKind kind, found =>
    found = .word kind.name ∨
      ∃ reserved : Keyword, found = .keyword reserved ∧ reserved.text = kind.name

/-- The piece of a symbol. -/
def symbol (operator : Symbol) : Piece :=
  .exactly (.symbol operator)

/-- The piece of a keyword. -/
def keyword (reserved : Keyword) : Piece :=
  .exactly (.keyword reserved)

end Piece

namespace Printing

/-- The token of a literal. -/
def literalToken : Literal → TokenKind
  | .number value => .number value
  | .string value => .string value
  | .boolean true => .keyword .trueWord
  | .boolean false => .keyword .falseWord
  | .null => .keyword .nullWord

/-- The symbol of an operator before its operand. -/
def unarySymbol : UnaryOp → Symbol
  | .neg => .minus
  | .plus => .plus
  | .not => .bang
  | .bitNot => .tilde

/-- The token of an operator between two operands. -/
def binaryToken : BinaryOp → TokenKind
  | .add => .symbol .plus
  | .sub => .symbol .minus
  | .mul => .symbol .star
  | .div => .symbol .slash
  | .mod => .symbol .percent
  | .pow => .symbol .starStar
  | .eq => .symbol .equal
  | .notEq => .symbol .notEqual
  | .lt => .symbol .less
  | .ltEq => .symbol .lessEqual
  | .gt => .symbol .greater
  | .gtEq => .symbol .greaterEqual
  | .elemOf => .keyword .inWord
  | .bitAnd => .symbol .ampersand
  | .bitOr => .symbol .pipe
  | .bitXor => .symbol .caret
  | .shiftLeft => .symbol .shiftLeft
  | .shiftRight => .symbol .shiftRight

/-- The symbol of an operator that decides early. -/
def logicalSymbol : LogicalOp → Symbol
  | .and => .andAnd
  | .or => .orOr

/-- The symbol of an assignment.  Not every operator has a compound assignment. -/
def assignSymbol? : Option BinaryOp → Option Symbol
  | none => some .assign
  | some .add => some .plusAssign
  | some .sub => some .minusAssign
  | some .mul => some .starAssign
  | some .div => some .slashAssign
  | some .mod => some .percentAssign
  | some .bitAnd => some .andAssign
  | some .bitOr => some .orAssign
  | some .bitXor => some .xorAssign
  | some .shiftLeft => some .shiftLeftAssign
  | some .shiftRight => some .shiftRightAssign
  | some _ => none

/-- The symbol of a step up or down. -/
def updateSymbol : Bool → Symbol
  | true => .plusPlus
  | false => .minusMinus

/-- The piece of a parameter. -/
def parameterPiece : Parameter → Piece
  | .named name => .declared name
  | .root => .keyword .thisWord

/-- Pieces with a comma between any two groups. -/
def separated : List (List Piece) → List Piece
  | [] => []
  | [group] => group
  | group :: next :: rest => group ++ .symbol .comma :: separated (next :: rest)

/-- Pieces in parentheses, if asked for. -/
def enclosed (inParens : Bool) (pieces : List Piece) : List Piece :=
  if inParens then .symbol .leftParen :: (pieces ++ [.symbol .rightParen]) else pieces

/-- The nesting of something that is in parentheses, if asked for. -/
def enclosedNesting (inParens : Bool) (nesting : Nat) : Nat :=
  if inParens then nesting + 1 else nesting

theorem enclosedNesting_pos (inParens : Bool) {nesting : Nat} (positive : 0 < nesting) :
    0 < enclosedNesting inParens nesting := by
  cases inParens
  · exact positive
  · exact Nat.succ_pos nesting

end Printing

/-- How tightly an expression holds together. -/
def ExprForm.strength : ExprForm → Precedence
  | .assign _ _ _ | .function _ => .assignment
  | .logical .or _ _ => .logicalOr
  | .logical .and _ _ => .logicalAnd
  | .binary op _ _ => binaryPrecedence op
  | .hasKind _ _ => .comparison
  | .unary _ _ | .update _ _ true => .leading
  | _ => .trailing

/-- How tightly an expression holds together. -/
def Expr.strength (expr : Expr) : Precedence :=
  expr.form.strength

namespace Printing

/-- Whether something of a strength needs parentheses where operators of a strength
hold it from the right: before calls, access, steps and left-grouping operators,
and after leading operators. -/
def weakerThan (least : Precedence) (strength : Precedence) : Bool :=
  strength.rank < least.rank

/-- Whether something of a strength needs parentheses as the right operand of an
operator that groups to the left. -/
def notStrongerThan (bound : Precedence) (strength : Precedence) : Bool :=
  strength.rank ≤ bound.rank

/-- Whether the left operand of an operator needs parentheses.  The power groups to
the right, so its left operand has to bind more tightly than a power. -/
def leftNeedsParens : BinaryOp → Precedence → Bool
  | .pow => notStrongerThan .exponent
  | op => weakerThan (binaryPrecedence op)

/-- Whether the right operand of an operator needs parentheses.  That of a power
may be a power. -/
def rightNeedsParens : BinaryOp → Precedence → Bool
  | .pow => notStrongerThan .product
  | op => notStrongerThan (binaryPrecedence op)

/-- How tightly an operator that decides early binds. -/
def logicalPrecedence : LogicalOp → Precedence
  | .or => .logicalOr
  | .and => .logicalAnd

end Printing

open Printing

mutual

/-- The pieces of an expression, given which operands get parentheses they do not
need. -/
def Expr.pieces (redundant : Expr → Bool) : Expr → List Piece
  | .node _ form => form.pieces redundant

/-- The pieces of the form of an expression. -/
def ExprForm.pieces (redundant : Expr → Bool) : ExprForm → List Piece
  | .literal value => [.exactly (literalToken value)]
  | .reference target => target.pieces redundant
  | .root => [.keyword .thisWord]
  | .array items =>
    .symbol .leftBracket :: (separated (Expr.piecesList redundant items) ++ [.symbol .rightBracket])
  | .object entries =>
    .symbol .leftBrace ::
      (separated (Expr.piecesEntries redundant entries) ++ [.symbol .rightBrace])
  | .unary op operand =>
    .symbol (unarySymbol op) ::
      enclosed (weakerThan .leading operand.strength || redundant operand)
        (operand.pieces redundant)
  | .binary op left right =>
    enclosed (leftNeedsParens op left.strength || redundant left) (left.pieces redundant) ++
      .exactly (binaryToken op) ::
        enclosed (rightNeedsParens op right.strength || redundant right) (right.pieces redundant)
  | .logical op left right =>
    enclosed (weakerThan (logicalPrecedence op) left.strength || redundant left)
        (left.pieces redundant) ++
      .symbol (logicalSymbol op) ::
        enclosed (notStrongerThan (logicalPrecedence op) right.strength || redundant right)
          (right.pieces redundant)
  | .assign target op value =>
    target.pieces redundant ++
      .symbol ((assignSymbol? op).getD .assign) ::
        enclosed (redundant value) (value.pieces redundant)
  | .update target increment true => .symbol (updateSymbol increment) :: target.pieces redundant
  | .update target increment false => target.pieces redundant ++ [.symbol (updateSymbol increment)]
  | .call callee arguments =>
    enclosed (weakerThan .trailing callee.strength || redundant callee) (callee.pieces redundant) ++
      .symbol .leftParen ::
        (separated (Expr.piecesList redundant arguments) ++ [.symbol .rightParen])
  | .function definition => definition.pieces redundant
  | .hasKind value kind =>
    enclosed (weakerThan .comparison value.strength || redundant value) (value.pieces redundant) ++
      [.keyword .isWord, .valueKind kind]
  | .library name =>
    [.keyword .importWord, .symbol .leftParen, .exactly (.string name), .symbol .rightParen]

/-- The pieces of a reference. -/
def Reference.pieces (redundant : Expr → Bool) : Reference → List Piece
  | .node _ form => form.pieces redundant

/-- The pieces of the form of a reference. -/
def ReferenceForm.pieces (redundant : Expr → Bool) : ReferenceForm → List Piece
  | .variable name => [.exactly (.variable name)]
  | .bare name => [.exactly (.word name)]
  | .property target name =>
    enclosed (weakerThan .trailing target.strength || redundant target) (target.pieces redundant) ++
      [.symbol .dot, .property name]
  | .index target index =>
    enclosed (weakerThan .trailing target.strength || redundant target) (target.pieces redundant) ++
      .symbol .leftBracket :: (index.pieces redundant ++ [.symbol .rightBracket])

def Expr.piecesList (redundant : Expr → Bool) : List Expr → List (List Piece)
  | [] => []
  | expr :: rest => expr.pieces redundant :: Expr.piecesList redundant rest

def Expr.piecesEntry (redundant : Expr → Bool) : String × Expr → List Piece
  | (key, expr) => .property key :: .symbol .colon :: expr.pieces redundant

def Expr.piecesEntries (redundant : Expr → Bool) : List (String × Expr) → List (List Piece)
  | [] => []
  | entry :: rest => Expr.piecesEntry redundant entry :: Expr.piecesEntries redundant rest

/-- The pieces of a function literal. -/
def FunctionDef.pieces (redundant : Expr → Bool) : FunctionDef → List Piece
  | .node _ parameters body _ =>
    .keyword .functionWord :: .symbol .leftParen ::
      (separated (parameters.map fun parameter => [parameterPiece parameter]) ++
        .symbol .rightParen :: .symbol .arrow :: body.pieces redundant)

/-- The pieces of the body of a function literal.  Only expressions are written. -/
def FunctionBody.pieces (redundant : Expr → Bool) : FunctionBody → List Piece
  | .block _ => []
  | .expression value => value.pieces redundant

end

mutual

/-- How deep reading the pieces of an expression nests.  The left operand of an
operator is read on the level of the operator, unless it is in parentheses; every
other part is one level deeper. -/
def Expr.nesting (redundant : Expr → Bool) : Expr → Nat
  | .node _ form => form.nesting redundant

/-- How deep reading the pieces of the form of an expression nests. -/
def ExprForm.nesting (redundant : Expr → Bool) : ExprForm → Nat
  | .literal _ | .root | .library _ => 1
  | .reference target => target.nesting redundant
  | .array items => Expr.nestingList redundant items + 1
  | .object entries => Expr.nestingEntries redundant entries + 1
  | .unary _ operand =>
    enclosedNesting (weakerThan .leading operand.strength || redundant operand)
      (operand.nesting redundant) + 1
  | .binary op left right =>
    max
      (enclosedNesting (leftNeedsParens op left.strength || redundant left)
        (left.nesting redundant))
      (enclosedNesting (rightNeedsParens op right.strength || redundant right)
        (right.nesting redundant) + 1)
  | .logical op left right =>
    max
      (enclosedNesting (weakerThan (logicalPrecedence op) left.strength || redundant left)
        (left.nesting redundant))
      (enclosedNesting
        (notStrongerThan (logicalPrecedence op) right.strength || redundant right)
        (right.nesting redundant) + 1)
  | .assign target _ value =>
    max (target.nesting redundant) (enclosedNesting (redundant value) (value.nesting redundant) + 1)
  | .update target _ true => target.nesting redundant + 1
  | .update target _ false => target.nesting redundant
  | .call callee arguments =>
    max
      (enclosedNesting (weakerThan .trailing callee.strength || redundant callee)
        (callee.nesting redundant))
      (Expr.nestingList redundant arguments + 1)
  | .function definition => definition.nesting redundant
  | .hasKind value _ =>
    enclosedNesting (weakerThan .comparison value.strength || redundant value)
      (value.nesting redundant)

/-- How deep reading the pieces of a reference nests. -/
def Reference.nesting (redundant : Expr → Bool) : Reference → Nat
  | .node _ form => form.nesting redundant

/-- How deep reading the pieces of the form of a reference nests. -/
def ReferenceForm.nesting (redundant : Expr → Bool) : ReferenceForm → Nat
  | .variable _ | .bare _ => 1
  | .property target _ =>
    enclosedNesting (weakerThan .trailing target.strength || redundant target)
      (target.nesting redundant)
  | .index target index =>
    max
      (enclosedNesting (weakerThan .trailing target.strength || redundant target)
        (target.nesting redundant))
      (index.nesting redundant + 1)

def Expr.nestingList (redundant : Expr → Bool) : List Expr → Nat
  | [] => 0
  | expr :: rest => max (expr.nesting redundant) (Expr.nestingList redundant rest)

def Expr.nestingEntry (redundant : Expr → Bool) : String × Expr → Nat
  | (_, expr) => expr.nesting redundant

def Expr.nestingEntries (redundant : Expr → Bool) : List (String × Expr) → Nat
  | [] => 0
  | entry :: rest => max (Expr.nestingEntry redundant entry) (Expr.nestingEntries redundant rest)

/-- How deep reading the pieces of a function literal nests. -/
def FunctionDef.nesting (redundant : Expr → Bool) : FunctionDef → Nat
  | .node _ _ body _ => body.nesting redundant + 1

/-- How deep reading the pieces of the body of a function literal nests. -/
def FunctionBody.nesting (redundant : Expr → Bool) : FunctionBody → Nat
  | .block _ => 0
  | .expression value => value.nesting redundant

end

mutual

/-- Whether an expression can be written: the keys of objects and the parameters of
functions are distinct, functions are anonymous and compute an expression, and
compound assignments have a symbol. -/
def Expr.Printable : Expr → Prop
  | .node _ form => form.Printable

/-- Whether the form of an expression can be written. -/
def ExprForm.Printable : ExprForm → Prop
  | .literal _ | .root | .library _ => True
  | .reference target => target.Printable
  | .array items => Expr.PrintableList items
  | .object entries => (Entries.keys entries).Nodup ∧ Expr.PrintableEntries entries
  | .unary _ operand => operand.Printable
  | .binary _ left right => left.Printable ∧ right.Printable
  | .logical _ left right => left.Printable ∧ right.Printable
  | .assign target op value => target.Printable ∧ (assignSymbol? op).isSome ∧ value.Printable
  | .update target _ _ => target.Printable
  | .call callee arguments => callee.Printable ∧ Expr.PrintableList arguments
  | .function definition => definition.Printable
  | .hasKind value _ => value.Printable

/-- Whether a reference can be written. -/
def Reference.Printable : Reference → Prop
  | .node _ form => form.Printable

/-- Whether the form of a reference can be written. -/
def ReferenceForm.Printable : ReferenceForm → Prop
  | .variable _ | .bare _ => True
  | .property target _ => target.Printable
  | .index target index => target.Printable ∧ index.Printable

def Expr.PrintableList : List Expr → Prop
  | [] => True
  | expr :: rest => expr.Printable ∧ Expr.PrintableList rest

def Expr.PrintableEntry : String × Expr → Prop
  | (_, expr) => expr.Printable

def Expr.PrintableEntries : List (String × Expr) → Prop
  | [] => True
  | entry :: rest => Expr.PrintableEntry entry ∧ Expr.PrintableEntries rest

/-- Whether a function literal can be written. -/
def FunctionDef.Printable : FunctionDef → Prop
  | .node name parameters body _ => name = none ∧ parameters.Nodup ∧ body.Printable

/-- Whether the body of a function literal can be written. -/
def FunctionBody.Printable : FunctionBody → Prop
  | .block _ => False
  | .expression value => value.Printable

end

namespace Expr

variable (redundant : Expr → Bool)

theorem piecesList_eq_map (exprs : List Expr) :
    piecesList redundant exprs = exprs.map (pieces redundant) := by
  induction exprs with
  | nil => rfl
  | cons expr rest ih => simp [piecesList, ih]

theorem piecesEntries_eq_map (entries : List (String × Expr)) :
    piecesEntries redundant entries = entries.map (piecesEntry redundant) := by
  induction entries with
  | nil => rfl
  | cons entry rest ih => simp [piecesEntries, ih]

variable {redundant}

theorem nesting_le_nestingList {expr : Expr} {exprs : List Expr} (member : expr ∈ exprs) :
    expr.nesting redundant ≤ nestingList redundant exprs := by
  induction member with
  | head rest => exact Nat.le_max_left _ _
  | tail other _ ih => exact Nat.le_trans ih (Nat.le_max_right _ _)

theorem nesting_le_nestingEntries {entry : String × Expr} {entries : List (String × Expr)}
    (member : entry ∈ entries) : entry.2.nesting redundant ≤ nestingEntries redundant entries := by
  obtain ⟨key, expr⟩ := entry
  induction member with
  | head rest => exact Nat.le_max_left _ _
  | tail other _ ih => exact Nat.le_trans ih (Nat.le_max_right _ _)

end Expr

variable (redundant : Expr → Bool)

mutual

/-- Reading an expression takes at least one level. -/
theorem Expr.nesting_pos : ∀ expr : Expr, 0 < expr.nesting redundant
  | .node _ form => form.nesting_pos

theorem ExprForm.nesting_pos : ∀ form : ExprForm, 0 < form.nesting redundant
  | .literal _ | .root | .library _ => Nat.one_pos
  | .reference target => target.nesting_pos
  | .array _ | .object _ | .unary _ _ => Nat.succ_pos _
  | .binary _ _ _ | .logical _ _ _ | .assign _ _ _ | .call _ _ =>
    Nat.lt_of_lt_of_le (Nat.succ_pos _) (Nat.le_max_right _ _)
  | .update _ _ true => Nat.succ_pos _
  | .update target _ false => target.nesting_pos
  | .function (.node _ _ _ _) => Nat.succ_pos _
  | .hasKind value _ => Printing.enclosedNesting_pos _ (value.nesting_pos)

theorem Reference.nesting_pos : ∀ reference : Reference, 0 < reference.nesting redundant
  | .node _ form => form.nesting_pos

theorem ReferenceForm.nesting_pos : ∀ form : ReferenceForm, 0 < form.nesting redundant
  | .variable _ | .bare _ => Nat.one_pos
  | .property target _ => Printing.enclosedNesting_pos _ (target.nesting_pos)
  | .index _ _ => Nat.lt_of_lt_of_le (Nat.succ_pos _) (Nat.le_max_right _ _)

end

end PatchScript
