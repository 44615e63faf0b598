import PatchScript.Syntax
import PatchScript.Token

/-!
# Operators and how tightly they bind
-/

namespace PatchScript
namespace Grammar

/-- Binding strengths, weakest first. -/
inductive Precedence where
  | lowest
  | assignment
  | logicalOr
  | logicalAnd
  | bitOr
  | bitXor
  | bitAnd
  | equality
  | comparison
  | shift
  | sum
  | product
  | exponent
  /-- Operators before their operand. -/
  | leading
  /-- Operators after their operand: calls, access and steps. -/
  | trailing
deriving DecidableEq

/-- The place of a strength in their order. -/
def Precedence.rank : Precedence → Nat
  | .lowest => 0
  | .assignment => 1
  | .logicalOr => 2
  | .logicalAnd => 3
  | .bitOr => 4
  | .bitXor => 5
  | .bitAnd => 6
  | .equality => 7
  | .comparison => 8
  | .shift => 9
  | .sum => 10
  | .product => 11
  | .exponent => 12
  | .leading => 13
  | .trailing => 14

/-- How a symbol continues an expression. -/
inductive Continuation where
  /-- Assignment, with the operator of a compound one. -/
  | assign (op : Option BinaryOp)
  | logical (op : LogicalOp)
  | binary (op : BinaryOp)
  /-- A test for a kind of value. -/
  | kindTest
  | call
  | index
  | property
  /-- A step up or down. -/
  | update (increment : Bool)

/-- What a token does after an expression. -/
def continuation? : TokenKind → Option Continuation
  | .symbol .assign => some (.assign none)
  | .symbol .plusAssign => some (.assign (some .add))
  | .symbol .minusAssign => some (.assign (some .sub))
  | .symbol .starAssign => some (.assign (some .mul))
  | .symbol .slashAssign => some (.assign (some .div))
  | .symbol .percentAssign => some (.assign (some .mod))
  | .symbol .andAssign => some (.assign (some .bitAnd))
  | .symbol .orAssign => some (.assign (some .bitOr))
  | .symbol .xorAssign => some (.assign (some .bitXor))
  | .symbol .shiftLeftAssign => some (.assign (some .shiftLeft))
  | .symbol .shiftRightAssign => some (.assign (some .shiftRight))
  | .symbol .orOr => some (.logical .or)
  | .symbol .andAnd => some (.logical .and)
  | .symbol .pipe => some (.binary .bitOr)
  | .symbol .caret => some (.binary .bitXor)
  | .symbol .ampersand => some (.binary .bitAnd)
  | .symbol .equal => some (.binary .eq)
  | .symbol .notEqual => some (.binary .notEq)
  | .symbol .less => some (.binary .lt)
  | .symbol .lessEqual => some (.binary .ltEq)
  | .symbol .greater => some (.binary .gt)
  | .symbol .greaterEqual => some (.binary .gtEq)
  | .keyword .inWord => some (.binary .elemOf)
  | .keyword .isWord => some .kindTest
  | .symbol .shiftLeft => some (.binary .shiftLeft)
  | .symbol .shiftRight => some (.binary .shiftRight)
  | .symbol .plus => some (.binary .add)
  | .symbol .minus => some (.binary .sub)
  | .symbol .star => some (.binary .mul)
  | .symbol .slash => some (.binary .div)
  | .symbol .percent => some (.binary .mod)
  | .symbol .starStar => some (.binary .pow)
  | .symbol .leftParen => some .call
  | .symbol .leftBracket => some .index
  | .symbol .dot => some .property
  | .symbol .plusPlus => some (.update true)
  | .symbol .minusMinus => some (.update false)
  | _ => none

/-- How tightly a binary operator binds. -/
def binaryPrecedence : BinaryOp → Precedence
  | .bitOr => .bitOr
  | .bitXor => .bitXor
  | .bitAnd => .bitAnd
  | .eq | .notEq => .equality
  | .lt | .ltEq | .gt | .gtEq | .elemOf => .comparison
  | .shiftLeft | .shiftRight => .shift
  | .add | .sub => .sum
  | .mul | .div | .mod => .product
  | .pow => .exponent

namespace Continuation

/-- How tightly a continuation binds. -/
def precedence : Continuation → Precedence
  | .assign _ => .assignment
  | .logical .or => .logicalOr
  | .logical .and => .logicalAnd
  | .binary op => binaryPrecedence op
  | .kindTest => .comparison
  | .call | .index | .property | .update _ => .trailing

end Continuation

/-- The strength that the right operand of a binary operator has to exceed.  All
operators group to the left but the power, which groups to the right. -/
def rightOperandFloor : BinaryOp → Precedence
  | .pow => .product
  | op => binaryPrecedence op

/-- How tightly a token binds after an expression. -/
def precedence? (kind : TokenKind) : Option Precedence :=
  (continuation? kind).map Continuation.precedence

end Grammar
end PatchScript
