import PatchScript.Json
import PatchScript.Source

/-!
# Syntax trees

Programs, statements and expressions.  A node is a form and the span it was read
from; the span serves diagnostics alone.
-/

namespace PatchScript

/-- A value written in the source. -/
inductive Literal where
  | number (value : Float)
  | string (value : String)
  | boolean (value : Bool)
  | null

/-- Operators on two values that are both evaluated. -/
inductive BinaryOp where
  | add | sub | mul | div | mod | pow
  | eq | notEq | lt | ltEq | gt | gtEq | elemOf
  | bitAnd | bitOr | bitXor | shiftLeft | shiftRight
deriving DecidableEq

/-- How an operator is written. -/
def BinaryOp.text : BinaryOp → String
  | .add => "+"
  | .sub => "-"
  | .mul => "*"
  | .div => "/"
  | .mod => "%"
  | .pow => "**"
  | .eq => "=="
  | .notEq => "!="
  | .lt => "<"
  | .ltEq => "<="
  | .gt => ">"
  | .gtEq => ">="
  | .elemOf => "in"
  | .bitAnd => "&"
  | .bitOr => "|"
  | .bitXor => "^"
  | .shiftLeft => "<<"
  | .shiftRight => ">>"

/-- Operators on one value. -/
inductive UnaryOp where
  | neg | plus | not | bitNot
deriving DecidableEq

/-- Operators that evaluate their right operand only if it decides. -/
inductive LogicalOp where
  | and | or
deriving DecidableEq

/-- The kinds of values a script can tell apart. -/
inductive ValueKind where
  | object | array | string | number | boolean | null | function
deriving DecidableEq

namespace ValueKind

def all : List ValueKind :=
  [.object, .array, .string, .number, .boolean, .null, .function]

def name : ValueKind → String
  | .object => "object"
  | .array => "array"
  | .string => "string"
  | .number => "number"
  | .boolean => "boolean"
  | .null => "null"
  | .function => "function"

def ofName? (text : String) : Option ValueKind :=
  all.find? fun kind => kind.name == text

end ValueKind

/-- A parameter of a function. -/
inductive Parameter where
  /-- Bound to a variable of this name. -/
  | named (name : String)
  /-- The argument becomes the root object of the body. -/
  | root
deriving DecidableEq

mutual

/-- An expression and where it stands. -/
inductive Expr where
  | node (span : Span) (form : ExprForm)

/-- What an expression computes. -/
inductive ExprForm where
  | literal (value : Literal)
  /-- The value that a reference denotes. -/
  | reference (target : Reference)
  /-- The root object itself. -/
  | root
  | array (items : List Expr)
  | object (entries : List (String × Expr))
  | unary (op : UnaryOp) (operand : Expr)
  | binary (op : BinaryOp) (left right : Expr)
  | logical (op : LogicalOp) (left right : Expr)
  /-- Assignment; with an operator, of its result on the old and the new value. -/
  | assign (target : Reference) (op : Option BinaryOp) (value : Expr)
  /-- A step up or down by one, with the new or the old number as its value. -/
  | update (target : Reference) (increment yieldsNew : Bool)
  | call (callee : Expr) (arguments : List Expr)
  | function (definition : FunctionDef)
  | hasKind (value : Expr) (kind : ValueKind)
  | library (name : String)

/-- Something that can be read, written and deleted, and where it stands. -/
inductive Reference where
  | node (span : Span) (form : ReferenceForm)

/-- What a reference denotes. -/
inductive ReferenceForm where
  | variable (name : String)
  /-- A bare name: a property of the root object, or else a variable. -/
  | bare (name : String)
  | property (target : Expr) (name : String)
  | index (target index : Expr)

/-- A statement and where it stands. -/
inductive Statement where
  | node (span : Span) (form : StatementForm)

/-- What a statement does. -/
inductive StatementForm where
  | block (body : List Statement)
  | expression (value : Expr)
  | conditional (condition : Expr) (thenBranch : Statement) (elseBranch : Option Statement)
  | whileLoop (condition : Expr) (body : Statement)
  | forLoop (init : Option Statement) (condition update : Option Expr) (body : Statement)
  | foreach (variableName : String) (iterable : Expr) (body : Statement)
  | declare (name : String) (isMutable : Bool) (value : Expr)
  | delete (target : Reference)
  | returnValue (value : Option Expr)
  | breakLoop
  | continueLoop
  | declareFunction (definition : FunctionDef)
  | importLibrary (library binding : String)
  /-- Run a statement with another root object. -/
  | apply (target : Expr) (action : Statement)
  /-- A statement that could not be read. -/
  | unparsed (message : String)
  | noOp

/-- A function as written. -/
inductive FunctionDef where
  | node (name : Option String) (parameters : List Parameter) (body : FunctionBody)
      (span : Span)

/-- The body of a function. -/
inductive FunctionBody where
  | block (body : List Statement)
  | expression (value : Expr)

end

namespace Expr

def span : Expr → Span
  | .node span _ => span

def form : Expr → ExprForm
  | .node _ form => form

/-- The reference that an expression is, if it is one. -/
def reference? (expr : Expr) : Option Reference :=
  match expr.form with
  | .reference target => some target
  | _ => none

end Expr

namespace Reference

def span : Reference → Span
  | .node span _ => span

def form : Reference → ReferenceForm
  | .node _ form => form

end Reference

namespace Statement

def span : Statement → Span
  | .node span _ => span

def form : Statement → StatementForm
  | .node _ form => form

end Statement

namespace FunctionDef

def name : FunctionDef → Option String
  | .node name _ _ _ => name

def parameters : FunctionDef → List Parameter
  | .node _ parameters _ _ => parameters

def body : FunctionDef → FunctionBody
  | .node _ _ body _ => body

def span : FunctionDef → Span
  | .node _ _ _ span => span

end FunctionDef

/-- A program: its header tags and its statements. -/
structure Program where
  /-- The values of the header tags, in source order. -/
  metadata : OrderedMap Json
  statements : List Statement

namespace Program

def tag? (program : Program) (key : String) : Option Json :=
  program.metadata.get? key

def version? (program : Program) : Option Float :=
  match program.tag? "version" with
  | some (.number value) => some value.toFloat
  | _ => none

/-- The declared target, uninterpreted. -/
def target? (program : Program) : Option Json :=
  program.tag? "target"

end Program
end PatchScript
