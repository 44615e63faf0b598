import PatchScript.Decimal.Layout

/-!
# Positions and spans

A position counts lines and columns from one, with tabs expanded.  It is
determined by the text before it: `Position.after` folds `Position.advance` over
that text.  A span is a range of one file; spans locate tokens, syntax and
diagnostics and mean nothing else.
-/

namespace PatchScript

/-- A place in a source text. -/
structure Position where
  /-- Line number, from one. -/
  line : Nat
  /-- Column number, from one, with tabs expanded. -/
  column : Nat
deriving DecidableEq, Inhabited

namespace Position

def start : Position :=
  { line := 1, column := 1 }

/-- A tab moves to the column after the next multiple of this width. -/
def tabWidth : Nat := 4

def advance (position : Position) (c : Char) : Position :=
  if c = '\n' then
    { line := position.line + 1, column := 1 }
  else if c = '\t' then
    { position with
      column := position.column + (tabWidth - (position.column - 1) % tabWidth) }
  else
    { position with column := position.column + 1 }

def after (position : Position) (text : List Char) : Position :=
  text.foldl advance position

@[simp] theorem after_nil (position : Position) :
    position.after [] = position :=
  rfl

@[simp] theorem after_cons (position : Position) (c : Char) (text : List Char) :
    position.after (c :: text) = (position.advance c).after text :=
  rfl

theorem after_append (position : Position) (left right : List Char) :
    position.after (left ++ right) = (position.after left).after right :=
  List.foldl_append

/-- `file:line:column`. -/
def text (position : Position) (file : String) : String :=
  file ++ ":" ++ Decimal.naturalText position.line ++ ":" ++
    Decimal.naturalText position.column

end Position

/-- A range of one source file. -/
structure Span where
  file : String
  start : Position
  /-- The position just after the range. -/
  stop : Position
deriving DecidableEq, Inhabited

namespace Span

/-- From the start of one span to the end of another. -/
def through (first last : Span) : Span :=
  { first with stop := last.stop }

/-- `file:line:column-column`, or `file:line:column-line:column` if the range
spans several lines. -/
def text (span : Span) : String :=
  let column := Decimal.naturalText span.stop.column
  span.start.text span.file ++ "-" ++
    if span.start.line = span.stop.line then column
    else Decimal.naturalText span.stop.line ++ ":" ++ column

end Span
end PatchScript
