import Mathlib.Data.List.Pairwise
import PatchScript.Proofs.Source.Positions
import PatchScript.Syntax

/-!
# Outlines

The outline of a piece of syntax keeps the places of its nodes: one for every statement,
expression, reference and function, with those inside of it in source order.  An outline is
laid out well if nodes are not empty, stand inside of the node around them, and follow each
other.
-/

namespace PatchScript

/-- The place of a node, and the outlines of the nodes inside of it in source order. -/
inductive Outline where
  | node (span : Span) (parts : List Outline)

namespace Outline

/-- Where a node stands. -/
def span : Outline → Span
  | .node span _ => span

/-- The nodes inside of a node. -/
def parts : Outline → List Outline
  | .node _ parts => parts

end Outline

/-- A span stands inside of another one. -/
structure Span.Within (inner outer : Span) : Prop where
  file : inner.file = outer.file
  start : outer.start ≤ inner.start
  stop : inner.stop ≤ outer.stop

namespace Outline

/-- A node is not empty, and so down to its innermost parts.  The parts of a node stand inside of
it, and do not overlap but follow each other. -/
inductive Laid : Outline → Prop
  | node {span : Span} {parts : List Outline} :
    span.start < span.stop →
    (∀ part ∈ parts, part.Laid) →
    (∀ part ∈ parts, part.span.Within span) →
    (parts.Pairwise fun earlier later => earlier.span.stop ≤ later.span.start) →
    Laid (.node span parts)

theorem Laid.start_lt {outline : Outline} (laid : outline.Laid) :
    outline.span.start < outline.span.stop := by
  cases laid with
  | node nonempty => exact nonempty

/-- Nodes of a file are laid out well and follow each other between two positions. -/
structure Fits (file : String) (start : Position) (outlines : List Outline)
    (stop : Position) : Prop where
  laid : ∀ outline ∈ outlines, outline.Laid
  within : ∀ outline ∈ outlines, outline.span.Within { file, start, stop }
  ordered : outlines.Pairwise fun earlier later => earlier.span.stop ≤ later.span.start

namespace Fits

variable {file : String} {start stop : Position} {outlines : List Outline}

theorem nil : Fits file start [] stop := ⟨nofun, nofun, .nil⟩

section

variable (fits : Fits file start outlines stop)
include fits

theorem mono {later : Position} (le : stop ≤ later) : Fits file start outlines later where
  laid := fits.laid
  within outline member :=
    let inside := fits.within outline member
    ⟨inside.file, inside.start, inside.stop.trans le⟩
  ordered := fits.ordered

/-- Nodes that fit make up the parts of a node. -/
theorem node (nonempty : start < stop) : (Outline.node { file, start, stop } outlines).Laid :=
  .node nonempty fits.laid fits.within fits.ordered

/-- One more node fits behind the others. -/
theorem concat {last : Outline} (laid : last.Laid) {later : Position}
    (inside : last.span.Within { file, start, stop := later }) (behind : stop ≤ last.span.start) :
    Fits file start (outlines ++ [last]) later := by
  have le : stop ≤ later := (behind.trans laid.start_lt.le).trans inside.stop
  constructor
  · exact List.forall_mem_append.mpr ⟨fits.laid, List.forall_mem_singleton.mpr laid⟩
  · exact List.forall_mem_append.mpr ⟨(fits.mono le).within, List.forall_mem_singleton.mpr inside⟩
  · rw [List.pairwise_append]
    refine ⟨fits.ordered, List.pairwise_singleton _ _, fun earlier member later isLast => ?_⟩
    rw [List.mem_singleton.mp isLast]
    exact (fits.within earlier member).stop.trans behind

end

section Last

variable {last : Outline} (fits : Fits file start (outlines ++ [last]) stop)

include fits

theorem laid_last : last.Laid := fits.laid last (List.mem_append_right _ List.mem_cons_self)

theorem within_last : last.span.Within { file, start, stop } :=
  fits.within last (List.mem_append_right _ List.mem_cons_self)

/-- The nodes before the last one end where that starts. -/
theorem before_last : Fits file start outlines last.span.start := by
  have ordered := List.pairwise_append.mp fits.ordered
  constructor
  · intro outline member
    exact fits.laid outline (List.mem_append_left _ member)
  · intro outline member
    have inside := fits.within outline (List.mem_append_left _ member)
    exact ⟨inside.file, inside.start, ordered.2.2 outline member last List.mem_cons_self⟩
  · exact ordered.1

/-- The last node fits from where it starts. -/
theorem only_last : Fits file last.span.start [last] stop := by
  have inside := fits.within_last
  constructor
  · exact List.forall_mem_singleton.mpr fits.laid_last
  · exact List.forall_mem_singleton.mpr ⟨inside.file, le_refl _, inside.stop⟩
  · exact List.pairwise_singleton _ _

/-- A node may be left out, so that its parts stand for it. -/
theorem unfold_last : Fits file start (outlines ++ last.parts) stop := by
  have before := fits.before_last
  have inside := fits.within_last
  obtain ⟨span, parts⟩ := last
  cases fits.laid_last with
  | node nonempty laid placed ordered =>
    have reach : span.start ≤ stop := nonempty.le.trans inside.stop
    have within (part : Outline) (member : part ∈ parts) :
        part.span.Within { file, start, stop } := by
      have own := placed part member
      exact ⟨own.file.trans inside.file, inside.start.trans own.start, own.stop.trans inside.stop⟩
    constructor
    · exact List.forall_mem_append.mpr ⟨before.laid, laid⟩
    · exact List.forall_mem_append.mpr ⟨(before.mono reach).within, within⟩
    · rw [List.pairwise_append]
      refine ⟨before.ordered, ordered, fun earlier member part isPart => ?_⟩
      exact (before.within earlier member).stop.trans (placed part isPart).start

end Last

end Fits

end Outline

mutual

/-- The outline of an expression. -/
def Expr.outline : Expr → Outline
  | .node span form => .node span form.outlines

/-- The outlines of what an expression of a given form consists of. -/
def ExprForm.outlines : ExprForm → List Outline
  | .literal _ | .root | .library _ => []
  | .reference target => [target.outline]
  | .array items => Expr.outlineList items
  | .object entries => Expr.outlineEntries entries
  | .unary _ operand => [operand.outline]
  | .binary _ left right => [left.outline, right.outline]
  | .logical _ left right => [left.outline, right.outline]
  | .assign target _ value => [target.outline, value.outline]
  | .update target _ _ => [target.outline]
  | .call callee arguments => callee.outline :: Expr.outlineList arguments
  | .function definition => [definition.outline]
  | .hasKind value _ => [value.outline]

/-- The outline of a reference. -/
def Reference.outline : Reference → Outline
  | .node span form => .node span form.outlines

/-- The outlines of what a reference of a given form consists of. -/
def ReferenceForm.outlines : ReferenceForm → List Outline
  | .variable _ | .bare _ => []
  | .property target _ => [target.outline]
  | .index target index => [target.outline, index.outline]

def Expr.outlineList : List Expr → List Outline
  | [] => []
  | expr :: rest => expr.outline :: Expr.outlineList rest

def Expr.outlineEntry : String × Expr → Outline
  | (_, expr) => expr.outline

def Expr.outlineEntries : List (String × Expr) → List Outline
  | [] => []
  | entry :: rest => Expr.outlineEntry entry :: Expr.outlineEntries rest

def Expr.outlineOption : Option Expr → List Outline
  | none => []
  | some expr => [expr.outline]

/-- The outline of a statement. -/
def Statement.outline : Statement → Outline
  | .node span form => .node span form.outlines

/-- The outlines of what a statement of a given form consists of. -/
def StatementForm.outlines : StatementForm → List Outline
  | .block body => Statement.outlineList body
  | .expression value => [value.outline]
  | .conditional condition thenBranch elseBranch =>
    condition.outline :: thenBranch.outline :: Statement.outlineOption elseBranch
  | .whileLoop condition body => [condition.outline, body.outline]
  | .forLoop init condition update body =>
    Statement.outlineOption init ++
      (Expr.outlineOption condition ++ (Expr.outlineOption update ++ [body.outline]))
  | .foreach _ iterable body => [iterable.outline, body.outline]
  | .declare _ _ value => [value.outline]
  | .delete target => [target.outline]
  | .returnValue value => Expr.outlineOption value
  | .declareFunction definition => [definition.outline]
  | .apply target action => [target.outline, action.outline]
  | .breakLoop | .continueLoop | .importLibrary _ _ | .unparsed _ | .noOp => []

def Statement.outlineList : List Statement → List Outline
  | [] => []
  | statement :: rest => statement.outline :: Statement.outlineList rest

def Statement.outlineOption : Option Statement → List Outline
  | none => []
  | some statement => [statement.outline]

/-- The outline of a function. -/
def FunctionDef.outline : FunctionDef → Outline
  | .node _ _ body span => .node span body.outlines

/-- The outlines of what the body of a function consists of. -/
def FunctionBody.outlines : FunctionBody → List Outline
  | .block body => Statement.outlineList body
  | .expression value => [value.outline]

end

attribute [simp] Expr.outline ExprForm.outlines Reference.outline ReferenceForm.outlines
  Expr.outlineList Expr.outlineEntry Expr.outlineEntries Expr.outlineOption Statement.outline
  StatementForm.outlines Statement.outlineList Statement.outlineOption FunctionDef.outline
  FunctionBody.outlines

theorem Expr.span_outline (expr : Expr) : expr.outline.span = expr.span := by
  cases expr
  rfl

theorem Statement.span_outline (statement : Statement) : statement.outline.span = statement.span := by
  cases statement
  rfl

theorem Expr.parts_outline (expr : Expr) : expr.outline.parts = expr.form.outlines := by
  cases expr
  rfl

theorem Expr.outlineList_eq_map (exprs : List Expr) : outlineList exprs = exprs.map outline := by
  induction exprs with
  | nil => rfl
  | cons expr rest ih => rw [outlineList, ih, List.map_cons]

theorem Expr.outlineEntries_eq_map (entries : List (String × Expr)) :
    outlineEntries entries = entries.map fun entry => entry.2.outline := by
  induction entries with
  | nil => rfl
  | cons entry rest ih =>
    obtain ⟨key, expr⟩ := entry
    rw [outlineEntries, ih, List.map_cons]
    rfl

theorem Statement.outlineList_eq_map (statements : List Statement) :
    outlineList statements = statements.map outline := by
  induction statements with
  | nil => rfl
  | cons statement rest ih => rw [outlineList, ih, List.map_cons]

end PatchScript
