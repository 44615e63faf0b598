import PatchScript.Proofs.Grammar.Lookahead

/-!
# Climbing through what was written

Reading the pieces of an expression brings the loop of `climb` to the point where the
expression is its state and the token after the pieces comes next, whatever the loop
does from there (`Begins`).  In this form the statement can be used for a left operand,
whose operator the same loop takes next, as well as for a whole expression, after which
the loop ends.
-/

namespace PatchScript

variable {continuation : Continuation} {form : ExprForm}

namespace Grammar

open Printing

/-! ## Strengths and where an expression is open -/

namespace Cursor

variable {cursor : Cursor}

/-- No operator that binds more tightly than a rank comes next. -/
def Stops (cursor : Cursor) (rank : Nat) : Prop :=
  ∀ continuation, continuation? cursor.current.kind = some continuation →
    continuation.precedence.rank ≤ rank

theorem Stops.mono {lower higher : Nat} (stops : cursor.Stops lower) (le : lower ≤ higher) :
    cursor.Stops higher :=
  fun continuation found => Nat.le_trans (stops continuation found) le

/-- Nothing binds more tightly than the operators after their operand. -/
theorem stops_trailing (cursor : Cursor) : cursor.Stops Precedence.trailing.rank := by
  intro continuation _
  cases continuation.precedence <;> decide

theorem stops_of_no_continuation (ends : continuation? cursor.current.kind = none) (rank : Nat) :
    cursor.Stops rank := by
  intro continuation found
  rw [ends] at found
  cases found

theorem stops_of_continuation {rank : Nat}
    (found : continuation? cursor.current.kind = some continuation)
    (le : continuation.precedence.rank ≤ rank) : cursor.Stops rank := by
  intro other also
  rw [found] at also
  cases also
  exact le

end Cursor
end Grammar

/-- The rank that operators after an expression must not exceed, or else they would
belong to its last operand. -/
def ExprForm.openRank : ExprForm → Nat
  | .assign _ _ _ | .function _ => Grammar.Precedence.lowest.rank
  | .logical op _ _ => (Printing.logicalPrecedence op).rank
  | .binary op _ _ => (Grammar.rightOperandFloor op).rank
  | .unary _ _ | .update _ _ true => Grammar.Precedence.leading.rank
  | _ => Grammar.Precedence.trailing.rank

/-- An expression is read whole where operators of lower ranks than this are left
alone.  That is its strength, but a leading operator is read in any case. -/
def ExprForm.reach (form : ExprForm) : Nat :=
  match form.strength with
  | .leading => Grammar.Precedence.trailing.rank
  | strength => strength.rank

namespace ExprForm

open Grammar (Precedence)

theorem reach_le_openRank (form : ExprForm) : form.reach ≤ form.openRank + 1 := by
  cases form with
  | logical op left right =>
    cases op <;> simp [reach, strength, openRank, Printing.logicalPrecedence]
  | binary op left right =>
    cases op <;> simp [reach, strength, openRank, Grammar.rightOperandFloor,
      Grammar.binaryPrecedence, Precedence.rank]
  | update target increment yieldsNew =>
    cases yieldsNew <;> simp [reach, strength, openRank, Precedence.rank]
  | _ => simp [reach, strength, openRank, Precedence.rank]

theorem reach_pos (form : ExprForm) : Precedence.lowest.rank < form.reach := by
  cases form with
  | logical op left right => cases op <;> exact Nat.succ_pos _
  | binary op left right => cases op <;> exact Nat.succ_pos _
  | update target increment yieldsNew => cases yieldsNew <;> exact Nat.succ_pos _
  | _ => exact Nat.succ_pos _

theorem strength_le_reach (form : ExprForm) : form.strength.rank ≤ form.reach := by
  unfold reach
  cases form.strength <;> decide

theorem leading_lt_reach (strong : Precedence.leading.rank ≤ form.strength.rank) :
    Precedence.leading.rank < form.reach := by
  unfold reach
  cases strength : form.strength <;> rw [strength] at strong <;> revert strong <;> decide

/-- Only powers, assignments and functions are open to operators of their own
strength. -/
theorem strength_le_openRank_or (form : ExprForm) :
    form.strength.rank ≤ form.openRank ∨
      (form.strength = .exponent ∧ form.openRank = Precedence.product.rank) ∨
      form.strength = .assignment := by
  cases form with
  | logical op left right => cases op <;> exact .inl (Nat.le_refl _)
  | binary op left right =>
    cases op with
    | pow => exact .inr (.inl ⟨rfl, rfl⟩)
    | _ => exact .inl (Nat.le_refl _)
  | update target increment yieldsNew => cases yieldsNew <;> exact .inl (Nat.le_refl _)
  | assign target op value => exact .inr (.inr rfl)
  | function definition => exact .inr (.inr rfl)
  | _ => exact .inl (Nat.le_of_ble_eq_true rfl)

/-- What holds together as tightly as an operator after it asks for is not open to that
operator, unless both are powers. -/
theorem le_openRank {least : Precedence} (strong : least.rank ≤ form.strength.rank)
    (operator : Precedence.assignment.rank < least.rank) (notPower : least ≠ .exponent) :
    least.rank ≤ form.openRank := by
  obtain closed | ⟨power, openRank⟩ | weak := form.strength_le_openRank_or
  · exact Nat.le_trans strong closed
  · rw [power] at strong
    rw [openRank]
    cases least <;> revert strong notPower <;> decide
  · rw [weak] at strong
    omega

end ExprForm

namespace Grammar

open Printing

variable {depth : Nat}

/-! ## The loop of operators -/

variable {nested : Nested} {floor : Nat} {cursor after : Cursor}

/-- With enough turns left, the loop of operators that has come to an expression ends
in a result. -/
def Continues (nested : Nested) (floor : Nat) (left : Expr) (cursor : Cursor)
    (result : EStateM.Result ParseError Cursor Expr) : Prop :=
  ∀ bound, cursor.remaining.length < bound →
    loopWithin (continueOnce nested floor) bound left cursor = result

/-- The loop ends where no operator binds tightly enough. -/
theorem continues_of_stops (left : Expr) (stops : cursor.Stops floor) :
    Continues nested floor left cursor (.ok left cursor) := by
  intro bound enough
  refine loopWithin_done ?_ (by omega)
  rw [continueOnce, peek_bind]
  cases found : continuation? cursor.current.kind with
  | none => rfl
  | some continuation => simp [stops continuation found, pure, EStateM.pure]

/-- The loop goes on with an operator that binds tightly enough. -/
theorem Continues.step {left : Expr} {result : EStateM.Result ParseError Cursor Expr}
    (later : Continues nested floor (.node (left.span.through after.previous) form) after result)
    (found : continuation? cursor.current.kind = some continuation)
    (binds : floor < continuation.precedence.rank)
    (read : continueForm nested left continuation cursor.advance = .ok form after)
    (shorter : after.remaining.length < cursor.remaining.length) :
    Continues nested floor left cursor result := by
  intro bound enough
  obtain ⟨bound, rfl⟩ := Nat.exists_eq_add_one.mpr (Nat.zero_lt_of_lt enough)
  have going : continueOnce nested floor left cursor =
      .ok (.again (.node (left.span.through after.previous) form)) after := by
    rw [continueOnce, peek_bind, found]
    simp only [Nat.not_le.mpr binds, if_false]
    rw [advance_bind, bind_of_ok read]
    rfl
  rw [loopWithin_again going]
  exact later bound (by omega)

/-- Reading at a cursor brings the loop of operators to an expression, up to places,
with another cursor. -/
def Begins (depth floor : Nat) (cursor : Cursor) (expr : Expr) (after : Cursor) : Prop :=
  ∃ read : Expr, read.unplaced = expr.unplaced ∧
    ∀ result, Continues (nestedTo depth) floor read after result →
      climb (nestedTo depth) floor cursor = result

theorem termForm_of_symbol {token : Token} {symbol : Symbol} (kind : token.kind = .symbol symbol) :
    termForm nested token = symbolTerm nested token symbol := by
  simp only [termForm, kind]

/-- A term brings the loop to itself. -/
theorem begins_of_term {expr : Expr} (starts : startsTerm cursor.current.kind = true)
    (read : termForm (nestedTo depth) cursor.current cursor.advance = .ok form after)
    (same : form.unplaced = expr.form.unplaced) : Begins depth floor cursor expr after := by
  refine ⟨.node (cursor.current.span.through after.previous) form,
    Expr.unplaced_eq_iff.mpr same, ?_⟩
  intro result continues
  have first : term (nestedTo depth) cursor =
      .ok (.node (cursor.current.span.through after.previous) form) after := by
    rw [term, peek_bind]
    simp only [starts, if_true]
    rw [advance_bind, bind_of_ok read]
    rfl
  rw [climb, bind_of_ok first, loop_eq]
  exact continues _ (Nat.lt_succ_self _)

/-- An operator after an expression brings the loop from it to their combination. -/
theorem Begins.step {expr left : Expr} {middle : Cursor}
    (begins : Begins depth floor cursor left middle)
    (found : continuation? middle.current.kind = some continuation)
    (binds : floor < continuation.precedence.rank)
    (shorter : after.remaining.length < middle.remaining.length)
    (read : ∀ first : Expr, first.unplaced = left.unplaced →
      ∃ form, continueForm (nestedTo depth) first continuation middle.advance = .ok form after ∧
        form.unplaced = expr.form.unplaced) :
    Begins depth floor cursor expr after := by
  obtain ⟨first, sameFirst, reach⟩ := begins
  obtain ⟨form, readForm, sameForm⟩ := read first sameFirst
  refine ⟨.node (first.span.through after.previous) form, Expr.unplaced_eq_iff.mpr sameForm, ?_⟩
  intro result continues
  exact reach result (continues.step found binds readForm shorter)

/-! ## Expressions that can be read back -/

/-- Wherever the pieces of an expression come next and its operator binds tightly
enough, reading brings the loop of operators to the expression. -/
def ReadsBack (redundant : Expr → Bool) (expr : Expr) : Prop :=
  ∀ {depth floor : Nat} {cursor after : Cursor},
    expr.nesting redundant ≤ depth + 1 →
    Cursor.Shows (expr.pieces redundant) cursor after →
    floor < expr.form.reach →
    after.Stops expr.form.openRank →
    Begins depth floor cursor expr after

section Operands

variable {redundant : Expr → Bool} {expr : Expr}

/-- Reading an expression ends with it if no operator after it binds tightly
enough. -/
theorem Begins.expression (begins : Begins depth floor cursor expr after)
    (stops : after.Stops floor) :
    ∃ read : Expr, read.unplaced = expr.unplaced ∧
      Grammar.expression (depth + 1) floor cursor = .ok read after := by
  obtain ⟨read, same, reach⟩ := begins
  exact ⟨read, same, reach _ (continues_of_stops read stops)⟩

variable (back : ReadsBack redundant expr)
include back

/-- An operand can be read back in its position: it is in parentheses, or it binds
tightly enough there. -/
theorem ReadsBack.begins_enclosed {inParens : Bool}
    (bounded : enclosedNesting inParens (expr.nesting redundant) ≤ depth + 1)
    (shows : Cursor.Shows (enclosed inParens (expr.pieces redundant)) cursor after)
    (whenBare : inParens = false → floor < expr.form.reach ∧ after.Stops expr.form.openRank) :
    Begins depth floor cursor expr after := by
  cases inParens with
  | false =>
    obtain ⟨binds, stops⟩ := whenBare rfl
    exact back bounded shows binds stops
  | true =>
    obtain ⟨-, (opening : cursor.current.kind = .symbol .leftParen), rest⟩ := shows
    obtain ⟨middle, inside, -, (closing : middle.current.kind = .symbol .rightParen), rfl⟩ :=
      Cursor.shows_append.mp rest
    have positive := expr.nesting_pos redundant
    obtain ⟨inner, rfl⟩ : ∃ inner, depth = inner + 1 :=
      Nat.exists_eq_add_one.mpr (by simp only [enclosedNesting, if_true] at bounded; omega)
    have ends : continuation? middle.current.kind = none := by rw [closing]; rfl
    obtain ⟨read, same, reads⟩ :=
      (back (by simpa [enclosedNesting] using bounded) inside expr.form.reach_pos
        (Cursor.stops_of_no_continuation ends _)).expression
        (Cursor.stops_of_no_continuation ends _)
    refine begins_of_term (by rw [opening]; rfl) ?_ (Expr.unplaced_eq_iff.mp same)
    have whole : (nestedTo (inner + 1)).whole cursor.advance = .ok read middle := reads
    rw [termForm_of_symbol opening, symbolTerm, bind_of_ok whole,
      bind_of_ok (expectSymbol_of_eq closing _)]
    rfl

/-- An operand that is read on its own can be read back. -/
theorem ReadsBack.expression_enclosed {inParens : Bool}
    (bounded : enclosedNesting inParens (expr.nesting redundant) ≤ depth)
    (shows : Cursor.Shows (enclosed inParens (expr.pieces redundant)) cursor after)
    (binds : inParens = false → floor < expr.form.reach) (stops : after.Stops floor) :
    ∃ read : Expr, read.unplaced = expr.unplaced ∧
      Grammar.expression depth floor cursor = .ok read after := by
  have positive := enclosedNesting_pos inParens (expr.nesting_pos redundant)
  obtain ⟨inner, rfl⟩ : ∃ inner, depth = inner + 1 :=
    Nat.exists_eq_add_one.mpr (Nat.lt_of_lt_of_le positive bounded)
  have begins : Begins inner floor cursor expr after := by
    refine back.begins_enclosed bounded shows fun bare => ⟨binds bare, stops.mono ?_⟩
    have reach := expr.form.reach_le_openRank
    have binding := binds bare
    omega
  exact begins.expression stops

/-- An expression in a position of its own can be read back. -/
theorem ReadsBack.whole (bounded : expr.nesting redundant ≤ depth)
    (shows : Cursor.Shows (expr.pieces redundant) cursor after)
    (ends : continuation? after.current.kind = none) :
    ∃ read : Expr, read.unplaced = expr.unplaced ∧
      (nestedTo depth).whole cursor = .ok read after := by
  have bareNesting : enclosedNesting false (expr.nesting redundant) ≤ depth := bounded
  have barePieces : Cursor.Shows (enclosed false (expr.pieces redundant)) cursor after := shows
  exact back.expression_enclosed bareNesting barePieces (fun _ => expr.form.reach_pos)
    (Cursor.stops_of_no_continuation ends _)

end Operands

/-- An expression that could be read starts with the first token of a term. -/
theorem startsTerm_of_whole {read : Expr} (reads : (nestedTo depth).whole cursor = .ok read after) :
    startsTerm cursor.current.kind = true := by
  cases depth with
  | zero => cases reads
  | succ depth =>
    obtain ⟨first, middle, termRead, -⟩ := bind_eq_ok_iff.mp reads
    by_contra starts
    rw [term, peek_bind] at termRead
    simp only [starts] at termRead
    cases termRead

end Grammar
end PatchScript
