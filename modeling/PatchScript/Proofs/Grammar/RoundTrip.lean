import PatchScript.Proofs.Grammar.Climbing

/-!
# Reading back what was written

A printable expression is read back from the pieces it is written as: the reader
takes exactly their tokens and returns the same expression up to places.  Every kind of
expression can be read back if its parts can, and the statement about all of them is an
induction over the syntax.
-/

namespace PatchScript
namespace Grammar

open Printing

variable {floor : Nat} {cursor after : Cursor} {target : Reference}

/-! ## Terms -/

section Terms

variable {redundant : Expr → Bool} (span place : Span)

/-- A term of one token is read back from it. -/
theorem readsBack_of_token {form : ExprForm} (kind : TokenKind) (starts : startsTerm kind = true)
    (pieces : form.pieces redundant = [.exactly kind])
    (reads : ∀ (nested : Nested) (place : Span) (cursor : Cursor),
      ∃ read, termForm nested ⟨kind, place⟩ cursor = .ok read cursor ∧
        read.unplaced = form.unplaced) :
    ReadsBack redundant (.node span form) := by
  intro depth floor cursor after bounded shows binds stops
  rw [Expr.pieces, pieces] at shows
  obtain ⟨-, (isToken : cursor.current.kind = kind), rfl⟩ := shows
  obtain ⟨read, term, same⟩ := reads (nestedTo depth) cursor.current.span cursor.advance
  subst isToken
  exact begins_of_term starts term same

theorem readsBack_literal (value : Literal) :
    ReadsBack redundant (.node span (.literal value)) := by
  refine readsBack_of_token span (literalToken value) ?_ rfl fun _ _ _ => ⟨.literal value, ?_, rfl⟩
  all_goals
    cases value with
    | boolean value => cases value <;> rfl
    | _ => rfl

theorem readsBack_variable (name : String) :
    ReadsBack redundant (.node span (.reference (.node place (.variable name)))) :=
  readsBack_of_token span (.variable name) rfl rfl fun _ _ _ => ⟨_, rfl, rfl⟩

theorem readsBack_bare (name : String) :
    ReadsBack redundant (.node span (.reference (.node place (.bare name)))) :=
  readsBack_of_token span (.word name) rfl rfl fun _ _ _ => ⟨_, rfl, rfl⟩

theorem readsBack_root : ReadsBack redundant (.node span .root) :=
  readsBack_of_token span (.keyword .thisWord) rfl rfl fun _ _ _ => ⟨_, rfl, rfl⟩

theorem readsBack_library (name : String) : ReadsBack redundant (.node span (.library name)) := by
  intro depth floor cursor after bounded shows binds stops
  obtain ⟨-, (kind : cursor.current.kind = .keyword .importWord), -,
    (opening : cursor.advance.current.kind = .symbol .leftParen), -,
    (quoted : cursor.advance.advance.current.kind = .string name), -,
    (closing : cursor.advance.advance.advance.current.kind = .symbol .rightParen), rfl⟩ := shows
  have read : termForm (nestedTo depth) cursor.current cursor.advance =
      .ok (.library name) cursor.advance.advance.advance.advance := by
    simp only [termForm, kind, libraryForm]
    rw [bind_of_ok (expectSymbol_of_eq opening _), advance_bind]
    simp only [quoted]
    rw [bind_of_ok (expectSymbol_of_eq closing _)]
    rfl
  exact begins_of_term (by rw [kind]; rfl) read rfl

theorem readsBack_unary (op : UnaryOp) {operand : Expr} (back : ReadsBack redundant operand) :
    ReadsBack redundant (.node span (.unary op operand)) := by
  intro depth floor cursor after bounded shows binds stops
  obtain ⟨-, (kind : cursor.current.kind = .symbol (unarySymbol op)), inside⟩ := shows
  have strong : (weakerThan .leading operand.strength || redundant operand) = false →
      Precedence.leading.rank < operand.form.reach := by
    intro bare
    rw [Bool.or_eq_false_iff, weakerThan, decide_eq_false_iff_not, Nat.not_lt] at bare
    exact ExprForm.leading_lt_reach bare.1
  obtain ⟨inner, same, reads⟩ :=
    back.expression_enclosed (Nat.le_of_succ_le_succ bounded) inside strong stops
  have read : termForm (nestedTo depth) cursor.current cursor.advance =
      .ok (.unary op inner) after := by
    have operandRead : (nestedTo depth).expression Precedence.leading.rank cursor.advance =
        .ok inner after := reads
    rw [termForm_of_symbol kind]
    cases op <;>
    · simp only [unarySymbol, symbolTerm, unaryOp?]
      rw [bind_of_ok operandRead]
      rfl
  refine begins_of_term ?_ read (by simp [Expr.form, same])
  rw [kind]
  cases op <;> rfl

section

variable {expr : Expr} {span : Span}
variable (same : expr.unplaced = (Expr.node span (.reference target)).unplaced)
include same

/-- The reference that an expression is, up to places. -/
theorem reference?_of_unplaced :
    ∃ found, expr.reference? = some found ∧ found.unplaced = target.unplaced := by
  obtain ⟨place, form⟩ := expr
  simp only [Expr.unplaced, Expr.node.injEq, true_and] at same
  cases form with
  | reference found => exact ⟨found, rfl, by simpa using same⟩
  | _ => simp at same

theorem requireReference_of_unplaced (action : String) (cursor : Cursor) :
    ∃ found, requireReference expr action cursor = .ok found cursor ∧
      found.unplaced = target.unplaced := by
  obtain ⟨found, isReference, sameTarget⟩ := reference?_of_unplaced same
  exact ⟨found, by simp [requireReference, isReference, pure, EStateM.pure], sameTarget⟩

end

theorem readsBack_leading_update (increment : Bool)
    (back : ReadsBack redundant (.node place (.reference target))) :
    ReadsBack redundant (.node span (.update target increment true)) := by
  intro depth floor cursor after bounded shows binds stops
  obtain ⟨-, (kind : cursor.current.kind = .symbol (updateSymbol increment)), inside⟩ := shows
  have bareNesting : enclosedNesting false (Expr.nesting redundant
      (.node place (.reference target))) ≤ depth := Nat.le_of_succ_le_succ bounded
  have barePieces : Cursor.Shows (enclosed false (Expr.pieces redundant
      (.node place (.reference target)))) cursor.advance after := inside
  obtain ⟨inner, same, reads⟩ :=
    back.expression_enclosed bareNesting barePieces (fun _ => Nat.lt_succ_self _) stops
  obtain ⟨found, required, sameTarget⟩ :=
    requireReference_of_unplaced same "incremented or decremented" after
  have read : termForm (nestedTo depth) cursor.current cursor.advance =
      .ok (.update found increment true) after := by
    have operandRead : (nestedTo depth).expression Precedence.leading.rank cursor.advance =
        .ok inner after := reads
    rw [termForm_of_symbol kind]
    cases increment <;>
    · simp only [updateSymbol, symbolTerm, leadingUpdate]
      rw [bind_of_ok operandRead, bind_of_ok required]
      rfl
  refine begins_of_term ?_ read (by simp [Expr.form, sameTarget])
  rw [kind]
  cases increment <;> rfl

end Terms

/-! ## Operators after an expression -/

section Operators

variable {redundant : Expr → Bool} (span place : Span) {depth : Nat} {left : Expr}
variable {right value : Expr} {form : ExprForm}

/-- A left operand that needs no parentheses leaves its operator to the loop. -/
theorem ReadsBack.begins_left {inParens : Bool} {middle : Cursor} {continuation : Continuation}
    (back : ReadsBack redundant left)
    (bounded : enclosedNesting inParens (left.nesting redundant) ≤ depth + 1)
    (shows : Cursor.Shows (enclosed inParens (left.pieces redundant)) cursor middle)
    (found : continuation? middle.current.kind = some continuation)
    (binds : floor < continuation.precedence.rank)
    (whenBare : inParens = false →
      continuation.precedence.rank ≤ left.form.strength.rank ∧
        continuation.precedence.rank ≤ left.form.openRank) :
    Begins depth floor cursor left middle := by
  refine back.begins_enclosed bounded shows fun bare => ?_
  obtain ⟨strong, closed⟩ := whenBare bare
  have reach := left.form.strength_le_reach
  exact ⟨by omega, Cursor.stops_of_continuation found closed⟩

/-- An operator after an operand brings the loop to what it is read as together with the pieces
after it. -/
theorem begins_continued (continuation : Continuation) {expr : Expr} {pieces rest : List Piece}
    {piece : Piece} (shows : Cursor.Shows (pieces ++ piece :: rest) cursor after)
    (continues : ∀ kind, piece.Accepts kind → continuation? kind = some continuation)
    (binds : floor < continuation.precedence.rank)
    (begins : ∀ middle, Cursor.Shows pieces cursor middle →
      continuation? middle.current.kind = some continuation →
      Begins depth floor cursor left middle)
    (read : ∀ middle (first : Expr), Cursor.Shows rest middle after →
      first.unplaced = left.unplaced →
      ∃ form, continueForm (nestedTo depth) first continuation middle = .ok form after ∧
        form.unplaced = expr.form.unplaced) :
    Begins depth floor cursor expr after := by
  obtain ⟨middle, leftShows, nonempty, accepted, restShows⟩ := Cursor.shows_append.mp shows
  have found := continues _ accepted
  exact (begins middle leftShows found).step found binds (restShows.length_lt nonempty)
    fun first same => read _ first restShows same

theorem weakerThan_eq_false {least : Precedence} (bare : weakerThan least form.strength = false)
    (operator : Precedence.assignment.rank < least.rank) (notPower : least ≠ .exponent) :
    least.rank ≤ form.strength.rank ∧ least.rank ≤ form.openRank := by
  rw [weakerThan, decide_eq_false_iff_not, Nat.not_lt] at bare
  exact ⟨bare, ExprForm.le_openRank bare operator notPower⟩

theorem leftNeedsParens_eq_false {op : BinaryOp} (bare : leftNeedsParens op form.strength = false) :
    (binaryPrecedence op).rank ≤ form.strength.rank ∧
      (binaryPrecedence op).rank ≤ form.openRank := by
  cases op with
  | pow =>
    rw [leftNeedsParens, notStrongerThan, decide_eq_false_iff_not, Nat.not_le] at bare
    have stronger : Precedence.exponent.rank < form.strength.rank := bare
    have reach := form.reach_le_openRank
    have strong := form.strength_le_reach
    simp only [binaryPrecedence]
    omega
  | _ => exact weakerThan_eq_false bare (Nat.lt_of_sub_pos (Nat.succ_pos _)) (by decide)

theorem rightNeedsParens_eq_false {op : BinaryOp} {strength : Precedence}
    (bare : rightNeedsParens op strength = false) :
    (rightOperandFloor op).rank < strength.rank := by
  cases op <;> simpa [rightNeedsParens, notStrongerThan, rightOperandFloor] using bare

theorem readsBack_binary (op : BinaryOp) (backLeft : ReadsBack redundant left)
    (backRight : ReadsBack redundant right) :
    ReadsBack redundant (.node span (.binary op left right)) := by
  intro depth floor cursor after bounded shows binds stops
  obtain ⟨leftBounded, rightBounded⟩ := Nat.max_le.mp bounded
  have binding : floor < (binaryPrecedence op).rank := by
    have reach : (ExprForm.binary op left right).reach = (binaryPrecedence op).rank := by
      cases op <;> rfl
    exact reach ▸ binds
  refine begins_continued (.binary op) shows ?_ binding
    (fun middle leftShows found =>
      backLeft.begins_left leftBounded leftShows found binding fun bare =>
        leftNeedsParens_eq_false (Bool.or_eq_false_iff.mp bare).1) ?_
  · rintro _ ⟨⟩
    cases op <;> rfl
  · intro middle first rightShows sameFirst
    obtain ⟨operand, same, reads⟩ :=
      backRight.expression_enclosed (Nat.le_of_succ_le_succ rightBounded) rightShows
        (fun bare => Nat.lt_of_lt_of_le
          (rightNeedsParens_eq_false (Bool.or_eq_false_iff.mp bare).1)
          right.form.strength_le_reach)
        stops
    exact ⟨.binary op first operand, bind_of_ok reads, by simp [Expr.form, sameFirst, same]⟩

theorem readsBack_logical (op : LogicalOp) (backLeft : ReadsBack redundant left)
    (backRight : ReadsBack redundant right) :
    ReadsBack redundant (.node span (.logical op left right)) := by
  intro depth floor cursor after bounded shows binds stops
  obtain ⟨leftBounded, rightBounded⟩ := Nat.max_le.mp bounded
  have precedence : (Continuation.logical op).precedence = logicalPrecedence op := by
    cases op <;> rfl
  have binding : floor < (Continuation.logical op).precedence.rank := by
    have reach : (ExprForm.logical op left right).reach = (logicalPrecedence op).rank := by
      cases op <;> rfl
    exact precedence ▸ reach ▸ binds
  refine begins_continued (.logical op) shows ?_ binding
    (fun middle leftShows found =>
      backLeft.begins_left leftBounded leftShows found binding fun bare => by
        rw [precedence]
        exact weakerThan_eq_false (Bool.or_eq_false_iff.mp bare).1 (by cases op <;> decide)
          (by cases op <;> decide)) ?_
  · rintro _ ⟨⟩
    cases op <;> rfl
  · intro middle first rightShows sameFirst
    obtain ⟨operand, same, reads⟩ :=
      backRight.expression_enclosed (Nat.le_of_succ_le_succ rightBounded) rightShows
        (fun bare => by
          have strong := (Bool.or_eq_false_iff.mp bare).1
          rw [notStrongerThan, decide_eq_false_iff_not, Nat.not_le] at strong
          exact Nat.lt_of_lt_of_le strong right.form.strength_le_reach)
        stops
    have operandRead : (nestedTo depth).expression (Continuation.logical op).precedence.rank middle =
        .ok operand after :=
      precedence ▸ reads
    exact ⟨.logical op first operand, bind_of_ok operandRead, by simp [Expr.form, sameFirst, same]⟩

theorem kindTestForm_of_accepts {kind : ValueKind} {cursor : Cursor}
    (named : (Piece.valueKind kind).Accepts cursor.current.kind) (value : Expr) :
    kindTestForm value cursor = .ok (.hasKind value kind) cursor.advance := by
  rw [kindTestForm, advance_bind]
  obtain word | ⟨reserved, keyword, text⟩ := named
  · rw [word]
    cases kind <;> rfl
  · have spelled : (TokenKind.keyword reserved).fixedText?.getD "" = kind.name := text
    rw [keyword]
    dsimp only
    rw [spelled]
    cases kind <;> rfl

theorem readsBack_hasKind (kind : ValueKind) (back : ReadsBack redundant value) :
    ReadsBack redundant (.node span (.hasKind value kind)) := by
  intro depth floor cursor after bounded shows binds stops
  refine begins_continued .kindTest shows (by rintro _ ⟨⟩; rfl) binds
    (fun middle valueShows found => back.begins_left bounded valueShows found binds fun bare =>
      weakerThan_eq_false (Bool.or_eq_false_iff.mp bare).1 (by decide) (by decide)) ?_
  rintro middle first ⟨-, named, rfl⟩ sameFirst
  exact ⟨.hasKind first kind, kindTestForm_of_accepts named first, by simp [Expr.form, sameFirst]⟩

theorem readsBack_property (name : String) {target : Expr} (back : ReadsBack redundant target) :
    ReadsBack redundant (.node span (.reference (.node place (.property target name)))) := by
  intro depth floor cursor after bounded shows binds stops
  refine begins_continued .property shows (by rintro _ ⟨⟩; rfl) binds
    (fun middle targetShows found => back.begins_left bounded targetShows found binds fun bare =>
      weakerThan_eq_false (Bool.or_eq_false_iff.mp bare).1 (by decide) (by decide)) ?_
  rintro middle first ⟨-, named, rfl⟩ sameFirst
  have nameRead : takePropertyName middle = .ok name middle.advance := by
    rw [takePropertyName, advance_bind]
    simp only [propertyName?_of_accepts named]
    rfl
  refine ⟨.reference (.node (first.span.through middle.advance.previous)
    (.property first name)), ?_, by simp [Expr.form, sameFirst]⟩
  rw [continueForm, bind_of_ok nameRead, previousSpan_bind]
  rfl

theorem readsBack_index {target index : Expr} (backTarget : ReadsBack redundant target)
    (backIndex : ReadsBack redundant index) :
    ReadsBack redundant (.node span (.reference (.node place (.index target index)))) := by
  intro depth floor cursor after bounded shows binds stops
  obtain ⟨targetBounded, indexBounded⟩ := Nat.max_le.mp bounded
  refine begins_continued .index shows (by rintro _ ⟨⟩; rfl) binds
    (fun middle targetShows found =>
      backTarget.begins_left targetBounded targetShows found binds fun bare =>
        weakerThan_eq_false (Bool.or_eq_false_iff.mp bare).1 (by decide) (by decide)) ?_
  intro middle first rest sameFirst
  obtain ⟨last, indexShows, -, (closing : last.current.kind = .symbol .rightBracket), rfl⟩ :=
    Cursor.shows_append.mp rest
  obtain ⟨read, same, reads⟩ :=
    backIndex.whole (Nat.le_of_succ_le_succ indexBounded) indexShows (by rw [closing]; rfl)
  refine ⟨.reference (.node (first.span.through last.advance.previous) (.index first read)), ?_, by
    simp [Expr.form, sameFirst, same]⟩
  rw [continueForm, bind_of_ok reads, bind_of_ok (expectSymbol_of_eq closing _), previousSpan_bind]
  rfl

theorem readsBack_trailing_update (increment : Bool)
    (back : ReadsBack redundant (.node place (.reference target))) :
    ReadsBack redundant (.node span (.update target increment false)) := by
  intro depth floor cursor after bounded shows binds stops
  refine begins_continued (.update increment) shows ?_ binds
    (fun middle targetShows _ => back bounded targetShows binds (Cursor.stops_trailing middle)) ?_
  · rintro _ ⟨⟩
    cases increment <;> rfl
  · rintro middle first ⟨⟩ sameFirst
    obtain ⟨reference, required, sameTarget⟩ :=
      requireReference_of_unplaced sameFirst "incremented or decremented" after
    exact ⟨.update reference increment false, bind_of_ok required, by simp [Expr.form, sameTarget]⟩

theorem readsBack_assign {op : Option BinaryOp} (compound : (assignSymbol? op).isSome)
    (backTarget : ReadsBack redundant (.node place (.reference target)))
    (backValue : ReadsBack redundant value) :
    ReadsBack redundant (.node span (.assign target op value)) := by
  intro depth floor cursor after bounded shows binds stops
  obtain ⟨targetBounded, valueBounded⟩ := Nat.max_le.mp bounded
  refine begins_continued (.assign op) shows ?_ binds
    (fun middle targetShows _ => backTarget targetBounded targetShows
      (Nat.lt_trans binds (Nat.le_of_ble_eq_true rfl)) (Cursor.stops_trailing middle)) ?_
  · rintro _ ⟨⟩
    cases op with
    | none => rfl
    | some op => cases op <;> first | rfl | cases compound
  · intro middle first rest sameFirst
    obtain ⟨read, same, reads⟩ :=
      backValue.expression_enclosed (Nat.le_of_succ_le_succ valueBounded) rest
        (fun _ => value.form.reach_pos) stops
    obtain ⟨reference, required, sameTarget⟩ :=
      requireReference_of_unplaced sameFirst "assigned to" middle
    refine ⟨.assign reference op read, ?_, by simp [Expr.form, sameTarget, same]⟩
    exact (bind_of_ok required).trans (bind_of_ok reads)

end Operators

/-! ## Lists with commas -/

section Lists

variable {redundant : Expr → Bool} (span place : Span) {depth : Nat} {read : Expr}
variable {entries : List (String × Expr)} {arguments found items : List Expr}
variable {parameters : List Parameter}

/-- A loop whose turns read one expression each reads back all items of a list. -/
theorem loop_items (turn : List Expr → Parse (Turn (List Expr) (List Expr)))
    (turns : ∀ (found : List Expr) (read : Expr) (cursor after : Cursor),
      (nestedTo depth).whole cursor = .ok read after →
      turn found cursor = commaTurn (found ++ [read]) after)
    (back : ∀ item ∈ items, ReadsBack redundant item)
    (bounded : Expr.nestingList redundant items ≤ depth)
    (nonempty : items ≠ [])
    (shows : Cursor.Shows (separated (Expr.piecesList redundant items)) cursor after)
    (ends : continuation? after.current.kind = none)
    (noComma : after.current.kind ≠ .symbol .comma) :
    ∃ reads, Expr.unplacedList reads = Expr.unplacedList items ∧
      loop turn [] cursor = .ok reads after := by
  rw [Expr.piecesList_eq_map] at shows
  obtain ⟨reads, same, looped⟩ :=
    loopWithin_separated (fun item read : Expr => read.unplaced = item.unplaced)
      (fun {before later item found cursor after} split _ itemShows itemEnds => by
        have member : item ∈ items := by simp [split]
        obtain ⟨read, same, reads⟩ :=
          ReadsBack.whole (back item member)
            (Nat.le_trans (Expr.nesting_le_nestingList member) bounded) itemShows itemEnds
        exact ⟨read, same, turns _ _ _ _ reads⟩)
      ends noComma (List.nil_append items).symm nonempty .nil shows (Nat.lt_succ_self _)
  refine ⟨reads, ?_, looped⟩
  rw [Expr.unplacedList_eq_map, Expr.unplacedList_eq_map]
  exact map_eq_map_of_forall₂ same

section

variable (reads : (nestedTo depth).whole cursor = .ok read after)
include reads

/-- The first token of a list is none that starts no term. -/
theorem ne_of_whole {symbol : Symbol} (never : startsTerm (.symbol symbol) = false) :
    cursor.current.kind ≠ .symbol symbol := by
  intro kind
  have starts := startsTerm_of_whole reads
  rw [kind, never] at starts
  cases starts

theorem argument_of_whole :
    argument (nestedTo depth) found cursor = commaTurn (found ++ [read]) after := by
  rw [argument, bind_of_ok reads]
  rfl

theorem arrayItem_of_whole :
    arrayItem (nestedTo depth) found cursor = commaTurn (found ++ [read]) after := by
  rw [arrayItem, bind_of_ok (atSymbol_of_ne (ne_of_whole reads rfl))]
  simp only [Bool.false_eq_true, if_false]
  rw [bind_of_ok reads]
  rfl

end

theorem readsBack_array (back : ∀ item ∈ items, ReadsBack redundant item) :
    ReadsBack redundant (.node span (.array items)) := by
  intro depth floor cursor after bounded shows binds stops
  obtain ⟨-, (opening : cursor.current.kind = .symbol .leftBracket), rest⟩ := shows
  obtain ⟨last, inside, -, (closing : last.current.kind = .symbol .rightBracket), rfl⟩ :=
    Cursor.shows_append.mp rest
  have looped : ∃ reads, Expr.unplacedList reads = Expr.unplacedList items ∧
      loop (arrayItem (nestedTo depth)) [] cursor.advance = .ok reads last := by
    cases items with
    | nil =>
      obtain rfl : last = cursor.advance := inside
      refine ⟨[], rfl, ?_⟩
      rw [loop_eq]
      refine loopWithin_done ?_ (Nat.succ_pos _)
      rw [arrayItem, bind_of_ok (atSymbol_of_eq closing)]
      rfl
    | cons item items =>
      exact loop_items (arrayItem (nestedTo depth)) (fun _ _ _ _ => arrayItem_of_whole) back
        (Nat.le_of_succ_le_succ bounded) (List.cons_ne_nil _ _) inside (by rw [closing]; rfl)
        (by simp [closing])
  obtain ⟨reads, same, looped⟩ := looped
  have read : termForm (nestedTo depth) cursor.current cursor.advance =
      .ok (.array reads) last.advance := by
    rw [termForm_of_symbol opening, symbolTerm, arrayForm, bind_of_ok looped,
      bind_of_ok (expectSymbol_of_eq closing _)]
    rfl
  exact begins_of_term (by rw [opening]; rfl) read (by simp [Expr.form, same])

theorem callArguments_of_shows (back : ∀ argument ∈ arguments, ReadsBack redundant argument)
    (bounded : Expr.nestingList redundant arguments ≤ depth)
    (shows : Cursor.Shows (separated (Expr.piecesList redundant arguments)) cursor after)
    (closing : after.current.kind = .symbol .rightParen) :
    ∃ reads, Expr.unplacedList reads = Expr.unplacedList arguments ∧
      callArguments (nestedTo depth) cursor = .ok reads after.advance := by
  cases arguments with
  | nil =>
    obtain rfl : after = cursor := shows
    refine ⟨[], rfl, ?_⟩
    rw [callArguments, bind_of_ok (atSymbol_of_eq closing)]
    simp only [if_true, pure_bind]
    rw [bind_of_ok (expectSymbol_of_eq closing _)]
    rfl
  | cons first arguments =>
    obtain ⟨reads, same, looped⟩ :=
      loop_items (argument (nestedTo depth)) (fun _ _ _ _ => argument_of_whole) back bounded
        (List.cons_ne_nil _ _) shows
        (by rw [closing]; rfl) (by simp [closing])
    have noParen : cursor.current.kind ≠ .symbol .rightParen := by
      have unrolled := looped
      rw [loop_eq, loopWithin] at unrolled
      obtain ⟨turn, middle, turned, -⟩ := bind_eq_ok_iff.mp unrolled
      obtain ⟨read, next, firstRead, -⟩ := bind_eq_ok_iff.mp turned
      exact ne_of_whole firstRead rfl
    refine ⟨reads, same, ?_⟩
    rw [callArguments, bind_of_ok (atSymbol_of_ne noParen)]
    simp only [Bool.false_eq_true, if_false]
    rw [bind_of_ok looped, bind_of_ok (expectSymbol_of_eq closing _)]
    rfl

theorem readsBack_call {callee : Expr} (backCallee : ReadsBack redundant callee)
    (backArguments : ∀ argument ∈ arguments, ReadsBack redundant argument) :
    ReadsBack redundant (.node span (.call callee arguments)) := by
  intro depth floor cursor after bounded shows binds stops
  obtain ⟨calleeBounded, argumentsBounded⟩ := Nat.max_le.mp bounded
  refine begins_continued .call shows (by rintro _ ⟨⟩; rfl) binds
    (fun middle calleeShows found =>
      backCallee.begins_left calleeBounded calleeShows found binds fun bare =>
        weakerThan_eq_false (Bool.or_eq_false_iff.mp bare).1 (by decide) (by decide)) ?_
  intro middle first rest sameFirst
  obtain ⟨last, inside, -, (closing : last.current.kind = .symbol .rightParen), rfl⟩ :=
    Cursor.shows_append.mp rest
  obtain ⟨reads, same, argumentsRead⟩ :=
    callArguments_of_shows backArguments (Nat.le_of_succ_le_succ argumentsBounded) inside closing
  exact ⟨.call first reads, bind_of_ok argumentsRead, by simp [Expr.form, sameFirst, same]⟩

/-- An entry is read back with its key. -/
def ReadsEntry (entry read : String × Expr) : Prop :=
  (read.1, read.2.unplaced) = (entry.1, entry.2.unplaced)

theorem keys_eq_of_readsEntry {reads : List (String × Expr)}
    (same : List.Forall₂ ReadsEntry entries reads) : Entries.keys reads = Entries.keys entries := by
  refine map_eq_map_of_forall₂ (same.imp ?_)
  intro entry read pair
  exact (Prod.mk.inj pair).1

/-- An entry whose key is not there yet is read back. -/
theorem objectEntry_of_shows {entry : String × Expr} {found : List (String × Expr)}
    (back : ReadsBack redundant entry.2) (bounded : entry.2.nesting redundant ≤ depth)
    (fresh : entry.1 ∉ Entries.keys found)
    (shows : Cursor.Shows (Expr.piecesEntry redundant entry) cursor after)
    (ends : continuation? after.current.kind = none) :
    ∃ read, ReadsEntry entry read ∧
      objectEntry (nestedTo depth) found cursor = commaTurn (found ++ [read]) after := by
  obtain ⟨key, expr⟩ := entry
  obtain ⟨-, named, -, (colon : cursor.advance.current.kind = .symbol .colon), inside⟩ := shows
  obtain ⟨read, same, reads⟩ := back.whole bounded inside ends
  have notClosing : cursor.current.kind ≠ .symbol .rightBrace := by
    intro closing
    have none := propertyName?_of_accepts named
    rw [closing] at none
    cases none
  have missing : (found.lookup key).isSome = false := by
    rw [← Bool.not_eq_true, Entries.isSome_lookup]
    exact fresh
  refine ⟨(key, read), by rw [ReadsEntry, same], ?_⟩
  rw [objectEntry, bind_of_ok (atSymbol_of_ne notClosing)]
  simp only [Bool.false_eq_true, if_false]
  rw [advance_bind]
  simp only [propertyName?_of_accepts named, missing, Bool.false_eq_true, if_false]
  rw [bind_of_ok (expectSymbol_of_eq colon _), bind_of_ok reads]
  rfl

theorem readsBack_object (distinct : (Entries.keys entries).Nodup)
    (back : ∀ entry ∈ entries, ReadsBack redundant entry.2) :
    ReadsBack redundant (.node span (.object entries)) := by
  intro depth floor cursor after bounded shows binds stops
  have entriesBounded := Nat.le_of_succ_le_succ bounded
  obtain ⟨-, (opening : cursor.current.kind = .symbol .leftBrace), rest⟩ := shows
  obtain ⟨last, inside, -, (closing : last.current.kind = .symbol .rightBrace), rfl⟩ :=
    Cursor.shows_append.mp rest
  have looped : ∃ reads, List.Forall₂ ReadsEntry entries reads ∧
      loop (objectEntry (nestedTo depth)) [] cursor.advance = .ok reads last := by
    by_cases nonempty : entries = []
    · subst nonempty
      obtain rfl : last = cursor.advance := inside
      refine ⟨[], .nil, ?_⟩
      rw [loop_eq]
      refine loopWithin_done ?_ (Nat.succ_pos _)
      rw [objectEntry, bind_of_ok (atSymbol_of_eq closing)]
      rfl
    · rw [Expr.piecesEntries_eq_map] at inside
      refine loopWithin_separated ReadsEntry ?_ (by rw [closing]; rfl) (by simp [closing])
        (List.nil_append entries).symm nonempty .nil inside (Nat.lt_succ_self _)
      intro before later entry found cursor after split earlier entryShows entryEnds
      have member : entry ∈ entries := by simp [split]
      -- The keys read before are those written before, so this one is new.
      have fresh : entry.1 ∉ Entries.keys found := by
        rw [keys_eq_of_readsEntry earlier]
        simp only [split, Entries.keys, List.map_append, List.map_cons] at distinct
        exact fun earlierKey =>
          (List.nodup_append.mp distinct).2.2 _ earlierKey _ (List.mem_cons_self ..) rfl
      exact objectEntry_of_shows (back entry member)
        (Nat.le_trans (Expr.nesting_le_nestingEntries member) entriesBounded) fresh entryShows
        entryEnds
  obtain ⟨reads, same, looped⟩ := looped
  have read : termForm (nestedTo depth) cursor.current cursor.advance =
      .ok (.object reads) last.advance := by
    rw [termForm_of_symbol opening, symbolTerm, objectForm, bind_of_ok looped,
      bind_of_ok (expectSymbol_of_eq closing _)]
    rfl
  have sameEntries : Expr.unplacedEntries reads = Expr.unplacedEntries entries := by
    rw [Expr.unplacedEntries_eq_map, Expr.unplacedEntries_eq_map]
    exact map_eq_map_of_forall₂ same
  exact begins_of_term (by rw [opening]; rfl) read (by simp [Expr.form, sameEntries])

/-! ## Functions -/

/-- A parameter that is not there yet is read back. -/
theorem parameter_of_shows {next : Parameter} {found : List Parameter} (fresh : next ∉ found)
    (shows : Cursor.Shows [parameterPiece next] cursor after) :
    parameter found cursor = commaTurn (found ++ [next]) after := by
  obtain ⟨-, accepted, rfl⟩ := shows
  rw [parameter, peek_bind]
  cases next with
  | root =>
    have this : cursor.current.kind = .keyword .thisWord := accepted
    rw [bind_of_ok (takeKeyword_of_eq this)]
    simp only [if_true, pure_bind, fresh, if_false]
    rfl
  | named name =>
    have notKeyword : ∀ reserved, cursor.current.kind ≠ .keyword reserved := by
      intro reserved keyword
      obtain word | dollar := accepted
      · rw [keyword] at word
        cases word
      · rw [keyword] at dollar
        cases dollar
    have named : (Parameter.named <$> takeName "parameter name") cursor =
        .ok (.named name) cursor.advance := by
      simp only [Functor.map, EStateM.map, takeName_of_declared accepted]
    rw [bind_of_ok (takeKeyword_of_not_keyword _ notKeyword)]
    simp only [Bool.false_eq_true, if_false]
    rw [bind_of_ok named]
    simp only [fresh, if_false]
    rfl

theorem functionParameters_of_shows (distinct : parameters.Nodup)
    (opening : cursor.current.kind = .symbol .leftParen)
    (shows : Cursor.Shows (separated (parameters.map fun parameter => [parameterPiece parameter]))
      cursor.advance after)
    (closing : after.current.kind = .symbol .rightParen) :
    functionParameters cursor = .ok parameters after.advance := by
  rw [functionParameters, bind_of_ok (expectSymbol_of_eq opening _)]
  by_cases nonempty : parameters = []
  · subst nonempty
    obtain rfl : after = cursor.advance := shows
    rw [bind_of_ok (atSymbol_of_eq closing)]
    simp only [if_true, pure_bind]
    rw [bind_of_ok (expectSymbol_of_eq closing _)]
    rfl
  · have noParen : cursor.advance.current.kind ≠ .symbol .rightParen := by
      intro early
      obtain ⟨first, rest, rfl⟩ := List.exists_cons_of_ne_nil nonempty
      have accepted : (parameterPiece first).Accepts cursor.advance.current.kind := by
        cases rest with
        | nil => exact shows.2.1
        | cons second rest => exact shows.2.1
      rw [early] at accepted
      cases first with
      | root => cases accepted
      | named name => obtain word | dollar := accepted <;> contradiction
    obtain ⟨reads, same, looped⟩ : ∃ reads, List.Forall₂ Eq parameters reads ∧
        loop parameter [] cursor.advance = .ok reads after := by
      refine loopWithin_separated Eq ?_ (by rw [closing]; rfl) (by simp [closing])
        (List.nil_append parameters).symm nonempty .nil shows (Nat.lt_succ_self _)
      intro before later next found cursor after split earlier nextShows _
      rw [List.forall₂_eq_eq_eq] at earlier
      subst earlier
      have fresh : next ∉ before := by
        rw [split] at distinct
        exact fun again => (List.nodup_append.mp distinct).2.2 _ again _ (List.mem_cons_self ..) rfl
      exact ⟨next, rfl, parameter_of_shows fresh nextShows⟩
    rw [List.forall₂_eq_eq_eq] at same
    subst same
    rw [bind_of_ok (atSymbol_of_ne noParen)]
    simp only [Bool.false_eq_true, if_false]
    rw [bind_of_ok looped, bind_of_ok (expectSymbol_of_eq closing _)]
    rfl

theorem readsBack_function (distinct : parameters.Nodup) {body : Expr}
    (back : ReadsBack redundant body) :
    ReadsBack redundant
      (.node span (.function (.node none parameters (.expression body) place))) := by
  intro depth floor cursor after bounded shows binds stops
  obtain ⟨-, (function : cursor.current.kind = .keyword .functionWord), -,
    (opening : cursor.advance.current.kind = .symbol .leftParen), rest⟩ := shows
  obtain ⟨last, parametersShow, -, (closing : last.current.kind = .symbol .rightParen), -,
    (arrow : last.advance.current.kind = .symbol .arrow), inside⟩ := Cursor.shows_append.mp rest
  have bareNesting : enclosedNesting false (body.nesting redundant) ≤ depth :=
    Nat.le_of_succ_le_succ bounded
  have barePieces : Cursor.Shows (enclosed false (body.pieces redundant)) last.advance.advance
      after := inside
  obtain ⟨value, same, reads⟩ :=
    back.expression_enclosed bareNesting barePieces (fun _ => body.form.reach_pos) stops
  have bodyRead : (FunctionBody.expression <$> (nestedTo depth).whole) last.advance.advance =
      .ok (.expression value) after := by
    have whole : (nestedTo depth).whole last.advance.advance = .ok value after := reads
    simp only [Functor.map, EStateM.map, whole]
  have read : termForm (nestedTo depth) cursor.current cursor.advance =
      .ok (.function (.node none parameters (.expression value)
        (cursor.current.span.through after.previous))) after := by
    simp only [termForm, function, functionForm]
    rw [bind_of_ok (functionParameters_of_shows distinct opening parametersShow closing),
      bind_of_ok (takeSymbol_of_eq arrow)]
    simp only [if_true]
    rw [bind_of_ok bodyRead, previousSpan_bind]
    rfl
  exact begins_of_term (by rw [function]; rfl) read (by simp [Expr.form, same])

end Lists

/-! ## All expressions -/

theorem printable_of_mem {expr : Expr} {exprs : List Expr} (printable : Expr.PrintableList exprs)
    (member : expr ∈ exprs) : expr.Printable := by
  induction member with
  | head rest => exact printable.1
  | tail first _ ih => exact ih printable.2

theorem printable_of_mem_entries {entry : String × Expr} {entries : List (String × Expr)}
    (printable : Expr.PrintableEntries entries) (member : entry ∈ entries) :
    entry.2.Printable := by
  obtain ⟨key, expr⟩ := entry
  induction member with
  | head rest => exact printable.1
  | tail first _ ih => exact ih printable.2

/-- Every printable expression can be read back. -/
theorem readsBack_of_printable {redundant : Expr → Bool} :
    ∀ expr : Expr, expr.Printable → ReadsBack redundant expr
  | .node span (.literal value), _ => readsBack_literal span value
  | .node span (.reference (.node place (.variable name))), _ => readsBack_variable span place name
  | .node span (.reference (.node place (.bare name))), _ => readsBack_bare span place name
  | .node span (.reference (.node place (.property target name))), printable =>
    readsBack_property span place name (readsBack_of_printable target printable)
  | .node span (.reference (.node place (.index target index))), ⟨ofTarget, ofIndex⟩ =>
    readsBack_index span place (readsBack_of_printable target ofTarget)
      (readsBack_of_printable index ofIndex)
  | .node span .root, _ => readsBack_root span
  | .node span (.array items), printable =>
    readsBack_array span fun item member =>
      readsBack_of_printable item (printable_of_mem printable member)
  | .node span (.object entries), ⟨distinct, printable⟩ =>
    readsBack_object span distinct fun entry member =>
      readsBack_of_printable entry.2 (printable_of_mem_entries printable member)
  | .node span (.unary op operand), printable =>
    readsBack_unary span op (readsBack_of_printable operand printable)
  | .node span (.binary op left right), ⟨ofLeft, ofRight⟩ =>
    readsBack_binary span op (readsBack_of_printable left ofLeft)
      (readsBack_of_printable right ofRight)
  | .node span (.logical op left right), ⟨ofLeft, ofRight⟩ =>
    readsBack_logical span op (readsBack_of_printable left ofLeft)
      (readsBack_of_printable right ofRight)
  | .node span (.assign target op value), ⟨ofTarget, compound, ofValue⟩ =>
    readsBack_assign span span compound
      (readsBack_of_printable (.node span (.reference target)) ofTarget)
      (readsBack_of_printable value ofValue)
  | .node span (.update target increment true), printable =>
    readsBack_leading_update span span increment
      (readsBack_of_printable (.node span (.reference target)) printable)
  | .node span (.update target increment false), printable =>
    readsBack_trailing_update span span increment
      (readsBack_of_printable (.node span (.reference target)) printable)
  | .node span (.call callee arguments), ⟨ofCallee, printable⟩ =>
    readsBack_call span (readsBack_of_printable callee ofCallee) fun argument member =>
      readsBack_of_printable argument (printable_of_mem printable member)
  | .node span (.function (.node _ _ (.expression body) place)), ⟨rfl, distinct, printable⟩ =>
    readsBack_function span place distinct (readsBack_of_printable body printable)
  | .node _ (.function (.node _ _ (.block _) _)), ⟨_, _, printable⟩ => printable.elim
  | .node span (.hasKind value kind), printable =>
    readsBack_hasKind span kind (readsBack_of_printable value printable)
  | .node span (.library name), _ => readsBack_library span name
termination_by expr => sizeOf expr
decreasing_by
  all_goals simp
  all_goals try omega
  · have smaller := List.sizeOf_lt_of_mem member
    omega
  · have smaller := List.sizeOf_lt_of_mem member
    rw [Prod.mk.sizeOf_spec] at smaller
    omega
  · obtain ⟨⟩ := value
    rw [Expr.node.sizeOf_spec]
    omega
  · have smaller := List.sizeOf_lt_of_mem member
    omega

/-- Reading is inverse to writing.  A reader that may nest as deep as a printable
expression is written takes exactly the tokens of the expression and returns it, up to
places, if the token after them continues no expression. -/
theorem expression_reads_back (redundant : Expr → Bool) {expr : Expr} (printable : expr.Printable)
    {depth : Nat} (bounded : expr.nesting redundant ≤ depth) {cursor : Cursor}
    {taken rest : List Token} (remaining : cursor.remaining = taken ++ rest)
    (spelled : List.Forall₂ Piece.Accepts (expr.pieces redundant) (taken.map Token.kind))
    (ends : ∀ next ∈ rest.head?, continuation? next.kind = none) :
    ∃ read,
      expression depth Precedence.lowest.rank cursor =
        .ok read (Cursor.advance^[taken.length] cursor) ∧
      (Cursor.advance^[taken.length] cursor).remaining = rest ∧
      read.unplaced = expr.unplaced := by
  have left : (Cursor.advance^[taken.length] cursor).remaining = rest := by
    rw [Cursor.remaining_iterate_advance, remaining, List.drop_left]
  have stops : continuation? (Cursor.advance^[taken.length] cursor).current.kind = none := by
    cases rest with
    | nil => simp [Cursor.current, left, continuation?]
    | cons next rest =>
      rw [Cursor.current_of_remaining left]
      exact ends next rfl
  obtain ⟨read, same, reads⟩ :=
    ReadsBack.whole (readsBack_of_printable expr printable) bounded
      (Cursor.shows_of_spelled remaining spelled) stops
  exact ⟨read, reads, left, same⟩

/-- The expression `$x = -(a + b) * c ** d ** e`, in which no pair of parentheses can be
left out or is missing. -/
def signedProduct : Expr :=
  let placed := Expr.node Span.nowhere
  let name := fun text => placed (.reference (.node Span.nowhere (.bare text)))
  let negated := placed (.unary .neg (placed (.binary .add (name "a") (name "b"))))
  let power := placed (.binary .pow (name "c") (placed (.binary .pow (name "d") (name "e"))))
  placed (.assign (.node Span.nowhere (.variable "x")) none (placed (.binary .mul negated power)))

/-- Its tokens. -/
def signedProductTokens : List Token :=
  [.variable "x", .symbol .assign, .symbol .minus, .symbol .leftParen, .word "a", .symbol .plus,
    .word "b", .symbol .rightParen, .symbol .star, .word "c", .symbol .starStar, .word "d",
    .symbol .starStar, .word "e"].map fun kind => { kind, span := Span.nowhere }

theorem expression_reads_back_signedProduct :
    let semicolon : Token := { kind := .symbol .semicolon, span := Span.nowhere }
    let cursor := Cursor.ofTokens (signedProductTokens ++ [semicolon])
    ∃ read,
      expression maxNesting Precedence.lowest.rank cursor = .ok read (Cursor.advance^[14] cursor) ∧
      (Cursor.advance^[14] cursor).remaining = [semicolon] ∧
      read.unplaced = signedProduct.unplaced := by
  intro semicolon cursor
  have printable : signedProduct.Printable := by
    simp [signedProduct, Expr.Printable, ExprForm.Printable, Reference.Printable,
      ReferenceForm.Printable, assignSymbol?]
  have bounded : signedProduct.nesting (fun _ => false) ≤ maxNesting := by decide
  have remaining : cursor.remaining = signedProductTokens ++ [semicolon] := rfl
  have spelled : List.Forall₂ Piece.Accepts (signedProduct.pieces fun _ => false)
      (signedProductTokens.map Token.kind) := by
    repeat first | exact .nil | refine .cons rfl ?_
  exact expression_reads_back (fun _ => false) printable bounded remaining spelled
    (by rintro next ⟨⟩; rfl)

end Grammar
end PatchScript
