import PatchScript.Proofs.Grammar.Lookahead

/-!
# What readers leave alone

Readers look at the tokens that are left and at nothing that was recorded before: with other
errors on record they return the same, fail with the same error and record the same errors.
They only ever move on, and never past the end of the source.
-/

namespace PatchScript
namespace Grammar

variable {α β : Type}

/-- The same cursor after some other errors were recorded. -/
def Cursor.since (cursor : Cursor) (recorded : List ParseError) : Cursor :=
  { cursor with errors := recorded ++ cursor.errors }

/-- The same outcome after some other errors were recorded. -/
def outcomeSince (recorded : List ParseError) :
    EStateM.Result ParseError Cursor α → EStateM.Result ParseError Cursor α
  | .ok value after => .ok value (after.since recorded)
  | .error error after => .error error (after.since recorded)

/-- Where a cursor stands, without what was found out. -/
def Cursor.place (cursor : Cursor) : Cursor :=
  { cursor with errors := [], aborted := false }

/-- A cursor has come to where it stands by taking tokens. -/
def Cursor.Moves (cursor after : Cursor) : Prop :=
  ∃ count, after.place = Cursor.advance^[count] cursor.place

/-- A reader moves on by taking tokens, and disregards the errors on record. -/
structure Steady (reader : Parse α) : Prop where
  /-- Other errors on record make no difference. -/
  since : ∀ cursor recorded, reader (cursor.since recorded) = outcomeSince recorded (reader cursor)
  /-- Nothing but tokens is taken. -/
  moves : ∀ cursor, Cursor.Moves cursor (cursorAfter (reader cursor))

/-! ## Moving on -/

namespace Cursor

theorem place_advance (cursor : Cursor) : cursor.advance.place = cursor.place.advance := by
  obtain ⟨remaining, endSpan, previous, errors, aborted⟩ := cursor
  cases remaining <;> rfl

theorem endSpan_advance (cursor : Cursor) : cursor.advance.endSpan = cursor.endSpan := by
  unfold advance
  split <;> rfl

theorem errors_advance (cursor : Cursor) : cursor.advance.errors = cursor.errors := by
  unfold advance
  split <;> rfl

theorem remaining_ne_nil {cursor : Cursor} {kind : TokenKind} (found : cursor.current.kind = kind)
    (noEnd : kind ≠ .endOfFile) : cursor.remaining ≠ [] := by
  intro empty
  rw [current, empty] at found
  exact noEnd found.symm

/-- A cursor that stands at the same place has not moved. -/
theorem Moves.of_place {cursor after : Cursor} (same : after.place = cursor.place) :
    cursor.Moves after :=
  ⟨0, same⟩

theorem Moves.refl (cursor : Cursor) : cursor.Moves cursor := .of_place rfl

theorem Moves.trans {cursor middle after : Cursor} (first : cursor.Moves middle)
    (second : middle.Moves after) : cursor.Moves after := by
  obtain ⟨count, place⟩ := first
  obtain ⟨count', place'⟩ := second
  refine ⟨count' + count, ?_⟩
  rw [place', place, Function.iterate_add_apply]

theorem moves_advance (cursor : Cursor) : cursor.Moves cursor.advance := ⟨1, cursor.place_advance⟩

theorem endSpan_iterate_advance (count : Nat) (cursor : Cursor) :
    (advance^[count] cursor).endSpan = cursor.endSpan := by
  induction count generalizing cursor with
  | zero => rfl
  | succ count ih => rw [Function.iterate_succ_apply, ih, endSpan_advance]

variable {cursor after : Cursor} (moves : cursor.Moves after)
include moves

/-- What is left is an end of what was left before. -/
theorem Moves.suffix : after.remaining <:+ cursor.remaining := by
  obtain ⟨count, place⟩ := moves
  have left : after.remaining = cursor.remaining.drop count :=
    (congrArg remaining place).trans (remaining_iterate_advance count cursor.place)
  rw [left]
  exact List.drop_suffix count _

/-- The source ends where it did. -/
theorem Moves.endSpan : after.endSpan = cursor.endSpan := by
  obtain ⟨count, place⟩ := moves
  exact (congrArg Cursor.endSpan place).trans (endSpan_iterate_advance count cursor.place)

end Cursor

namespace Steady

theorem pure (value : α) : Steady (Pure.pure value : Parse α) where
  since _ _ := rfl
  moves := Cursor.Moves.refl

theorem bind {reader : Parse α} {next : α → Parse β} (first : Steady reader)
    (second : ∀ value, Steady (next value)) : Steady (reader >>= next) where
  since cursor recorded := by
    simp only [Bind.bind, EStateM.bind, first.since]
    cases reader cursor with
    | ok value middle => exact (second value).since middle recorded
    | error error middle => rfl
  moves cursor := by
    have moved := first.moves cursor
    simp only [Bind.bind, EStateM.bind]
    cases result : reader cursor with
    | ok value middle =>
      rw [result] at moved
      exact moved.trans ((second value).moves middle)
    | error error middle =>
      rw [result] at moved
      exact moved

theorem ite {condition : Prop} [Decidable condition] {first second : Parse α}
    (whenTrue : Steady first) (whenFalse : Steady second) :
    Steady (if condition then first else second) := by
  split
  · exact whenTrue
  · exact whenFalse

/-- A reader may look at the cursor, but not at what is on record. -/
theorem look {next : Cursor → Parse β}
    (blind : ∀ cursor recorded, next (cursor.since recorded) = next cursor)
    (steady : ∀ cursor, Steady (next cursor)) : Steady (get >>= next) where
  since cursor recorded := by
    show next (cursor.since recorded) (cursor.since recorded) = _
    rw [blind]
    exact (steady cursor).since cursor recorded
  moves cursor := (steady cursor).moves cursor

/-- Where no error is recorded in the end, there was none before. -/
theorem errors_eq_nil {reader : Parse α} (steady : Steady reader) {cursor : Cursor}
    (none : (cursorAfter (reader cursor)).errors = []) : cursor.errors = [] := by
  have since := steady.since { cursor with errors := [] } cursor.errors
  rw [Cursor.since, List.append_nil] at since
  rw [since] at none
  cases result : reader { cursor with errors := [] } <;> rw [result] at none <;>
    exact (List.append_eq_nil_iff.mp none).1

end Steady

/-! ## Tokens -/

theorem Cursor.since_advance (cursor : Cursor) (recorded : List ParseError) :
    (cursor.since recorded).advance = cursor.advance.since recorded := by
  obtain ⟨remaining, endSpan, previous, errors, aborted⟩ := cursor
  cases remaining <;> rfl

theorem steady_failAt (message : String) (span : Span) :
    Steady (failAt message span : Parse α) where
  since _ _ := rfl
  moves := Cursor.Moves.refl

theorem steady_peek : Steady peek := .look (fun _ _ => rfl) fun _ => .pure _

theorem steady_previousSpan : Steady previousSpan := .look (fun _ _ => rfl) fun _ => .pure _

theorem steady_advance : Steady advance where
  since cursor recorded :=
    congrArg (EStateM.Result.ok cursor.current) (cursor.since_advance recorded)
  moves := Cursor.moves_advance

theorem steady_failHere (message : String) : Steady (failHere message : Parse α) :=
  steady_peek.bind fun _ => steady_failAt _ _

theorem steady_atSymbol (symbol : Symbol) : Steady (atSymbol symbol) := by
  refine steady_peek.bind fun token => ?_
  split <;> exact .pure _

theorem steady_atKeyword (keyword : Keyword) : Steady (atKeyword keyword) := by
  refine steady_peek.bind fun token => ?_
  split <;> exact .pure _

theorem steady_takeSymbol (symbol : Symbol) : Steady (takeSymbol symbol) :=
  (steady_atSymbol symbol).bind fun _ => .ite (steady_advance.bind fun _ => .pure _) (.pure _)

theorem steady_takeKeyword (keyword : Keyword) : Steady (takeKeyword keyword) :=
  (steady_atKeyword keyword).bind fun _ => .ite (steady_advance.bind fun _ => .pure _) (.pure _)

/-! ## Loops -/

theorem steady_loopWithin {turn : α → Parse (Turn α β)} (step : ∀ state, Steady (turn state))
    (bound : Nat) (state : α) : Steady (loopWithin turn bound state) := by
  induction bound generalizing state with
  | zero => exact steady_failHere _
  | succ bound ih =>
    refine (step state).bind fun decided => ?_
    cases decided with
    | again next => exact ih next
    | done result => exact .pure result

theorem steady_loop {turn : α → Parse (Turn α β)} (step : ∀ state, Steady (turn state))
    (state : α) : Steady (loop turn state) :=
  .look (fun _ _ => rfl) fun _ => steady_loopWithin step _ state

/-! ## Recovery -/

/-- Tokens of a faulty statement are skipped one by one. -/
theorem exists_iterate_skipFaulty (depth : Nat) (cursor : Cursor) :
    ∃ count,
      { cursor with
        previous := (skipFaulty depth cursor.previous cursor.remaining).1
        remaining := (skipFaulty depth cursor.previous cursor.remaining).2 } =
      Cursor.advance^[count] cursor := by
  obtain ⟨remaining, endSpan, previous, errors, aborted⟩ := cursor
  induction remaining generalizing depth previous with
  | nil => exact ⟨0, rfl⟩
  | cons token rest ih =>
    have skipped (depth : Nat) : ∃ count,
        { remaining := (skipFaulty depth token.span rest).2
          endSpan, previous := (skipFaulty depth token.span rest).1, errors, aborted } =
        Cursor.advance^[count]
          { remaining := token :: rest, endSpan, previous, errors, aborted } := by
      obtain ⟨count, place⟩ := ih depth token.span
      exact ⟨count + 1, place⟩
    simp only [skipFaulty]
    split
    · split
      · exact ⟨1, rfl⟩
      · exact skipped depth
    · exact skipped (depth + 1)
    · split
      · exact ⟨0, rfl⟩
      · split
        · exact ⟨1, rfl⟩
        · exact skipped (depth - 1)
    · exact skipped depth

namespace Cursor

section Recover

variable (cursor : Cursor) (error : ParseError) (startLength : Nat) (recorded : List ParseError)

theorem since_synchronize :
    (cursor.since recorded).synchronize startLength =
      (cursor.synchronize startLength).since recorded := by
  simp only [synchronize]
  rw [apply_ite fun after : Cursor => after.since recorded]
  let skipped := skipFaulty 0 cursor.previous cursor.remaining
  exact if_congr Iff.rfl
    (since_advance { cursor with remaining := skipped.2, previous := skipped.1 } recorded) rfl

theorem since_recover :
    (cursor.since recorded).recover error startLength =
      (cursor.recover error startLength).since recorded := by
  have record : { cursor.since recorded with errors := (cursor.since recorded).errors ++ [error] } =
      { cursor with errors := cursor.errors ++ [error] }.since recorded := by
    simp only [since, List.append_assoc]
  unfold recover
  dsimp only
  rw [apply_ite fun after : Cursor => after.since recorded,
    apply_ite fun after : Cursor => after.since recorded, record]
  refine if_congr Iff.rfl rfl (if_congr Iff.rfl ?_ (since_synchronize _ startLength recorded))
  simp only [since, List.append_assoc]

theorem errors_synchronize : (cursor.synchronize startLength).errors = cursor.errors := by
  unfold synchronize
  split
  dsimp only
  split
  · exact errors_advance _
  · rfl

theorem moves_synchronize : cursor.Moves (cursor.synchronize startLength) := by
  obtain ⟨count, skipped⟩ := exists_iterate_skipFaulty 0 cursor.place
  have moved : cursor.Moves
      { cursor with
        previous := (skipFaulty 0 cursor.previous cursor.remaining).1
        remaining := (skipFaulty 0 cursor.previous cursor.remaining).2 } :=
    ⟨count, skipped⟩
  simp only [synchronize]
  split
  · exact moved.trans (moves_advance _)
  · exact moved

theorem moves_recover : cursor.Moves (cursor.recover error startLength) := by
  unfold recover
  split
  · exact .refl cursor
  · dsimp only
    split
    · exact .of_place rfl
    · exact moves_synchronize { cursor with errors := cursor.errors ++ [error] } startLength

end Recover

end Cursor

theorem steady_recoveringStatement {nested : Nested} {inLoop : Bool}
    (steady : Steady (nested.statement inLoop)) : Steady (recoveringStatement nested inLoop) where
  since cursor recorded := by
    simp only [recoveringStatement, steady.since]
    cases nested.statement inLoop cursor with
    | ok statement after => rfl
    | error error after =>
      simp only [outcomeSince]
      rw [show (cursor.since recorded).remaining = cursor.remaining from rfl, Cursor.since_recover]
      have sameFlag : ((after.recover error cursor.remaining.length).since recorded).aborted =
          (after.recover error cursor.remaining.length).aborted := rfl
      rw [sameFlag]
      split <;> rfl
  moves cursor := by
    have moved := steady.moves cursor
    simp only [recoveringStatement]
    cases result : nested.statement inLoop cursor with
    | ok statement after =>
      rw [result] at moved
      exact moved
    | error error after =>
      rw [result] at moved
      have recovered := moved.trans (after.moves_recover error cursor.remaining.length)
      dsimp only
      split <;> exact recovered

theorem steady_recoveringTag {rules : TagRules} {tags : OrderedMap Json}
    (steady : Steady (headerTag rules tags)) : Steady (recoveringTag rules tags) where
  since cursor recorded := by
    simp only [recoveringTag, Cursor.since_advance, steady.since]
    cases headerTag rules tags cursor.advance with
    | ok extended after => rfl
    | error error after =>
      exact congrArg (EStateM.Result.ok tags) (after.since_recover error _ recorded)
  moves cursor := by
    have moved := cursor.moves_advance.trans (steady.moves cursor.advance)
    simp only [recoveringTag]
    cases result : headerTag rules tags cursor.advance with
    | ok extended after =>
      rw [result] at moved
      exact moved
    | error error after =>
      rw [result] at moved
      exact moved.trans (after.moves_recover error _)

end Grammar
end PatchScript
