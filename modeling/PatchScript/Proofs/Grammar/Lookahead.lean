import Mathlib.Logic.Function.Iterate
import PatchScript.Grammar.Program
import PatchScript.Proofs.Grammar.Printing
import PatchScript.Proofs.Syntax.Unplaced
import PatchScript.Proofs.Traversal

/-!
# Reading tokens that are known

What the readers do on a cursor whose next tokens are known.  `Cursor.Shows` says
that the next tokens are those that a list of pieces asks for, and names the cursor
after them.
-/

namespace PatchScript
namespace Grammar

variable {cursor after : Cursor}

namespace Parse

variable {α β : Type}

/-- Only what a reader does at a cursor counts for what comes after it. -/
theorem bind_congr {first second : Parse α} {next : α → Parse β}
    (same : first cursor = second cursor) : (first >>= next) cursor = (second >>= next) cursor := by
  simp only [bind, EStateM.bind, same]

end Parse

namespace Cursor

variable {pieces : List Piece}

theorem current_of_remaining {token : Token} {rest : List Token}
    (remaining : cursor.remaining = token :: rest) : cursor.current = token := by
  simp [current, remaining]

theorem remaining_advance (cursor : Cursor) : cursor.advance.remaining = cursor.remaining.tail := by
  unfold advance
  split
  · next empty => simp [empty]
  · next token rest nonempty => simp [nonempty]

/-- The next tokens are what the pieces ask for, and `after` comes after them. -/
def Shows : List Piece → Cursor → Cursor → Prop
  | [], cursor, after => after = cursor
  | piece :: pieces, cursor, after =>
    cursor.remaining ≠ [] ∧ piece.Accepts cursor.current.kind ∧ Shows pieces cursor.advance after

theorem shows_append {first second : List Piece} :
    Shows (first ++ second) cursor after ↔
      ∃ middle, Shows first cursor middle ∧ Shows second middle after := by
  induction first generalizing cursor with
  | nil => simp [Shows]
  | cons piece pieces ih => simp [Shows, ih, and_assoc]

/-- Every piece takes a token. -/
theorem Shows.length (shows : Shows pieces cursor after) :
    after.remaining.length + pieces.length = cursor.remaining.length := by
  induction pieces generalizing cursor with
  | nil =>
    simp only [Shows] at shows
    simp [shows]
  | cons piece pieces ih =>
    obtain ⟨nonempty, -, rest⟩ := shows
    have step := ih rest
    rw [remaining_advance, List.length_tail] at step
    have positive := List.length_pos_iff.mpr nonempty
    simp only [List.length_cons]
    omega

/-- After a token and some pieces fewer tokens are left. -/
theorem Shows.length_lt (shows : Shows pieces cursor.advance after)
    (nonempty : cursor.remaining ≠ []) : after.remaining.length < cursor.remaining.length := by
  have lengths := shows.length
  have positive := List.length_pos_iff.mpr nonempty
  rw [remaining_advance, List.length_tail] at lengths
  omega

/-- Pieces that a list of tokens spells are shown by a cursor before them, and the
cursor is as many tokens further after them. -/
theorem shows_of_spelled {taken rest : List Token} (remaining : cursor.remaining = taken ++ rest)
    (spelled : List.Forall₂ Piece.Accepts pieces (taken.map Token.kind)) :
    Shows pieces cursor (advance^[taken.length] cursor) := by
  induction taken generalizing pieces cursor with
  | nil =>
    cases spelled
    rfl
  | cons token taken ih =>
    cases spelled with
    | cons accepted later => ?_
    have current := current_of_remaining remaining
    refine ⟨by simp [remaining], current ▸ accepted, ?_⟩
    rw [List.length_cons, Function.iterate_succ_apply]
    exact ih (by simp [remaining_advance, remaining]) later

theorem remaining_iterate_advance (count : Nat) (cursor : Cursor) :
    (advance^[count] cursor).remaining = cursor.remaining.drop count := by
  induction count generalizing cursor with
  | zero => rfl
  | succ count ih => rw [Function.iterate_succ_apply, ih, remaining_advance, List.drop_tail]

end Cursor

/-- The cursor where a reader has returned or failed. -/
def cursorAfter {α : Type} : EStateM.Result ParseError Cursor α → Cursor
  | .ok _ after | .error _ after => after

/-- A token that stands nowhere in particular. -/
def unplacedToken (kind : TokenKind) : Token :=
  { kind, span := Span.nowhere }

/-! ## Symbols and names -/

section Tokens

variable {α : Type} {wanted : Symbol}

theorem peek_bind {next : Token → Parse α} : (peek >>= next) cursor = next cursor.current cursor :=
  rfl

theorem advance_bind {next : Token → Parse α} :
    (advance >>= next) cursor = next cursor.current cursor.advance :=
  rfl

theorem previousSpan_bind {next : Span → Parse α} :
    (previousSpan >>= next) cursor = next cursor.previous cursor :=
  rfl

theorem atSymbol_of_ne (different : cursor.current.kind ≠ .symbol wanted) :
    atSymbol wanted cursor = .ok false cursor := by
  rw [atSymbol, peek_bind]
  cases kind : cursor.current.kind with
  | symbol found =>
    have unequal : found ≠ wanted := by
      rintro rfl
      exact different kind
    simp [unequal, pure, EStateM.pure]
  | _ => rfl

theorem atSymbol_of_eq (same : cursor.current.kind = .symbol wanted) :
    atSymbol wanted cursor = .ok true cursor := by
  rw [atSymbol, peek_bind, same]
  simp [pure, EStateM.pure]

theorem takeSymbol_of_ne (different : cursor.current.kind ≠ .symbol wanted) :
    takeSymbol wanted cursor = .ok false cursor := by
  rw [takeSymbol, bind_of_ok (atSymbol_of_ne different)]
  rfl

theorem takeSymbol_of_eq (same : cursor.current.kind = .symbol wanted) :
    takeSymbol wanted cursor = .ok true cursor.advance := by
  rw [takeSymbol, bind_of_ok (atSymbol_of_eq same)]
  rfl

theorem expectSymbol_of_eq (same : cursor.current.kind = .symbol wanted) (expected : String) :
    expectSymbol wanted expected cursor = .ok () cursor.advance := by
  rw [expectSymbol, bind_of_ok (takeSymbol_of_eq same)]
  rfl

theorem expectSymbol_of_ne (different : cursor.current.kind ≠ .symbol wanted) (expected : String) :
    expectSymbol wanted expected cursor = failExpected expected cursor := by
  rw [expectSymbol, bind_of_ok (takeSymbol_of_ne different)]
  rfl

theorem takeKeyword_of_eq {wanted : Keyword} (same : cursor.current.kind = .keyword wanted) :
    takeKeyword wanted cursor = .ok true cursor.advance := by
  have found : atKeyword wanted cursor = .ok true cursor := by
    rw [atKeyword, peek_bind, same]
    simp [pure, EStateM.pure]
  rw [takeKeyword, bind_of_ok found]
  rfl

theorem takeKeyword_of_ne {wanted : Keyword} (different : cursor.current.kind ≠ .keyword wanted) :
    takeKeyword wanted cursor = .ok false cursor := by
  have missing : atKeyword wanted cursor = .ok false cursor := by
    rw [atKeyword, peek_bind]
    cases kind : cursor.current.kind with
    | keyword found =>
      have unequal : found ≠ wanted := by
        rintro rfl
        exact different kind
      simp [unequal, pure, EStateM.pure]
    | _ => rfl
  rw [takeKeyword, bind_of_ok missing]
  rfl

theorem takeKeyword_of_not_keyword (wanted : Keyword)
    (different : ∀ reserved, cursor.current.kind ≠ .keyword reserved) :
    takeKeyword wanted cursor = .ok false cursor :=
  takeKeyword_of_ne (different wanted)

theorem takeName_of_declared {name : String}
    (accepted : (Piece.declared name).Accepts cursor.current.kind) (expected : String) :
    takeName expected cursor = .ok name cursor.advance := by
  rw [takeName, advance_bind]
  obtain word | dollar := accepted
  · simp [word, pure, EStateM.pure]
  · simp [dollar, pure, EStateM.pure]

theorem propertyName?_of_accepts {name : String} {kind : TokenKind}
    (accepted : (Piece.property name).Accepts kind) : propertyName? kind = some name := by
  obtain rfl | rfl | ⟨reserved, rfl, rfl⟩ := accepted <;> rfl

end Tokens

/-! ## Loops -/

section Loops

variable {α β : Type} {turn : α → Parse (Turn α β)} {bound : Nat} {state next : α}

theorem loopWithin_done {result : β} (last : turn state cursor = .ok (.done result) after)
    (enough : 0 < bound) : loopWithin turn bound state cursor = .ok result after := by
  obtain ⟨bound, rfl⟩ := Nat.exists_eq_add_one.mpr enough
  rw [loopWithin, bind_of_ok last]
  rfl

theorem loopWithin_again (going : turn state cursor = .ok (.again next) after) :
    loopWithin turn (bound + 1) state cursor = loopWithin turn bound next after := by
  rw [loopWithin, bind_of_ok going]

/-- A loop has one turn more than there are tokens. -/
theorem loop_eq (turn : α → Parse (Turn α β)) (state : α) (cursor : Cursor) :
    loop turn state cursor = loopWithin turn (cursor.remaining.length + 1) state cursor :=
  rfl

end Loops

/-! ## Lists with commas -/

section Lists

variable {α β : Type}

/-- The end of a turn that has read one more item: a comma asks for another turn. -/
def commaTurn (found : List β) : Parse (Turn (List β) (List β)) := do
  if ← takeSymbol .comma then return .again found
  return .done found

theorem commaTurn_of_comma (comma : cursor.current.kind = .symbol .comma) (found : List β) :
    commaTurn found cursor = .ok (.again found) cursor.advance := by
  rw [commaTurn, bind_of_ok (takeSymbol_of_eq comma)]
  rfl

theorem commaTurn_of_ne (different : cursor.current.kind ≠ .symbol .comma) (found : List β) :
    commaTurn found cursor = .ok (.done found) cursor := by
  rw [commaTurn, bind_of_ok (takeSymbol_of_ne different)]
  rfl

/-- A loop whose turns read one item each reads all items of a list with commas.
A turn may rely on what the turns before it have read. -/
theorem loopWithin_separated {turn : List β → Parse (Turn (List β) (List β))}
    {write : α → List Piece} (Reads : α → β → Prop) {items : List α}
    (step : ∀ {before later : List α} {item : α} {found : List β} {cursor after : Cursor},
      items = before ++ item :: later →
      List.Forall₂ Reads before found →
      Cursor.Shows (write item) cursor after →
      continuation? after.current.kind = none →
      ∃ read, Reads item read ∧ turn found cursor = commaTurn (found ++ [read]) after)
    (ends : continuation? after.current.kind = none)
    (noComma : after.current.kind ≠ .symbol .comma)
    {before rest : List α}
    (split : items = before ++ rest)
    (nonempty : rest ≠ [])
    {found : List β}
    (earlier : List.Forall₂ Reads before found)
    (shows : Cursor.Shows (Printing.separated (rest.map write)) cursor after)
    {bound : Nat}
    (enough : cursor.remaining.length < bound) :
    ∃ reads, List.Forall₂ Reads items reads ∧
      loopWithin turn bound found cursor = .ok reads after := by
  induction rest generalizing before found cursor bound with
  | nil => exact absurd rfl nonempty
  | cons item rest ih =>
    cases rest with
    | nil =>
      obtain ⟨read, reads, turned⟩ := step split earlier shows ends
      rw [commaTurn_of_ne noComma] at turned
      refine ⟨found ++ [read], ?_, loopWithin_done turned (by omega)⟩
      rw [split]
      exact List.rel_append earlier (.cons reads .nil)
    | cons next rest =>
      obtain ⟨middle, first, nonempty, (comma : middle.current.kind = .symbol .comma),
        others⟩ := Cursor.shows_append.mp shows
      obtain ⟨read, reads, turned⟩ := step split earlier first (by rw [comma]; rfl)
      rw [commaTurn_of_comma comma] at turned
      obtain ⟨bound, rfl⟩ := Nat.exists_eq_add_one.mpr (Nat.zero_lt_of_lt enough)
      have lengths := first.length
      have shorter : middle.advance.remaining.length < bound := by
        rw [Cursor.remaining_advance, List.length_tail]
        have positive := List.length_pos_iff.mpr nonempty
        omega
      obtain ⟨all, allRead, looped⟩ :=
        ih (by rw [split, List.append_assoc]; rfl) (List.cons_ne_nil _ _)
          (List.rel_append earlier (.cons reads .nil)) others shorter
      exact ⟨all, allRead, by rw [loopWithin_again turned, looped]⟩

end Lists

/-! ## Programs -/

section Programs

variable {statements : List Statement}

section

variable (rules : TagRules) (noTag : cursor.current.kind ≠ .symbol .atSign)
include noTag

/-- Without a tag there is no header. -/
theorem headerTurn_of_ne (tags : OrderedMap Json) :
    headerTurn rules tags cursor = .ok (.done tags) cursor := by
  show (atSymbol .atSign >>= _) cursor = _
  rw [bind_of_ok (atSymbol_of_ne noTag)]
  cases cursor.aborted <;> rfl

theorem program_of_noTag :
    program rules cursor =
      (loop statementTurn [] >>= fun statements =>
        pure { metadata := .empty, statements }) cursor := by
  have header : loop (headerTurn rules) .empty cursor = .ok .empty cursor :=
    loopWithin_done (headerTurn_of_ne rules noTag _) (Nat.succ_pos _)
  rw [program, bind_of_ok header]

end

/-- No statement is read after the end, or once reading was given up. -/
theorem statementTurn_of_stopped (stopped : (cursor.aborted || cursor.atEnd) = true) :
    statementTurn statements cursor = .ok (.done statements) cursor := by
  have run : statementTurn statements cursor =
    (if (cursor.aborted || cursor.atEnd) = true then _ else _ : Parse _) cursor := rfl
  rw [run, if_pos stopped]
  rfl

theorem statementTurn_of_some (goesOn : (cursor.aborted || cursor.atEnd) = false) {read : Statement}
    (recovering : recoveringStatement (nestedTo maxNesting) false cursor = .ok (some read) after) :
    statementTurn statements cursor = .ok (.again (statements ++ [read])) after := by
  have run : statementTurn statements cursor =
    (if (cursor.aborted || cursor.atEnd) = true then _ else _ : Parse _) cursor := rfl
  rw [run, goesOn, if_neg Bool.false_ne_true, bind_of_ok recovering]
  rfl

theorem statementTurn_of_none (goesOn : (cursor.aborted || cursor.atEnd) = false)
    (recovering : recoveringStatement (nestedTo maxNesting) false cursor = .ok none after) :
    statementTurn statements cursor = .ok (.done statements) after := by
  have run : statementTurn statements cursor =
    (if (cursor.aborted || cursor.atEnd) = true then _ else _ : Parse _) cursor := rfl
  rw [run, goesOn, if_neg Bool.false_ne_true, bind_of_ok recovering]
  rfl

/-- A statement that fails leaves a placeholder, unless the source ended in it. -/
theorem recoveringStatement_of_error {fault : ParseError}
    (fails : statement maxNesting false cursor = .error fault after)
    (goesOn : (after.recover fault cursor.remaining.length).aborted = false) :
    ∃ placeholder, recoveringStatement (nestedTo maxNesting) false cursor =
      .ok (some placeholder) (after.recover fault cursor.remaining.length) := by
  simp [recoveringStatement, nestedTo, fails, goesOn]

variable (rules : TagRules) {tokens : List Token} {read : Statement}
variable (nonempty : (Cursor.ofTokens tokens).remaining ≠ [])
variable (noTag : (Cursor.ofTokens tokens).current.kind ≠ .symbol .atSign)
include nonempty noTag

/-- A program of one statement that takes all tokens, be it read or skipped. -/
theorem programOfTokens_of_recovering
    (recovering : recoveringStatement (nestedTo maxNesting) false (Cursor.ofTokens tokens) = .ok (some read) after)
    (all : after.remaining = []) :
    programOfTokens rules tokens =
      if after.errors.isEmpty then .ok { metadata := .empty, statements := [read] }
      else .error after.errors := by
  set cursor := Cursor.ofTokens tokens with start
  have goesOn : (cursor.aborted || cursor.atEnd) = false := List.isEmpty_eq_false_iff.mpr nonempty
  have stopped : (after.aborted || after.atEnd) = true := by
    rw [Cursor.atEnd, all]
    exact Bool.or_true _
  have statements : loop statementTurn [] cursor = .ok [read] after := by
    rw [loop_eq, loopWithin_again (statementTurn_of_some goesOn recovering)]
    exact loopWithin_done (statementTurn_of_stopped stopped) (List.length_pos_iff.mpr nonempty)
  have whole : program rules cursor = .ok { metadata := .empty, statements := [read] } after := by
    rw [program_of_noTag rules noTag, bind_of_ok statements]
    rfl
  simp only [programOfTokens, ← start, whole]

theorem programOfTokens_of_statement
    (reads : statement maxNesting false (Cursor.ofTokens tokens) = .ok read after)
    (all : after.remaining = []) (none : after.errors = []) :
    programOfTokens rules tokens = .ok { metadata := .empty, statements := [read] } := by
  have recovering : recoveringStatement (nestedTo maxNesting) false (Cursor.ofTokens tokens) =
      .ok (some read) after := by
    simp only [recoveringStatement, nestedTo, reads]
  rw [programOfTokens_of_recovering rules nonempty noTag recovering all, none]
  rfl

end Programs

end Grammar
end PatchScript
