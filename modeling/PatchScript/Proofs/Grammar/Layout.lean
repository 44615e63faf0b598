import PatchScript.Proofs.Containers
import PatchScript.Proofs.Grammar.Counterpart

/-!
# Layout

Two source texts that are cut into tokens of the same kinds mean the same, wherever the
tokens stand: both are rejected with the same messages, or both are read as the same
program up to places.
-/

namespace PatchScript

/-- A program without its places. -/
def Program.unplaced (program : Program) : Program :=
  { program with statements := Statement.unplacedList program.statements }

namespace Grammar

open Pairing

/-! ## Constants -/

namespace Counterpart

variable {sources : Counterpart} (anywhere : ∀ span span', sources.place span span')

theorem turns_constantPart {α : Type} {part : List α → Parse α}
    (reads : ∀ found, sources.pairing.ReadsAlike Eq (part found)) (closing : Symbol)
    (expected : String) (whole : List α → Json) (found : List α) :
    sources.pairing.TurnsAlike Eq Eq (constantPart closing expected part whole found) := by
  apply (reads_takeSymbol trivial).bind
  rintro closed _ rfl
  refine .ite (fun _ => .done rfl) (fun _ => ?_)
  apply (reads found).bind
  rintro next _ rfl
  exact turns_unlessComma rfl ((reads_expectSymbol trivial _).bind fun _ => .done rfl)

theorem reads_takeConstantKey :
    sources.pairing.ReadsAlike (fun left right => left.1 = right.1 ∧ sources.place left.2 right.2)
      takeConstantKey := by
  apply runs_taken fun _ _ => ⟨_, rfl, rfl⟩
  rintro ⟨kind, span⟩ ⟨_, span'⟩ ⟨rfl, placed⟩
  dsimp only
  split
  · exact .pure ⟨rfl, placed⟩
  · exact .pure ⟨rfl, placed⟩
  · exact runs_failAt _ placed

theorem reads_constantEntry {nested : Parse Json} (reads : sources.pairing.ReadsAlike Eq nested)
    (members : List (String × Json)) :
    sources.pairing.ReadsAlike Eq (constantEntry nested members) := by
  apply reads_takeConstantKey.bind
  rintro ⟨key, span⟩ ⟨_, span'⟩ ⟨rfl, placed⟩
  apply (reads_expectSymbol trivial _).bind
  rintro - - -
  apply reads.bind
  rintro value _ rfl
  exact runs_unless placed (.pure rfl)

include anywhere

theorem reads_constantForm {nested : Parse Json} (reads : sources.pairing.ReadsAlike Eq nested) :
    sources.pairing.ReadsAlike Eq (constantForm nested) := by
  apply reads_advance.bind
  rintro ⟨kind, span⟩ ⟨_, span'⟩ ⟨rfl, placed⟩
  dsimp only
  split
  · exact .pure rfl
  · apply reads_advance.bind
    rintro ⟨kind, span⟩ ⟨_, span'⟩ ⟨rfl, placed⟩
    dsimp only
    split
    · exact .pure rfl
    · exact reads_previousSpan.bind fun _ => runs_failAt _ (anywhere _ _)
  · exact .pure rfl
  · exact .pure rfl
  · exact .pure rfl
  · exact .pure rfl
  · exact .pure rfl
  · refine reads_loop ?_ rfl
    rintro items _ rfl
    exact turns_constantPart (fun _ => reads) _ _ _ items
  · refine reads_loop ?_ rfl
    rintro members _ rfl
    exact turns_constantPart (reads_constantEntry reads) _ _ _ members
  · exact runs_failAt _ placed

theorem reads_constant (depth : Nat) : sources.pairing.ReadsAlike Eq (constant depth) := by
  induction depth with
  | zero => exact runs_failHere _
  | succ depth ih => exact reads_constantForm anywhere ih

/-! ## Tags -/

theorem reads_tagRule (rule : TagRule) : sources.pairing.ReadsAlike Eq rule.read := by
  cases rule with
  | anyConstant => exact reads_constant anywhere maxNesting
  | version =>
    apply reads_advance.bind
    rintro ⟨kind, span⟩ ⟨_, span'⟩ ⟨rfl, placed⟩
    dsimp only
    split
    · exact .ite (fun _ => .pure rfl) (fun _ => runs_failAt _ placed)
    · exact runs_failAt _ placed

section

variable (rules : TagRules) (tags : OrderedMap Json)

theorem reads_headerTag : sources.pairing.ReadsAlike Eq (headerTag rules tags) := by
  apply reads_advance.bind
  rintro ⟨kind, span⟩ ⟨_, span'⟩ ⟨rfl, placed⟩
  dsimp only
  split
  · next key =>
    cases rules.lookup key with
    | none => exact runs_failAt _ placed
    | some rule =>
      have rest : sources.pairing.ReadsAlike Eq
          (rule.read >>= fun value =>
            expectSymbol .semicolon "';' after metadata value" >>= fun _ =>
              pure (tags.insert key value)) := by
        apply (reads_tagRule anywhere rule).bind
        rintro value _ rfl
        exact (reads_expectSymbol trivial _).bind fun _ => .pure rfl
      exact .ite (fun _ => runs_failing _ placed) (fun _ => rest)
  · exact runs_failAt _ placed

/-- A tag is read, or recorded as faulty, alike. -/
theorem outcome_recoveringTag {cursor cursor' : Cursor} (alike : sources.Cursors cursor cursor')
    (present : cursor.current.kind ≠ .endOfFile) :
    sources.pairing.Outcome (fun _ => False) Eq (fun _ => 1) cursor.remaining.length
      (recoveringTag rules tags cursor) (recoveringTag rules tags cursor') := by
  have shorter := length_advance_lt present
  have outcome := (reads_headerTag anywhere rules tags).outcome alike.advance
  simp only [recoveringTag, ← List.Forall₂.length_eq alike.tokens]
  generalize headerTag rules tags cursor.advance = first,
    headerTag rules tags cursor'.advance = second at outcome
  cases outcome with
  | ok goes =>
    obtain ⟨rfl, alikeAfter, le⟩ := goes
    exact .ok ⟨rfl, alikeAfter, Nat.lt_of_le_of_lt le shorter⟩
  | ended closed => exact closed.elim
  | error same alikeAfter le =>
    exact .ok ⟨rfl, Cursors.recover alikeAfter same _,
      Nat.lt_of_le_of_lt (Nat.le_trans (Cursor.moves_recover ..).suffix.length_le le) shorter⟩

theorem turns_headerTurn : sources.pairing.TurnsAlike Eq Eq (headerTurn rules tags) := by
  constructor
  intro cursor cursor' alike
  have sameKind := alike.current.1
  unfold headerTurn
  rw [bind_of_ok (rfl : (get : Parse Cursor) cursor = .ok cursor cursor),
    bind_of_ok (rfl : (get : Parse Cursor) cursor' = .ok cursor' cursor')]
  by_cases atTag : cursor.current.kind = .symbol .atSign
  · rw [bind_of_ok (atSymbol_of_eq atTag), bind_of_ok (atSymbol_of_eq (sameKind ▸ atTag)),
      ← alike.aborted]
    by_cases gaveUp : cursor.aborted = true
    · rw [gaveUp]
      exact .ok ⟨.done rfl, alike, Nat.le_refl _⟩
    · rw [eq_false_of_ne_true gaveUp]
      refine (outcome_recoveringTag anywhere rules tags alike (atTag ▸ nofun)).bind
        (fun goes => ?_) fun _ => False.elim
      exact .ok ⟨.again goes.related, goes.near, goes.shorter⟩
  · rw [bind_of_ok (atSymbol_of_ne atTag), bind_of_ok (atSymbol_of_ne (sameKind ▸ atTag)),
      ← alike.aborted, Bool.not_false, Bool.or_true]
    exact .ok ⟨.done rfl, alike, Nat.le_refl _⟩

end

/-! ## Programs -/

/-- Programs are read alike. -/
theorem reads_program (rules : TagRules) :
    sources.pairing.ReadsAlike (fun first second => first.unplaced = second.unplaced)
      (program rules) := by
  have header : sources.pairing.ReadsAlike Eq (loop (headerTurn rules) OrderedMap.empty) := by
    refine reads_loop ?_ rfl
    rintro tags _ rfl
    exact turns_headerTurn anywhere rules tags
  have statements : sources.pairing.ReadsAlike Statement.SameList (loop statementTurn []) :=
    reads_loop (fun same => turns_statementTurn (fun listed last => listed.concat last) same) rfl
  apply header.bind
  rintro tags _ rfl
  exact statements.bind fun same => .pure (by simp only [Program.unplaced, same])

end Counterpart

/-- Sources whose tokens may stand anywhere. -/
def Counterpart.anywhere (total : Nat) : Counterpart where
  place _ _ := True
  recorded := []
  recorded' := []
  total := total
  through _ _ := trivial

section

variable {tokens tokens' : List Token} (same : tokens.map Token.kind = tokens'.map Token.kind)
include same

theorem tokens_takeWhile {total : Nat} :
    (Counterpart.anywhere total).Tokens (tokens.takeWhile fun token => !Cursor.isEndMark token)
      (tokens'.takeWhile fun token => !Cursor.isEndMark token) := by
  induction tokens generalizing tokens' with
  | nil =>
    cases List.map_eq_nil_iff.mp same.symm
    exact .nil
  | cons token rest ih =>
    obtain ⟨token', rest', rfl, sameKind, sameRest⟩ := List.map_eq_cons_iff.mp same.symm
    have sameMark : Cursor.isEndMark token' = Cursor.isEndMark token := by
      rw [Cursor.isEndMark, Cursor.isEndMark, sameKind]
    rw [List.takeWhile_cons, List.takeWhile_cons, sameMark]
    split
    · exact .cons ⟨sameKind.symm, trivial⟩ (ih sameRest.symm)
    · exact .nil

/-- Cursors before the first of tokens of the same kinds. -/
theorem cursors_ofTokens :
    (Counterpart.anywhere tokens.length).Cursors (Cursor.ofTokens tokens)
      (Cursor.ofTokens tokens') where
  tokens := tokens_takeWhile same
  endSpan := trivial
  le_total := (List.takeWhile_sublist _).length_le
  previous _ := trivial
  errors := ⟨[], [], rfl, rfl, .nil⟩
  aborted := rfl

end

/-- How two sources are read alike. -/
inductive ReadAlike :
    Except (List ParseError) Program → Except (List ParseError) Program → Prop where
  | rejected {errors errors' : List ParseError} :
    errors.map ParseError.message = errors'.map ParseError.message →
    ReadAlike (.error errors) (.error errors')
  | accepted {program program' : Program} :
    program.unplaced = program'.unplaced → ReadAlike (.ok program) (.ok program')

theorem Counterpart.Errors.messages_eq {sources : Counterpart} {errors errors' : List ParseError}
    (same : sources.Errors errors errors') :
    errors.map ParseError.message = errors'.map ParseError.message :=
  forall₂_map_eq same fun _ _ messages => messages.1

/-- Tokens of the same kinds are read alike, wherever they stand. -/
theorem readAlike_programOfTokens (rules : TagRules) {tokens tokens' : List Token}
    (same : tokens.map Token.kind = tokens'.map Token.kind) :
    ReadAlike (programOfTokens rules tokens) (programOfTokens rules tokens') := by
  have outcome := (Counterpart.reads_program (fun _ _ => trivial) rules).outcome
    (cursors_ofTokens same)
  unfold programOfTokens
  generalize program rules (Cursor.ofTokens tokens) = result,
    program rules (Cursor.ofTokens tokens') = result' at outcome
  cases outcome with
  | ok goes =>
    obtain ⟨samePrograms, alike, _⟩ := goes
    obtain ⟨found, found', first, second, errors⟩ := alike.errors
    dsimp only
    rw [first, second]
    cases errors with
    | nil => exact .accepted samePrograms
    | cons head rest => exact .rejected (Counterpart.Errors.messages_eq (.cons head rest))
  | ended closed => exact closed.elim
  | error sameError alike _ =>
    obtain ⟨found, found', first, second, errors⟩ := alike.errors
    dsimp only
    rw [first, second]
    refine .rejected ?_
    have recorded := errors.messages_eq
    simp only [Counterpart.anywhere, List.nil_append, List.map_append, recorded, List.map_cons,
      sameError.message]

end Grammar
end PatchScript
