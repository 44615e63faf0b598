import Mathlib.Data.List.TakeWhile
import PatchScript.Proofs.Grammar.Layout
import PatchScript.Proofs.Grammar.Memoryless

/-!
# Progress

Reading always ends.  A turn of a loop that goes on has taken a token, so loops are ended by
their turns and never by their bound, and every statement that is read or skipped takes a
token.  The statements of a program are read as if each were the first one: from any of them
on, the rest of the program is what a fresh reader finds in the tokens that are left.
-/

namespace PatchScript
namespace Grammar

variable {α β : Type} {cursor after : Cursor} (rules : TagRules) (tags : OrderedMap Json)

/-! ## Loops -/

/-- How a loop ends that may take any number of turns. -/
inductive Ends (turn : α → Parse (Turn α β)) :
    α → Cursor → EStateM.Result ParseError Cursor β → Prop
  | done {state cursor value after} :
    turn state cursor = .ok (.done value) after → Ends turn state cursor (.ok value after)
  | failed {state cursor error after} :
    turn state cursor = .error error after → Ends turn state cursor (.error error after)
  | again {state cursor next middle result} :
    turn state cursor = .ok (.again next) middle → Ends turn next middle result →
    Ends turn state cursor result

/-- The states and cursors that a loop comes to. -/
inductive Reaches (turn : α → Parse (Turn α β)) (state : α) (cursor : Cursor) : α → Cursor → Prop
  | start : Reaches turn state cursor state cursor
  | again {next middle later after} :
    Reaches turn state cursor next middle → turn next middle = .ok (.again later) after →
    Reaches turn state cursor later after

/-- A turn that goes on has taken a token. -/
def Advances (turn : α → Parse (Turn α β)) : Prop :=
  ∀ {state : α} {cursor : Cursor} {next : α} {after : Cursor},
    turn state cursor = .ok (.again next) after →
    after.remaining.length < cursor.remaining.length

/-- A loop is ended by its turns, and never by its bound. -/
def EndsByTurns (turn : α → Parse (Turn α β)) : Prop :=
  ∀ (state : α) (cursor : Cursor), Ends turn state cursor (loop turn state cursor)

section Loops

variable {turn : α → Parse (Turn α β)} {result : EStateM.Result ParseError Cursor β} {state : α}

theorem Advances.ends_loopWithin (advances : Advances turn) {bound : Nat}
    (enough : cursor.remaining.length < bound) :
    Ends turn state cursor (loopWithin turn bound state cursor) := by
  induction bound generalizing state cursor with
  | zero => exact absurd enough (Nat.not_lt_zero _)
  | succ bound ih =>
    cases decided : turn state cursor with
    | ok decision after =>
      cases decision with
      | done value =>
        rw [loopWithin_done decided (Nat.succ_pos _)]
        exact .done decided
      | again next =>
        have shorter := advances decided
        rw [loopWithin_again decided]
        apply Ends.again decided
        apply ih
        omega
    | error error after =>
      have fails : loopWithin turn (bound + 1) state cursor = .error error after := by
        simp only [loopWithin, Bind.bind, EStateM.bind, decided]
      rw [fails]
      exact .failed decided

theorem Advances.endsByTurns (advances : Advances turn) : EndsByTurns turn :=
  fun _ _ => advances.ends_loopWithin (Nat.lt_succ_self _)

/-- A loop goes on as its first turn decides. -/
theorem Ends.inv (ends : Ends turn state cursor result) :
    match turn state cursor with
    | .ok (.done value) after => result = .ok value after
    | .ok (.again next) after => Ends turn next after result
    | .error error after => result = .error error after := by
  cases ends with
  | done decided => rw [decided]
  | failed decided => rw [decided]
  | again decided ends =>
    rw [decided]
    exact ends

/-- A loop ends in one way only. -/
theorem Ends.unique {first second : EStateM.Result ParseError Cursor β}
    (ends : Ends turn state cursor first) (ends' : Ends turn state cursor second) :
    first = second := by
  have inv := ends'.inv
  induction ends with
  | done decided | failed decided =>
    rw [decided] at inv
    exact inv.symm
  | again decided _ ih =>
    rw [decided] at inv
    exact ih inv inv.inv

/-- A loop ends as it does from any state that it comes to. -/
theorem Reaches.ends_iff {later : α} (reaches : Reaches turn state cursor later after) :
    Ends turn later after result ↔ Ends turn state cursor result := by
  induction reaches with
  | start => rfl
  | again _ decided ih =>
    rw [← ih]
    constructor
    · exact .again decided
    · intro ends
      have inv := ends.inv
      rw [decided] at inv
      exact inv

/-- A loop whose turns never fail does not fail. -/
theorem Ends.exists_ok
    (decides : ∀ state cursor, ∃ decision after, turn state cursor = .ok decision after)
    (ends : Ends turn state cursor result) : ∃ value after, result = .ok value after := by
  induction ends with
  | done => exact ⟨_, _, rfl⟩
  | @failed state cursor error after decided =>
    obtain ⟨decision, after', decided'⟩ := decides state cursor
    rw [decided] at decided'
    cases decided'
  | again _ _ ih => exact ih

theorem Reaches.moves (steady : ∀ state, Steady (turn state)) {later : α}
    (reaches : Reaches turn state cursor later after) : cursor.Moves after := by
  induction reaches with
  | start => exact .refl cursor
  | @again next middle later after _ decided ih =>
    have moved := (steady next).moves middle
    rw [decided] at moved
    exact ih.trans moved

/-- A loop has no memory if its first turn is the same behind another token, or ends it. -/
theorem memoryless_loop (steady : ∀ state, Steady (turn state))
    (first : ∀ cursor span, turn state (cursor.behind span) = turn state cursor ∨
      ∃ value after, turn state cursor = .ok (.done value) after ∧
        turn state (cursor.behind span) = .ok (.done value) (after.behind span)) :
    Memoryless (loop turn state) := by
  refine memoryless_of_steady (steady_loop steady state) fun cursor span => ?_
  have sameBound : loop turn state (cursor.behind span) =
      loopWithin turn (cursor.remaining.length + 1) state (cursor.behind span) := rfl
  rw [sameBound, loop_eq]
  obtain same | ⟨value, after, here, there⟩ := first cursor span
  · simp only [loopWithin, Bind.bind, EStateM.bind, same]
    exact .refl _
  · rw [loopWithin_done here (Nat.succ_pos _), loopWithin_done there (Nat.succ_pos _)]
    exact .ok ⟨rfl, rfl, rfl, rfl⟩

end Loops

/-! ## The loops of the grammar -/

/-- Every cursor stands where it stands. -/
theorem Counterpart.cursors_self (cursor : Cursor) :
    (Counterpart.anywhere cursor.remaining.length).Cursors cursor cursor where
  tokens := List.forall₂_same.mpr fun _ _ => ⟨rfl, trivial⟩
  endSpan := trivial
  le_total := Nat.le_refl _
  previous _ := trivial
  errors := ⟨cursor.errors, cursor.errors, rfl, rfl, List.forall₂_same.mpr fun _ _ => ⟨rfl, trivial⟩⟩
  aborted := rfl

/-- Turns that decide alike side by side with themselves end their loop. -/
theorem endsByTurns_of_turns {turn : α → Parse (Turn α β)} {related : Nat → α → α → Prop}
    {results : Nat → β → β → Prop}
    (turns : ∀ total state, (Counterpart.anywhere total).pairing.Turns
      (related total) (results total) (turn state) (turn state)) :
    EndsByTurns turn := by
  apply Advances.endsByTurns
  intro state cursor next after decided
  have outcome := (turns _ state).outcome (Counterpart.cursors_self cursor)
  rw [decided] at outcome
  cases outcome with
  | ok goes => exact goes.shorter
  | ended closed => exact closed.elim

/-- The loops over nested syntax are ended by their turns. -/
structure Nested.LoopsEnd (nested : Nested) : Prop where
  arguments : EndsByTurns (argument nested)
  items : EndsByTurns (arrayItem nested)
  entries : EndsByTurns (objectEntry nested)
  operators : ∀ floor, EndsByTurns (continueOnce nested floor)
  statements : ∀ inLoop, EndsByTurns (blockStatement nested inLoop)

theorem loopsEnd_nestedTo (depth : Nat) : (nestedTo depth).LoopsEnd := by
  have alike (total : Nat) : (Counterpart.anywhere total).Matches (nestedTo depth) :=
    Counterpart.matches_nestedTo depth
  have paired (total : Nat) := Counterpart.paired (alike total)
  constructor
  case arguments =>
    exact endsByTurns_of_turns fun total _ => Pairing.turns_argument (paired total) rfl
  case items => exact endsByTurns_of_turns fun total _ => Pairing.turns_arrayItem (paired total) rfl
  case entries =>
    exact endsByTurns_of_turns fun total _ => Pairing.turns_objectEntry (paired total) rfl
  case operators =>
    intro floor
    exact endsByTurns_of_turns fun total _ =>
      Pairing.turns_continueOnce (paired total) floor ⟨rfl, trivial⟩
  case statements =>
    intro inLoop
    exact endsByTurns_of_turns fun total _ =>
      Counterpart.turns_blockStatement (alike total) inLoop rfl

theorem endsByTurns_parameter : EndsByTurns parameter :=
  endsByTurns_of_turns fun _ found => Pairing.turns_parameter found

theorem endsByTurns_constantItem (depth : Nat) : EndsByTurns (constantItem (constant depth)) :=
  endsByTurns_of_turns fun _ => Counterpart.turns_constantPart
    (fun _ => Counterpart.reads_constant (fun _ _ => trivial) depth) _ _ _

theorem endsByTurns_constantMember (depth : Nat) : EndsByTurns (constantMember (constant depth)) :=
  endsByTurns_of_turns fun _ => Counterpart.turns_constantPart (Counterpart.reads_constantEntry
    (Counterpart.reads_constant (fun _ _ => trivial) depth)) _ _ _

theorem endsByTurns_headerTurn : EndsByTurns (headerTurn rules) :=
  endsByTurns_of_turns fun _ tags => Counterpart.turns_headerTurn (fun _ _ => trivial) rules tags

theorem endsByTurns_statementTurn : EndsByTurns statementTurn := by
  have turns (total : Nat) (found : List Statement) :
      (Counterpart.anywhere total).pairing.Turns Statement.SameList Statement.SameList
        (statementTurn found) (statementTurn found) :=
    Counterpart.turns_statementTurn (fun listed last => listed.concat last) rfl
  exact endsByTurns_of_turns turns

/-! ## Statements -/

/-- Reading a statement with recovery does not fail. -/
theorem exists_recoveringStatement (nested : Nested) (inLoop : Bool) (cursor : Cursor) :
    ∃ read after, recoveringStatement nested inLoop cursor = .ok read after := by
  unfold recoveringStatement
  split
  · exact ⟨_, _, rfl⟩
  · dsimp only
    split <;> exact ⟨_, _, rfl⟩

/-- There is no statement only once reading was given up. -/
theorem aborted_of_recoveringStatement {nested : Nested} {inLoop : Bool}
    (recovering : recoveringStatement nested inLoop cursor = .ok none after) :
    after.aborted = true := by
  unfold recoveringStatement at recovering
  split at recovering
  · cases recovering
  · dsimp only at recovering
    split at recovering
    · next gaveUp =>
      cases recovering
      exact gaveUp
    · cases recovering

/-- A statement that was read or skipped has taken a token. -/
theorem length_recoveringStatement_lt {depth : Nat} {inLoop : Bool} {read : Statement}
    (recovering : recoveringStatement (nestedTo depth) inLoop cursor = .ok (some read) after) :
    after.remaining.length < cursor.remaining.length := by
  have outcome :=
    (Counterpart.runs_recoveringStatement (Counterpart.matches_nestedTo depth) inLoop).outcome
      (Counterpart.cursors_self cursor)
  rw [recovering] at outcome
  cases outcome with
  | ok goes => exact goes.shorter
  | ended closed => exact closed.elim

/-- How a turn at top level decides. -/
theorem statementTurn_cases (cursor : Cursor) :
    (∃ after, ∀ found, statementTurn found cursor = .ok (.done found) after) ∨
      ∃ read after, ∀ found, statementTurn found cursor = .ok (.again (found ++ [read])) after := by
  cases stopped : cursor.aborted || cursor.atEnd with
  | true => exact .inl ⟨cursor, fun _ => statementTurn_of_stopped stopped⟩
  | false =>
    obtain ⟨read, after, recovering⟩ :=
      exists_recoveringStatement (nestedTo maxNesting) false cursor
    cases read with
    | some read => exact .inr ⟨read, after, fun _ => statementTurn_of_some stopped recovering⟩
    | none => exact .inl ⟨after, fun _ => statementTurn_of_none stopped recovering⟩

theorem exists_statementTurn (found : List Statement) (cursor : Cursor) :
    ∃ decision after, statementTurn found cursor = .ok decision after := by
  obtain ⟨after, decided⟩ | ⟨read, after, decided⟩ := statementTurn_cases cursor
  · exact ⟨_, _, decided found⟩
  · exact ⟨_, _, decided found⟩

/-- The header is not read on once reading was given up. -/
theorem headerTurn_of_aborted (gaveUp : cursor.aborted = true) :
    headerTurn rules tags cursor = .ok (.done tags) cursor := by
  by_cases atTag : cursor.current.kind = .symbol .atSign
  · show (atSymbol .atSign >>= _) cursor = _
    rw [bind_of_ok (atSymbol_of_eq atTag), gaveUp]
    rfl
  · exact headerTurn_of_ne rules atTag tags

theorem exists_recoveringTag (cursor : Cursor) :
    ∃ extended after, recoveringTag rules tags cursor = .ok extended after := by
  unfold recoveringTag
  split <;> exact ⟨_, _, rfl⟩

theorem headerTurn_of_tag {rules : TagRules} {tags extended : OrderedMap Json}
    (active : cursor.aborted = false) (atTag : cursor.current.kind = .symbol .atSign)
    (recovering : recoveringTag rules tags cursor = .ok extended after) :
    headerTurn rules tags cursor = .ok (.again extended) after := by
  show (atSymbol .atSign >>= _) cursor = _
  rw [bind_of_ok (atSymbol_of_eq atTag), active]
  show (recoveringTag rules tags >>= _) cursor = _
  rw [bind_of_ok recovering]
  rfl

theorem exists_headerTurn (cursor : Cursor) :
    ∃ decision after, headerTurn rules tags cursor = .ok decision after := by
  by_cases atTag : cursor.current.kind = .symbol .atSign
  · cases gaveUp : cursor.aborted with
    | true => exact ⟨_, _, headerTurn_of_aborted rules tags gaveUp⟩
    | false =>
      obtain ⟨extended, after, recovering⟩ := exists_recoveringTag rules tags cursor
      exact ⟨_, _, headerTurn_of_tag gaveUp atTag recovering⟩
  · exact ⟨_, _, headerTurn_of_ne rules atTag tags⟩

/-- Reading a program does not fail: all its errors are recorded. -/
theorem exists_program (cursor : Cursor) :
    ∃ tags start statements after,
      loop (headerTurn rules) .empty cursor = .ok tags start ∧
      loop statementTurn [] start = .ok statements after ∧
      program rules cursor = .ok { metadata := tags, statements := statements } after := by
  obtain ⟨tags, start, header⟩ :=
    (endsByTurns_headerTurn rules .empty cursor).exists_ok (exists_headerTurn rules)
  obtain ⟨statements, after, body⟩ :=
    (endsByTurns_statementTurn [] start).exists_ok exists_statementTurn
  refine ⟨tags, start, statements, after, header, body, ?_⟩
  rw [program, bind_of_ok header, bind_of_ok body]
  rfl

/-- The statements before a cursor are kept as they are. -/
theorem ends_statementTurn_append {found : List Statement} {rest : List Statement}
    (ends : Ends statementTurn found cursor (.ok rest after)) (before : List Statement) :
    Ends statementTurn (before ++ found) cursor (.ok (before ++ rest) after) := by
  generalize result : EStateM.Result.ok rest after = ended at ends
  induction ends with
  | @done found cursor value after' decided =>
    cases result
    obtain ⟨stop, decided'⟩ | ⟨read, stop, decided'⟩ := statementTurn_cases cursor
    · rw [decided'] at decided
      cases decided
      exact .done (decided' (before ++ rest))
    · rw [decided'] at decided
      cases decided
  | failed => cases result
  | @again found cursor next middle ended decided _ ih =>
    obtain ⟨stop, decided'⟩ | ⟨read, stop, decided'⟩ := statementTurn_cases cursor
    · rw [decided'] at decided
      cases decided
    · rw [decided'] at decided
      cases decided
      refine .again (decided' (before ++ found)) ?_
      rw [List.append_assoc]
      exact ih result

/-- The statements at top level are read alike behind another token. -/
theorem memoryless_statements (found : List Statement) : Memoryless (loop statementTurn found) := by
  refine memoryless_loop steady_statementTurn fun cursor span => ?_
  have sameFlags : ((cursor.behind span).aborted || (cursor.behind span).atEnd) =
      (cursor.aborted || cursor.atEnd) := rfl
  cases stopped : cursor.aborted || cursor.atEnd with
  | true =>
    exact .inr ⟨found, cursor, statementTurn_of_stopped stopped,
      statementTurn_of_stopped (sameFlags.trans stopped)⟩
  | false =>
    have goesOn := sameFlags.trans stopped
    obtain same | ⟨after, first, second⟩ :=
      recoveringStatement_behind (starts_nestedTo maxNesting) false cursor span
    · obtain ⟨read, after, recovering⟩ :=
        exists_recoveringStatement (nestedTo maxNesting) false cursor
      have recovering' := same.trans recovering
      left
      cases read with
      | some read =>
        rw [statementTurn_of_some stopped recovering, statementTurn_of_some goesOn recovering']
      | none =>
        rw [statementTurn_of_none stopped recovering, statementTurn_of_none goesOn recovering']
    · exact .inr ⟨found, after, statementTurn_of_none stopped first,
        statementTurn_of_none goesOn second⟩

/-! ## Programs -/

/-- The header is read alike behind another token. -/
theorem memoryless_header : Memoryless (loop (headerTurn rules) tags) := by
  refine memoryless_loop (steady_headerTurn rules) fun cursor span => ?_
  have sameFlag : (cursor.behind span).aborted = cursor.aborted := rfl
  have sameToken : (cursor.behind span).current = cursor.current := rfl
  by_cases atTag : cursor.current.kind = .symbol .atSign
  · cases gaveUp : cursor.aborted with
    | true =>
      exact .inr ⟨tags, cursor, headerTurn_of_aborted rules tags gaveUp,
        headerTurn_of_aborted rules tags (sameFlag.trans gaveUp)⟩
    | false =>
      -- The sign of the tag is taken, so that nothing of the other token is left.
      have same : recoveringTag rules tags (cursor.behind span) =
          recoveringTag rules tags cursor := by
        have present := Cursor.remaining_ne_nil atTag nofun
        simp only [recoveringTag, Cursor.advance_behind present]
        rfl
      obtain ⟨extended, after, recovering⟩ := exists_recoveringTag rules tags cursor
      left
      rw [headerTurn_of_tag gaveUp atTag recovering, headerTurn_of_tag
        (sameFlag.trans gaveUp) (sameToken ▸ atTag) (same.trans recovering)]
  · exact .inr ⟨tags, cursor, headerTurn_of_ne rules atTag tags,
      headerTurn_of_ne rules (sameToken ▸ atTag) tags⟩

/-- Programs are read alike behind another token. -/
theorem memoryless_program : Memoryless (program rules) :=
  (memoryless_header rules .empty).bind fun _ =>
    (memoryless_statements []).bind fun _ => memoryless_pure _

/-- A fresh cursor before an end of the tokens stands where the old one has come to. -/
theorem resumes_ofTokens_drop {tokens : List Token} (moves : (Cursor.ofTokens tokens).Moves cursor)
    (active : cursor.aborted = false) (more : cursor.remaining ≠ []) :
    ∃ index, index + cursor.remaining.length = (Cursor.ofTokens tokens).remaining.length ∧
      Cursor.Resumes cursor.errors (Cursor.ofTokens (tokens.drop index)) cursor := by
  obtain ⟨taken, split⟩ := moves.suffix
  have noEnd : ∀ token ∈ taken, Cursor.isEndMark token = false := by
    intro token member
    have kept : token ∈ (Cursor.ofTokens tokens).remaining := by
      rw [← split]
      exact List.mem_append_left _ member
    rw [remaining_ofTokens] at kept
    have accepted := List.mem_takeWhile_imp kept
    exact (Bool.not_eq_true' _).mp accepted
  have front : taken <+: tokens := by
    refine List.IsPrefix.trans ⟨cursor.remaining, split⟩ ?_
    exact List.takeWhile_prefix _
  obtain ⟨rest, rfl⟩ := front
  have dropped : (taken ++ rest).drop taken.length = rest := List.drop_left
  rw [remaining_ofTokens_append noEnd] at split
  have left : cursor.remaining = (Cursor.ofTokens rest).remaining := List.append_cancel_left split
  have nonempty : rest ≠ [] := by
    rintro rfl
    exact more left
  refine ⟨taken.length, ?_, ?_⟩
  · rw [remaining_ofTokens_append noEnd, ← split, List.length_append]
  · rw [dropped]
    refine ⟨left, ?_, (List.append_nil _).symm, active⟩
    rw [moves.endSpan, endSpan_ofTokens_append noEnd nonempty]

end Grammar
end PatchScript
