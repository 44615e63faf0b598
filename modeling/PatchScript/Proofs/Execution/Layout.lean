import Mathlib
import PatchScript.Proofs.Evaluate.Placeless
import PatchScript.Proofs.Execution.Guarantees
import PatchScript.Proofs.Grammar.Layout

/-!
# Layout and meaning

How a source is laid out, and what its file is called, has no influence on what it means:
only the places in errors, in the log and in the texts of failed assertions differ.
-/

namespace PatchScript

open Correspondence

/-- Two kinds of errors differ at most in the place that an error of a native function
names. -/
inductive ErrorKind.SameUpToPlace : ErrorKind → ErrorKind → Prop where
  | same (kind : ErrorKind) : SameUpToPlace kind kind
  | placed (function message : String) (span span' : Span) :
    SameUpToPlace (.nativeError function (message ++ " at " ++ span.text))
      (.nativeError function (message ++ " at " ++ span'.text))

/-- Two executions have ended alike, with stores that are the same up to places: both have
succeeded, both have failed with the same chain of kinds of errors up to places, or both have
used up their budget. -/
inductive EndAlike :
    EStateM.Result Fault Store Unit → EStateM.Result Fault Store Unit → Prop where
  | succeeded {after after' : Store} :
    after.SameUpToPlaces after' → EndAlike (.ok () after) (.ok () after')
  | failed {error error' : EvalError} {after after' : Store} :
    after.SameUpToPlaces after' →
    List.Forall₂ (fun layer layer' => layer.kind.SameUpToPlace layer'.kind)
      error.layers error'.layers →
    EndAlike (.error (.error error) after) (.error (.error error') after')
  | exhausted {after after' : Store} :
    after.SameUpToPlaces after' →
    EndAlike (.error .outOfFuel after) (.error .outOfFuel after')

theorem sameUpToPlace_of_kinds {kind kind' : ErrorKind} (kinds : placeless.Kinds kind kind') :
    kind.SameUpToPlace kind' := by
  cases kinds with
  | same => exact .same _
  | reported function messages =>
    cases messages with
    | same => exact .same _
    | placed message => exact .placed function message _ _

/-- Stores that are the same up to places have the same documents. -/
theorem Store.SameUpToPlaces.toJson_eq {store store' : Store} (same : store.SameUpToPlaces store')
    (value : Value) : store.toJson value = store'.toJson value :=
  (contents_placeless same).toJson_eq (fun _ _ => FunctionDef.name_eq_of_unplaced)
    (identity_values_iff.mpr rfl)

section

variable {result result' : EStateM.Result Fault Store Unit}

theorem EndAlike.of_outcomes {values : Unit → Unit → Prop}
    (outcomes : placeless.Outcomes () () placeless.Errors values result result') :
    EndAlike result result' := by
  cases outcomes with
  | ok stores => exact .succeeded stores
  | failed stores errors =>
    refine .failed stores (List.Forall₂.imp (fun _ _ layers => ?_) errors.layers)
    exact sameUpToPlace_of_kinds layers.kind
  | exhausted stores => exact .exhausted stores
  | stopped _ guarded => exact False.elim guarded

theorem EndAlike.sameUpToPlaces (alike : EndAlike result result') :
    (Run.finalStore result).SameUpToPlaces (Run.finalStore result') := by
  cases alike with
  | succeeded stores | failed stores | exhausted stores => exact stores

end

namespace Execution

/-- The same program at other places is executed alike on a document. -/
theorem endAlike_onDocument (host : Host) (members : List (String × Json))
    {program program' : Program} (same : program.unplaced = program'.unplaced) :
    EndAlike (onDocument host members program) (onDocument host members program') := by
  injection same with _ statements
  have heights : program.height 1 = program'.height 1 := by
    rw [Program.height, Program.height, ← Statement.heightList_unplaced, statements,
      Statement.heightList_unplaced]
  have alike := alike_interpreter uniform_placeless throughout_placeless trivial id
    host (budget host (program.height 1))
  have corresponds := (corresponds_start placeless () members).bind fun _ _ blocks =>
    Evaluate.corresponds_program alike.parts blocks (fun _ _ _ => trivial)
      (statements_of_unplacedList statements false)
  have outcomes := corresponds Store.empty Store.empty ⟨rfl, rfl, rfl, rfl, rfl, rfl, rfl, rfl⟩
  unfold onDocument execute
  rw [← heights]
  exact .of_outcomes outcomes

/-- Two sources with tokens of the same kinds are both rejected with the same messages, or
both read as programs that are the same up to places, whatever header tags are allowed.
Executing these on any document, with any libraries and any limit of calls, ends alike and
with the same document, be it in success or in failure. -/
theorem layout_irrelevant (rules : Grammar.TagRules) {source source' file file' : String}
    {tokens tokens' : List Token} (scanned : scan source file = .ok tokens)
    (scanned' : scan source' file' = .ok tokens')
    (sameKinds : tokens.map Token.kind = tokens'.map Token.kind) :
    (∃ errors errors',
      Program.ofTaggedSource rules source file = .error (.parse errors) ∧
      Program.ofTaggedSource rules source' file' = .error (.parse errors') ∧
      errors.map ParseError.message = errors'.map ParseError.message) ∨
    ∃ program program',
      Program.ofTaggedSource rules source file = .ok program ∧
      Program.ofTaggedSource rules source' file' = .ok program' ∧
      program.unplaced = program'.unplaced ∧
      ∀ host members,
        let result := onDocument host members program
        let result' := onDocument host members program'
        EndAlike result result' ∧
          ∀ value, (Run.finalStore result).toJson value = (Run.finalStore result').toJson value := by
  have read := Grammar.readAlike_programOfTokens rules sameKinds
  simp only [Program.ofTaggedSource, scanned, scanned']
  generalize Grammar.programOfTokens rules tokens = first,
    Grammar.programOfTokens rules tokens' = second at read
  cases read with
  | rejected messages => exact .inl ⟨_, _, rfl, rfl, messages⟩
  | accepted same =>
    refine .inr ⟨_, _, rfl, rfl, same, fun host members => ?_⟩
    have alike := endAlike_onDocument host members same
    exact ⟨alike, alike.sameUpToPlaces.toJson_eq⟩

/-- Spaces, a tab, a comment and a line break, in a program that changes the document and
then fails. -/
theorem layout_irrelevant_spread :
    ∃ program program',
      Program.ofSource "x=[];$y;" "f" = .ok program ∧
      Program.ofSource "x = [\t] # c\n;\n$y ;" "g" = .ok program' ∧
      program.unplaced = program'.unplaced ∧
      ∀ host members,
        EndAlike (onDocument host members program) (onDocument host members program') := by
  have sameKinds : (scan "x=[];$y;" "f").map (List.map Token.kind) =
      (scan "x = [\t] # c\n;\n$y ;" "g").map (List.map Token.kind) := by cbv
  have accepted : (Program.ofSource "x=[];$y;" "f").isOk = true := by cbv
  cases scanned : scan "x=[];$y;" "f" with
  | error error =>
    rw [Program.ofSource, Program.ofTaggedSource, scanned] at accepted
    cases accepted
  | ok tokens =>
    cases scanned' : scan "x = [\t] # c\n;\n$y ;" "g" with
    | error error =>
      rw [scanned, scanned'] at sameKinds
      cases sameKinds
    | ok tokens' =>
      rw [scanned, scanned'] at sameKinds
      obtain rejected | read :=
        layout_irrelevant .standard scanned scanned' (Except.ok.inj sameKinds)
      · obtain ⟨errors, _, failed, _⟩ := rejected
        rw [Program.ofSource, failed] at accepted
        cases accepted
      · obtain ⟨program, program', first, second, same, runs⟩ := read
        exact ⟨program, program', first, second, same, fun host members => (runs host members).1⟩

end Execution
end PatchScript
