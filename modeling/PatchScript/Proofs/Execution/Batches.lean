import Mathlib.Data.List.Infix
import PatchScript.Batch

/-!
# Patches that fail

A patch that fails leaves no trace in a batch: the patches after it meet the document that
it met, so that the batch comes out as if the patch had not been there.  A batch that ends
with the first failure comes out like one that has no patches after it.

What the patches log is kept, also of those that fail.
-/

namespace PatchScript

namespace BatchOutcome

/-- What came of patches and then of more patches. -/
def followedBy (before after : BatchOutcome) : BatchOutcome where
  document := after.document
  applied := before.applied ++ after.applied
  failures := before.failures ++ after.failures
  log := before.log ++ after.log

end BatchOutcome

/-- What an application of a patch is given by a batch. -/
def BatchConfig.host (config : BatchConfig) (scripts : ScriptLibraries) : Host :=
  { maxCallDepth := config.maxCallDepth, scripts := some scripts }

/-- What becomes of a patch in a batch. -/
inductive Fate where
  /-- It is not selected. -/
  | passedOver
  | applied
  | failed (error : PatchError)

namespace Fate

/-- Whether a patch fails. -/
def isFailure : Fate → Bool
  | .failed _ => true
  | _ => false

/-- Whether a patch is not selected. -/
def isPassedOver : Fate → Bool
  | .passedOver => true
  | _ => false

end Fate

namespace Batch

/-- What becomes of each patch, by the document that it meets. -/
def fates (host : Host) (select : Patch → Bool) : List Patch → Json → List (Patch × Fate)
  | [], _ => []
  | patch :: patches, document =>
    if select patch then
      match (patch.apply host document).1 with
      | .ok changed => (patch, .applied) :: fates host select patches changed
      | .error error => (patch, .failed error) :: fates host select patches document
    else (patch, .passedOver) :: fates host select patches document

/-- The names of the patches that are applied. -/
def appliedNames (fated : List (Patch × Fate)) : List String :=
  fated.filterMap fun
    | (patch, .applied) => some patch.id
    | _ => none

/-- The patches that fail, with their errors. -/
def failuresOf (fated : List (Patch × Fate)) : List PatchFailure :=
  fated.filterMap fun
    | (patch, .failed error) => some { patch := patch.id, error := error }
    | _ => none

/-- The patches without those that fail. -/
def withoutFailures (fated : List (Patch × Fate)) : List Patch :=
  (fated.filter fun patch => !patch.2.isFailure).map Prod.fst

/-! ## Batches patch by patch -/

/-- Apply patches to a document. -/
def outcomeOf (host : Host) (failFast : Bool) (patches : List Patch)
    (document : Json) : BatchOutcome :=
  applyFrom host failFast patches (BatchOutcome.initial document)

theorem applyAll_eq (config : BatchConfig) (scripts : ScriptLibraries) (select : Patch → Bool)
    (patches : List Patch) (document : Json) :
    applyAll config scripts select patches document =
      outcomeOf (config.host scripts) config.failFast (patches.filter select) document :=
  rfl

section Outcomes

variable {host : Host} {failFast : Bool}

/-- What came of earlier patches only stands before what comes of later ones. -/
theorem applyFrom_eq_followedBy (patches : List Patch) (outcome : BatchOutcome) :
    applyFrom host failFast patches outcome =
      outcome.followedBy (outcomeOf host failFast patches outcome.document) := by
  induction patches generalizing outcome with
  | nil => simp [applyFrom, outcomeOf, BatchOutcome.followedBy, BatchOutcome.initial]
  | cons patch patches ih =>
    rw [outcomeOf, applyFrom, applyFrom]
    simp only [BatchOutcome.initial]
    cases applied : patch.apply host outcome.document with
    | mk result logged =>
      cases result with
      | ok document =>
        dsimp only
        rw [ih, ih { document := document, applied := _, failures := _, log := _ }]
        simp [BatchOutcome.followedBy]
      | error error =>
        dsimp only
        cases failFast with
        | true => simp [BatchOutcome.followedBy]
        | false =>
          simp only [Bool.false_eq_true, if_false]
          rw [ih, ih { document := _, applied := _, failures := _, log := _ }]
          simp [BatchOutcome.followedBy]

theorem outcomeOf_nil (document : Json) :
    outcomeOf host failFast [] document = BatchOutcome.initial document :=
  rfl

variable {patch : Patch} (patches : List Patch)

/-- A patch that is applied hands on its document. -/
theorem outcomeOf_cons_of_ok {document changed : Json}
    (succeeds : (patch.apply host document).1 = .ok changed) :
    outcomeOf host failFast (patch :: patches) document =
      BatchOutcome.followedBy
        { document := changed
          applied := [patch.id]
          failures := []
          log := (patch.apply host document).2 }
        (outcomeOf host failFast patches changed) := by
  rw [outcomeOf, applyFrom]
  simp only [BatchOutcome.initial, succeeds, applyFrom_eq_followedBy, List.nil_append]

/-- A patch that fails hands on the document that it met, or ends the batch. -/
theorem outcomeOf_cons_of_error {document : Json} {error : PatchError}
    (fails : (patch.apply host document).1 = .error error) :
    outcomeOf host failFast (patch :: patches) document =
      BatchOutcome.followedBy
        { document := document
          applied := []
          failures := [{ patch := patch.id, error := error }]
          log := (patch.apply host document).2 }
        (outcomeOf host failFast (if failFast then [] else patches) document) := by
  rw [outcomeOf, applyFrom]
  cases failFast with
  | true => simp [fails, outcomeOf_nil, BatchOutcome.initial, BatchOutcome.followedBy]
  | false =>
    simp only [BatchOutcome.initial, fails, applyFrom_eq_followedBy, Bool.false_eq_true, if_false,
      List.nil_append]

end Outcomes

/-! ## Batches that go on -/

section Patient

variable (host : Host) (select : Patch → Bool)

variable (patches : List Patch) (document : Json)
include patches document

/-- Every patch has a fate, and it is passed over if it is not selected. -/
theorem fates_complete :
    (fates host select patches document).map Prod.fst = patches ∧
      ∀ fated ∈ fates host select patches document, fated.2.isPassedOver = !select fated.1 := by
  fun_induction fates host select patches document with
  | case1 => exact ⟨rfl, fun _ member => absurd member List.not_mem_nil⟩
  | case2 patch patches document selected changed _ ih
  | case3 patch patches document selected error _ ih
  | case4 patch patches document selected ih =>
    refine ⟨congrArg (patch :: ·) ih.1, List.forall_mem_cons.mpr ⟨?_, ih.2⟩⟩
    simp [selected, Fate.isPassedOver]

/-- The outcome lists the patches by their fates, in order. -/
theorem outcomeOf_eq_fates :
    let outcome := outcomeOf host false (patches.filter select) document
    outcome.applied = appliedNames (fates host select patches document) ∧
      outcome.failures = failuresOf (fates host select patches document) := by
  fun_induction fates host select patches document with
  | case1 => exact ⟨rfl, rfl⟩
  | case2 patch patches document selected changed succeeds ih =>
    rw [List.filter_cons_of_pos selected, outcomeOf_cons_of_ok _ succeeds]
    exact ⟨congrArg (patch.id :: ·) ih.1, ih.2⟩
  | case3 patch patches document selected error fails ih =>
    rw [List.filter_cons_of_pos selected, outcomeOf_cons_of_error _ fails]
    exact ⟨ih.1, congrArg (PatchFailure.mk patch.id error :: ·) ih.2⟩
  | case4 patch patches document unselected ih =>
    rw [List.filter_cons_of_neg unselected]
    exact ih

/-- Without the patches that fail, the batch has the same document and applies the same
patches, and none of them fails. -/
theorem outcomeOf_withoutFailures :
    let outcome := outcomeOf host false (patches.filter select) document
    let remaining := withoutFailures (fates host select patches document)
    let clean := outcomeOf host false (remaining.filter select) document
    clean.document = outcome.document ∧ clean.applied = outcome.applied ∧ clean.failures = [] := by
  fun_induction fates host select patches document with
  | case1 => exact ⟨rfl, rfl, rfl⟩
  | case2 patch patches document selected changed succeeds ih =>
    have kept (fated : List (Patch × Fate)) :
        withoutFailures ((patch, .applied) :: fated) = patch :: withoutFailures fated := rfl
    simp only [kept, List.filter_cons_of_pos selected, outcomeOf_cons_of_ok _ succeeds]
    exact ⟨ih.1, congrArg (patch.id :: ·) ih.2.1, ih.2.2⟩
  | case3 patch patches document selected error fails ih =>
    have removed (fated : List (Patch × Fate)) :
        withoutFailures ((patch, .failed error) :: fated) = withoutFailures fated := rfl
    simp only [removed, List.filter_cons_of_pos selected, outcomeOf_cons_of_error _ fails]
    exact ih
  | case4 patch patches document unselected ih =>
    have kept (fated : List (Patch × Fate)) :
        withoutFailures ((patch, .passedOver) :: fated) = patch :: withoutFailures fated := rfl
    simp only [kept, List.filter_cons_of_neg unselected]
    exact ih

end Patient

/-! ## Batches that end with the first failure -/

/-- What of a batch is run if the first failure ends it: the whole of it, of which nothing
fails, or what leads up to the first patch that fails. -/
inductive RunsThrough (host : Host) (document : Json)
    (patches : List Patch) : List Patch → Prop where
  | whole :
    (outcomeOf host false patches document).failures = [] →
    RunsThrough host document patches patches
  | upTo {before : List Patch} {last : Patch} {error : PatchError} :
    before ++ [last] <+: patches →
    (outcomeOf host false before document).failures = [] →
    (outcomeOf host false (before ++ [last]) document).failures =
      [{ patch := last.id, error := error }] →
    RunsThrough host document patches (before ++ [last])

theorem RunsThrough.isPrefix {host : Host} {document : Json} {patches ran : List Patch}
    (runs : RunsThrough host document patches ran) : ran <+: patches := by
  cases runs with
  | whole => exact List.prefix_rfl
  | upTo leads => exact leads

/-- A batch that ends with the first failure comes out like the part of it that is run. -/
theorem exists_runsThrough (host : Host) (patches : List Patch) (document : Json) :
    ∃ ran, RunsThrough host document patches ran ∧
      outcomeOf host true patches document = outcomeOf host false ran document := by
  induction patches generalizing document with
  | nil => exact ⟨[], .whole rfl, rfl⟩
  | cons patch patches ih =>
    cases applied : (patch.apply host document).1 with
    | ok changed =>
      obtain ⟨ran, runs, same⟩ := ih changed
      refine ⟨patch :: ran, ?_, ?_⟩
      · have grown (others : List Patch) :
            (outcomeOf host false (patch :: others) document).failures =
              (outcomeOf host false others changed).failures := by
          rw [outcomeOf_cons_of_ok _ applied]
          rfl
        cases runs with
        | whole none => exact .whole ((grown patches).trans none)
        | @upTo before last error leads none once =>
          exact .upTo (List.cons_prefix_cons.mpr ⟨rfl, leads⟩) ((grown before).trans none)
            ((grown (before ++ [last])).trans once)
      · rw [outcomeOf_cons_of_ok _ applied, outcomeOf_cons_of_ok _ applied, same]
    | error error =>
      have same : outcomeOf host true (patch :: patches) document =
          outcomeOf host false [patch] document := by
        rw [outcomeOf_cons_of_error _ applied, outcomeOf_cons_of_error _ applied]
        rfl
      have once : (outcomeOf host false ([] ++ [patch]) document).failures =
          [{ patch := patch.id, error := error }] := by
        rw [List.nil_append, outcomeOf_cons_of_error _ applied]
        rfl
      have leads : [] ++ [patch] <+: patch :: patches := ⟨patches, rfl⟩
      exact ⟨[patch], .upTo leads rfl once, same⟩

/-- In a batch that goes on after failures, the selected patches are listed in order, each
once, as applied or as failed.  Without those that fail, the batch has the same document and
the same applied patches, and nothing fails.  A batch that ends with the first failure comes
out like the patches up to it do in a batch that goes on. -/
theorem failed_patches_leave_no_trace (config : BatchConfig) (scripts : ScriptLibraries)
    (selector : Patch → String → Bool) (target : String) (patches : List Patch) (document : Json) :
    let select := fun patch => selector patch target
    let patient := { config with failFast := false }
    let hasty := { config with failFast := true }
    let fated := fates (config.host scripts) select patches document
    let outcome := applyAll patient scripts select patches document
    let clean := applyAll patient scripts select (withoutFailures fated) document
    fated.map Prod.fst = patches ∧
      (∀ patch ∈ fated, patch.2.isPassedOver = !select patch.1) ∧
      outcome.applied = appliedNames fated ∧
      outcome.failures = failuresOf fated ∧
      clean.document = outcome.document ∧
      clean.applied = outcome.applied ∧
      clean.failures = [] ∧
      ∃ ran, RunsThrough (config.host scripts) document (patches.filter select) ran ∧
        applyAll hasty scripts select patches document =
          applyAll patient scripts select ran document := by
  intro select patient hasty fated outcome clean
  obtain ⟨complete, passedOver⟩ := fates_complete (config.host scripts) select patches document
  obtain ⟨applied, failures⟩ := outcomeOf_eq_fates (config.host scripts) select patches document
  obtain ⟨documents, names, none⟩ :=
    outcomeOf_withoutFailures (config.host scripts) select patches document
  obtain ⟨ran, runs, same⟩ :=
    exists_runsThrough (config.host scripts) (patches.filter select) document
  have selected : ran.filter select = ran :=
    List.filter_eq_self.mpr fun _ member => (List.mem_filter.mp (runs.isPrefix.subset member)).2
  refine ⟨complete, passedOver, applied, failures, documents, names, none, ran, runs, ?_⟩
  rw [applyAll_eq, applyAll_eq, selected]
  exact same

end Batch
end PatchScript
