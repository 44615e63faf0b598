import PatchScript.Proofs.Evaluate.Uniform
import PatchScript.Proofs.Run.Grown

/-!
# Libraries and their importers

A library is loaded with an object and a frame of its own.  Hence it can neither change nor
see anything of the importer: whatever the importer holds stays as it was, and two importers
that differ in all they hold get the same library, up to the handles it is made of.
-/

namespace PatchScript

open Correspondence

/-- What a store holds is still there, unchanged. -/
structure Store.KeptIn (before after : Store) : Prop where
  object {ref : ObjectRef} : ref.index < before.objects.size → after.object ref = before.object ref
  array {ref : ArrayRef} : ref.index < before.arrays.size → after.array ref = before.array ref
  function {ref : FunctionRef} :
    ref.index < before.functions.size → after.function ref = before.function ref
  frame {ref : FrameRef} :
    ref.index < before.frames.table.size → after.frames.get ref = before.frames.get ref

/-- Two values are the same up to the handles they are made of: the handles that can be
reached from them stand for each other one to one, with contents that correspond. -/
def Isomorphic (store store' : Store) (value value' : Value) : Prop :=
  ∃ relation : Correspondence,
    relation.OneToOne ∧
      (∀ definition definition', relation.Definitions definition definition' →
        definition = definition') ∧
      relation.Contents store store' ∧ relation.Values value value'

namespace Correspondence

variable {before before' store store' : Store}

theorem uniform_growing {links : Links before before'} : (growingAlong links).Uniform () where
  depth grows := grows.depth
  loading grows := grows.loading
  imports grows := grows.imports
  resume grows imports loading depth :=
    { grows with imports := imports, loading := loading, depth := depth }

theorem throughout_growing {links : Links before before'} : (growingAlong links).Throughout .same :=
  throughout_same (fun _ => rfl) (fun _ _ => Iff.rfl) id trivial

theorem GrowsAlong.kept (grows : Grows before before' store store') : before.KeptIn store where
  object old := grows.objects.getD_of_unlinked (Linking.fresh_unlinked old) _
  array old := grows.arrays.getD_of_unlinked (Linking.fresh_unlinked old) _
  function old := grows.functions.kept (Linking.fresh_unlinked old)
  frame old := grows.frames.getD_of_unlinked (Linking.fresh_unlinked old) _

theorem GrowsAlong.isomorphic (grows : Grows before before' store store') {value value' : Value}
    (values : (beyond before before').Values value value') : Isomorphic store store' value value' :=
  ⟨beyond before before', oneToOne_linked, fun _ _ => id, grows.contents, values⟩

/-- A library that is not loaded is loaded alike into stores that have grown alike. -/
theorem loads_growing (host : Host) (budget : Nat) (name : String) (span : Span)
    (grows : Grows before before' store store') :
    (growing before before').Loads () () name
      (Evaluate.load host (interpreter host budget) name span store)
      (Evaluate.load host (interpreter host budget) name span store') :=
  have alike := alike_interpreter uniform_growing throughout_growing trivial id host budget
  Evaluate.loads_load host (uniform_growing.loadingPhases name grows)
    (fun library _ _ => alike.libraries name library) rfl

end Correspondence

/-- Importing a library into a store where none is loaded or loading leaves all that the
store holds as it was, whether it succeeds or fails.  For two such stores, whatever they
hold, it either yields objects that are the same up to handles, or fails in the same way. -/
theorem library_isolated (host : Host) (budget : Nat) (name : String) (span : Span)
    {store store' : Store}
    (noneLoaded : store.imports = OrderedMap.empty ∧ store'.imports = OrderedMap.empty)
    (noneLoading : store.loading = [] ∧ store'.loading = [])
    (sameDepth : store.callDepth = store'.callDepth) :
    let result := (interpreter host budget).importLibrary name span store
    let result' := (interpreter host budget).importLibrary name span store'
    store.KeptIn (Run.finalStore result) ∧
      ((∃ ref ref' after after', result = .ok (.object ref) after ∧
          result' = .ok (.object ref') after' ∧
          Isomorphic after after' (.object ref) (.object ref')) ∨
        ∃ fault after after', result = .error fault after ∧ result' = .error fault after') := by
  intro result result'
  have grows : Grows store store' store store' :=
    grows_self noneLoaded (noneLoading.1.trans noneLoading.2.symm) sameDepth
  cases budget with
  | zero => exact ⟨grows.kept, .inr ⟨_, _, _, rfl, rfl⟩⟩
  | succ budget =>
    have importing {store : Store} (loaded : store.imports = OrderedMap.empty)
        (loading : store.loading = []) :
        (interpreter host (budget + 1)).importLibrary name span store =
          Evaluate.load host (interpreter host budget) name span store := by
      refine Evaluate.importLibrary_of_absent host _ span ?_ ?_
      · rw [loaded]
        rfl
      · rw [loading]
        exact List.not_mem_nil
    have phases := uniform_growing.loadingPhases name grows
    have loads := loads_growing host budget name span grows
    rw [← importing noneLoaded.1 noneLoading.1, ← importing noneLoaded.2 noneLoading.2] at loads
    change (growing store store').Loads () () name result result' at loads
    generalize result = result, result' = result' at loads ⊢
    cases loads with
    | loaded stores refs =>
      have after : Grows store store' _ _ := phases.finish stores refs
      exact ⟨after.kept, .inl ⟨_, _, _, _, rfl, rfl, after.isomorphic (.object refs)⟩⟩
    | failed stores errors =>
      have after : Grows store store' _ _ := phases.leave stores
      cases errors.eq fun _ _ => id
      exact ⟨after.kept, .inr ⟨_, _, _, rfl, rfl⟩⟩
    | exhausted stores _ =>
      have after : Grows store store' _ _ := phases.leave stores
      exact ⟨after.kept, .inr ⟨_, _, _, rfl, rfl⟩⟩
    | stopped _ guarded => exact False.elim guarded

/-- A library `secret` with the program `val hidden = null; reveal = function () => $hidden;`. -/
def secretHost : Host :=
  let somewhere : Span := { file := "", start := Position.start, stop := Position.start }
  let placed := Expr.node somewhere
  let naming (form : ReferenceForm) := Reference.node somewhere form
  let reveal := placed (.function
    (.node none [] (.expression (placed (.reference (naming (.variable "hidden"))))) somewhere))
  let statements := [StatementForm.declare "hidden" false (placed (.literal .null)),
    .expression (placed (.assign (naming (.bare "reveal")) none reveal))]
  { scripts := some (OrderedMap.ofEntries [("secret",
      { metadata := OrderedMap.empty, statements := statements.map (.node somewhere) })]) }

/-- An importer with nothing, and one with a document that has a member `reveal` and a
variable `hidden`. -/
theorem library_isolated_secret :
    let span : Span := { file := "", start := Position.start, stop := Position.start }
    let busy : Store :=
      { Store.empty with
        objects := #[OrderedMap.ofEntries [("reveal", .boolean true)]]
        frames := { table := #[Frame.empty.bind "hidden" (.object ⟨0⟩) true] } }
    ∃ ref ref' after after',
      (interpreter secretHost 20).importLibrary "secret" span busy = .ok (.object ref) after ∧
      (interpreter secretHost 20).importLibrary "secret" span .empty = .ok (.object ref') after' ∧
      ref ≠ ref' ∧ Isomorphic after after' (.object ref) (.object ref') ∧ busy.KeptIn after := by
  intro span busy
  obtain ⟨ref, after, ran, added⟩ : ∃ ref after,
      (interpreter secretHost 20).importLibrary "secret" span busy = .ok (.object ref) after ∧
        ref = ⟨1⟩ := ⟨_, _, rfl, rfl⟩
  obtain ⟨ref', after', ran', added'⟩ : ∃ ref' after',
      (interpreter secretHost 20).importLibrary "secret" span .empty = .ok (.object ref') after' ∧
        ref' = ⟨0⟩ := ⟨_, _, rfl, rfl⟩
  obtain ⟨kept, yields | fails⟩ :=
    @library_isolated secretHost 20 "secret" span busy .empty ⟨rfl, rfl⟩ ⟨rfl, rfl⟩ rfl
  · obtain ⟨_, _, _, _, first, second, isomorphic⟩ := yields
    rw [ran] at first kept
    rw [ran'] at second
    cases first
    cases second
    exact ⟨ref, ref', after, after', ran, ran', by simp [added, added'], isomorphic, kept⟩
  · obtain ⟨_, _, _, first, _⟩ := fails
    rw [ran] at first
    cases first

end PatchScript
