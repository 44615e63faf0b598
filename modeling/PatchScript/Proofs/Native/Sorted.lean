import PatchScript.Proofs.Evaluate.Indices
import PatchScript.Proofs.Native.NaturalOrder

/-!
# Sorted arrays

Sorting an array makes a new array that is a stable sort of its items: by the natural order, if
the items can be compared at all, or by a comparator, if its answers are consistent.  Whatever a
comparator does, the first of its calls that does not answer with a number ends the sorting.
-/

namespace PatchScript

open Sorting

variable {store : Store}

/-! ## Following a plan in a store -/

section Following

variable {α β : Type} {less : α → α → Run Bool} {plan : Plan α β}
variable {Asks : α → α → Prop} {Gives : α → α → Bool → Prop} {Result : β → Prop}
variable {Holds : Store → Prop}

/-- A question that a plan may ask was answered. -/
def Answered (less : α → α → Run Bool) (Asks : α → α → Prop) (before after : Store) : Prop :=
  ∃ later earlier answer, Asks later earlier ∧ less later earlier before = .ok answer after

/-- Questions are answered one after the other, until there is a result or one of them fails. -/
theorem Sorting.Plan.run_cases (store : Store) (ensures : plan.Ensures Asks Gives Result)
    (keeps : ∀ later earlier answer before after, Asks later earlier → Holds before →
      less later earlier before = .ok answer after → Gives later earlier answer ∧ Holds after)
    (holds : Holds store) :
    ∃ middle, Relation.ReflTransGen (Answered less Asks) store middle ∧ Holds middle ∧
      ((∃ result, plan.run less store = .ok result middle ∧ Result result) ∨
        ∃ later earlier fault after, Asks later earlier ∧
          less later earlier middle = .error fault after ∧
          plan.run less store = .error fault after) := by
  induction plan generalizing store with
  | done result => exact ⟨store, .refl, holds, .inl ⟨result, rfl, ensures⟩⟩
  | ask later earlier next ih =>
    obtain ⟨asks, goes⟩ := ensures
    cases compared : less later earlier store with
    | error fault after =>
      refine ⟨store, .refl, holds, .inr ⟨later, earlier, fault, after, asks, compared, ?_⟩⟩
      rw [Plan.run, bind_of_error compared]
    | ok answer after =>
      obtain ⟨given, holdsAfter⟩ := keeps _ _ _ _ _ asks holds compared
      obtain ⟨middle, chain, holdsMiddle, ends⟩ := ih answer after (goes answer given) holdsAfter
      have step : Answered less Asks store after := ⟨later, earlier, answer, asks, compared⟩
      rw [Plan.run, bind_of_ok compared]
      exact ⟨middle, .head step chain, holdsMiddle, ends⟩

end Following

/-! ## The natural order -/

namespace ArrayFunction

variable {items : List Value}

/-- Items are compared in the natural order. -/
def compareNaturally (left right : Value) : Run Bool :=
  Run.lift (naturalLess left right)

theorem sort_of_sortable (noNaN : NoNaN items) (sortable : Sortable items) (store : Store) :
    ∃ sorted, Sorting.sort compareNaturally items store = .ok sorted store ∧
      StableSort naturalLe items sorted := by
  let Asks (later earlier : Value) := later ∈ items ∧ earlier ∈ items ∧ Comparable later earlier
  let Gives (later earlier : Value) (answer : Bool) :=
    later ∈ items ∧ earlier ∈ items ∧ answer = !naturalLe earlier later
  have asks : items.Pairwise fun earlier later => Asks later earlier := by
    refine (List.Pairwise.and_mem.mp (sortable_iff_pairwise.mp sortable)).imp ?_
    exact fun both => ⟨both.2.1, both.1, both.2.2.symm⟩
  have answers {later earlier : Value} (asked : Asks later earlier) (store : Store) :
      compareNaturally later earlier store = .ok (!naturalLe earlier later) store := by
    rw [compareNaturally, naturalLess_of_comparable noNaN asked.1 asked.2.1 asked.2.2]
    rfl
  have keeps (later earlier : Value) (answer : Bool) (before after : Store)
      (asked : Asks later earlier) (same : before = store)
      (compared : compareNaturally later earlier before = .ok answer after) :
      Gives later earlier answer ∧ after = store := by
    cases (answers asked before).symm.trans compared
    exact ⟨⟨asked.1, asked.2.1, rfl⟩, same⟩
  obtain ⟨middle, -, rfl, ends⟩ := Plan.run_cases store (ensures_sort asks) keeps rfl
  rw [sort_eq_run]
  obtain ⟨sorted, ran, arranged⟩ | ⟨later, earlier, fault, after, asked, failed, -⟩ := ends
  · exact ⟨sorted, ran, arranged.stableSort_on (totalPreorderOn_naturalLe noNaN sortable)
      fun _ _ _ given => given⟩
  · cases (answers asked middle).symm.trans failed

/-- Every way to sort compares items that cannot be compared. -/
theorem sort_of_not_sortable (notSortable : ¬ Sortable items) (store : Store) :
    ∃ kind, Sorting.sort compareNaturally items store = .error (.error (.ofKind kind)) store := by
  let Gives (later earlier : Value) (answer : Bool) := naturalLess later earlier = .ok answer
  have keeps (later earlier : Value) (answer : Bool) (before after : Store) (_ : True)
      (same : before = store)
      (compared : compareNaturally later earlier before = .ok answer after) :
      Gives later earlier answer ∧ after = store := by
    obtain ⟨returned, rfl⟩ := Run.lift_eq_ok_iff.mp compared
    exact ⟨returned, same⟩
  have asks : items.Pairwise fun _ _ => True := List.pairwise_of_forall fun _ _ => trivial
  obtain ⟨middle, -, rfl, ends⟩ := Plan.run_cases store (ensures_sort asks) keeps rfl
  rw [sort_eq_run]
  obtain ⟨sorted, -, arranged⟩ | ⟨later, earlier, fault, after, -, failed, ran⟩ := ends
  · refine absurd (sortable_iff_pairwise.mpr ?_) notSortable
    exact arranged.pairwise (fun _ _ => .symm) (fun _ _ _ => .trans) fun _ _ _ =>
      comparable_of_naturalLess
  · rw [ran]
    unfold compareNaturally at failed
    cases compared : naturalLess later earlier with
    | ok answer =>
      rw [compared] at failed
      cases failed
    | error kind =>
      rw [compared] at failed
      cases failed
      exact ⟨kind, rfl⟩

end ArrayFunction

/-! ## Comparators -/

/-- A comparator answers to all items, in all stores that it leads to, with numbers that agree
with an order: they are negative exactly if the first item is less than the second. -/
structure Consistent (site : CallSite) (comparator : Value) (items : List Value)
    (le : Value → Value → Bool) (Holds : Store → Prop) : Prop where
  order : TotalPreorderOn le items
  answers : ∀ store, Holds store → ∀ x ∈ items, ∀ y ∈ items, ∃ n after,
    site.call comparator [x, y] store = .ok (.number n) after ∧ Holds after ∧ (n < 0 ↔ ¬ le y x)

/-- A call of a comparator with two items that gave a number. -/
def AnsweredCall (site : CallSite) (comparator : Value) (items : List Value)
    (before after : Store) : Prop :=
  ∃ x ∈ items, ∃ y ∈ items, ∃ n, site.call comparator [x, y] before = .ok (.number n) after

namespace ArrayFunction

variable {site : CallSite} {comparator : Value} {items : List Value}

theorem comparatorLess_cases (site : CallSite) (comparator left right : Value) (before : Store) :
    (∃ n after, site.call comparator [left, right] before = .ok (.number n) after ∧
      comparatorLess site comparator left right before = .ok (decide (n < 0)) after) ∨
    (∃ value after, site.call comparator [left, right] before = .ok value after ∧
      (∀ n, value ≠ .number n) ∧
      comparatorLess site comparator left right before =
        .error (.error (.ofKind (value.mismatch "number"))) after) ∨
    ∃ fault after, site.call comparator [left, right] before = .error fault after ∧
      comparatorLess site comparator left right before = .error fault after := by
  unfold comparatorLess
  cases called : site.call comparator [left, right] before with
  | error fault after => exact .inr (.inr ⟨fault, after, rfl, bind_of_error called⟩)
  | ok value after =>
    rw [bind_of_ok called]
    cases value with
    | number n => exact .inl ⟨n, after, rfl, rfl⟩
    | null | boolean _ | string _ | object _ | array _ | function _ =>
      exact .inr (.inl ⟨_, after, rfl, by simp, rfl⟩)

theorem answered_of_comparatorLess {left right : Value} {answer : Bool} {before after : Store}
    (compared : comparatorLess site comparator left right before = .ok answer after) :
    ∃ n, site.call comparator [left, right] before = .ok (.number n) after ∧
      answer = decide (n < 0) := by
  obtain ⟨n, _, called, same⟩ | ⟨_, _, _, _, failed⟩ | ⟨_, _, _, failed⟩ :=
    comparatorLess_cases site comparator left right before
  · cases same.symm.trans compared
    exact ⟨n, called, rfl⟩
  · cases failed.symm.trans compared
  · cases failed.symm.trans compared

theorem sort_of_consistent {le : Value → Value → Bool} {Holds : Store → Prop}
    (consistent : Consistent site comparator items le Holds) (holds : Holds store) :
    ∃ sorted middle, Sorting.sort (comparatorLess site comparator) items store =
        .ok sorted middle ∧ Holds middle ∧ StableSort le items sorted := by
  let Gives (later earlier : Value) (answer : Bool) :=
    later ∈ items ∧ earlier ∈ items ∧ answer = !le earlier later
  have keeps (later earlier : Value) (answer : Bool) (before after : Store)
      (asked : later ∈ items ∧ earlier ∈ items) (holds : Holds before)
      (compared : comparatorLess site comparator later earlier before = .ok answer after) :
      Gives later earlier answer ∧ Holds after := by
    obtain ⟨n, called, rfl⟩ := answered_of_comparatorLess compared
    obtain ⟨_, _, answered, holdsAfter, negative⟩ :=
      consistent.answers before holds later asked.1 earlier asked.2
    cases called.symm.trans answered
    exact ⟨⟨asked.1, asked.2, by simp [negative]⟩, holdsAfter⟩
  rw [sort_eq_run]
  obtain ⟨middle, -, holdsMiddle, ends⟩ :=
    Plan.run_cases store (ensures_sort (pairwise_members items)) keeps holds
  obtain ⟨sorted, ran, arranged⟩ | ⟨later, earlier, fault, after, asked, failed, -⟩ := ends
  · exact ⟨sorted, middle, ran, holdsMiddle,
      arranged.stableSort_on consistent.order fun _ _ _ given => given⟩
  · obtain ⟨_, _, answered, -⟩ :=
      consistent.answers middle holdsMiddle later asked.1 earlier asked.2
    obtain ⟨_, _, _, same⟩ | ⟨_, _, called, notNumber, _⟩ | ⟨_, _, called, _⟩ :=
      comparatorLess_cases site comparator later earlier middle
    · cases same.symm.trans failed
    · cases called.symm.trans answered
      exact absurd rfl (notNumber _)
    · cases called.symm.trans answered

/-- Whatever a comparator does, it is called until all items are arranged, or until the first
call that does not give a number. -/
theorem sort_cases (site : CallSite) (comparator : Value) (items : List Value) (store : Store) :
    ∃ middle, Relation.ReflTransGen (AnsweredCall site comparator items) store middle ∧
      ((∃ sorted, Sorting.sort (comparatorLess site comparator) items store = .ok sorted middle ∧
        sorted.Perm items) ∨
      ∃ x ∈ items, ∃ y ∈ items, ∃ fault after,
        comparatorLess site comparator x y middle = .error fault after ∧
        Sorting.sort (comparatorLess site comparator) items store = .error fault after) := by
  have keeps (later earlier : Value) (answer : Bool) (before after : Store)
      (_ : later ∈ items ∧ earlier ∈ items) (_ : True)
      (_ : comparatorLess site comparator later earlier before = .ok answer after) :
      True ∧ True := ⟨trivial, trivial⟩
  rw [sort_eq_run]
  obtain ⟨middle, chain, -, ends⟩ :=
    Plan.run_cases store (ensures_sort (pairwise_members items)) keeps trivial
  refine ⟨middle, Relation.ReflTransGen.mono ?_ _ _ chain, ?_⟩
  · rintro before after ⟨later, earlier, answer, ⟨hasLater, hasEarlier⟩, compared⟩
    obtain ⟨n, called, -⟩ := answered_of_comparatorLess compared
    exact ⟨later, hasLater, earlier, hasEarlier, n, called⟩
  · obtain ⟨sorted, ran, arranged⟩ | ⟨later, earlier, fault, after, asked, failed, ran⟩ := ends
    · exact .inl ⟨sorted, ran, arranged.perm⟩
    · exact .inr ⟨later, asked.1, earlier, asked.2, fault, after, failed, ran⟩

end ArrayFunction

/-! ## Sorting an array -/

section Arrays

variable {less : Value → Value → Run Bool} {items sorted : List Value} {middle : Store}
variable (change : EvalError → EvalError)

/-- What is sorted becomes an array. -/
theorem newArray_of_sort (ran : sort less items store = .ok sorted middle) :
    ∃ new after, Run.mapError change (do Run.newArray (← sort less items).toArray) store =
        .ok (.array new) after ∧ middle.Added new sorted after := by
  refine ⟨_, _, Run.mapError_eq_ok_iff.mpr ?_, middle.added_addArray sorted.toArray⟩
  rw [bind_of_ok ran]
  rfl

theorem mapError_of_sort {fault : Fault} (ran : sort less items store = .error fault middle) :
    Run.mapError change (do Run.newArray (← sort less items).toArray) store =
      Run.mapError change (fun _ => .error fault middle) store := by
  rw [Run.mapError, bind_of_error ran]
  rfl

end Arrays

/-- What sorting an array by the natural order comes to. -/
structure SortsNaturally (site : CallSite) (store : Store) (ref : ArrayRef)
    (items : List Value) : Prop where
  sorts : ArrayFunction.Sortable items → ∃ new after sorted,
    (Native.arrays .sort).dispatch site [.array ref] store = .ok (.array new) after ∧
      store.Added new sorted after ∧ StableSort ArrayFunction.naturalLe items sorted
  refuses : ¬ ArrayFunction.Sortable items → ∃ error,
    (Native.arrays .sort).dispatch site [.array ref] store = .error (.error error) store

/-- How sorting by a comparator ends, after calls that all gave numbers: with a new array, or
with the first call that fails or gives something else.  Nothing happens after that call. -/
inductive SortEnds (site : CallSite) (comparator : Value) (items : List Value)
    (middle : Store) : EStateM.Result Fault Store Value → Prop where
  | sorted {new : ArrayRef} {sorted : List Value} {after : Store} :
      middle.Added new sorted after → sorted.Perm items →
      SortEnds site comparator items middle (.ok (.array new) after)
  | failed {x y : Value} {fault : Fault} {after : Store} :
      x ∈ items → y ∈ items → site.call comparator [x, y] middle = .error fault after →
      SortEnds site comparator items middle
        (Run.mapError ((Native.arrays .sort).reportError site.span)
          (site.call comparator [x, y]) middle)
  | noNumber {x y value : Value} {after : Store} :
      x ∈ items → y ∈ items → site.call comparator [x, y] middle = .ok value after →
      (∀ n, value ≠ .number n) →
      SortEnds site comparator items middle (.error
        (.error ((Native.arrays .sort).report site.span (value.mismatch "number"))) after)

theorem sortEnds_of_error (store : Store) {site : CallSite} {comparator x y : Value}
    {items : List Value} {middle after : Store} {fault : Fault} (hasX : x ∈ items)
    (hasY : y ∈ items)
    (failed : ArrayFunction.comparatorLess site comparator x y middle = .error fault after) :
    SortEnds site comparator items middle
      (Run.mapError ((Native.arrays .sort).reportError site.span) (fun _ => .error fault after)
        store) := by
  obtain ⟨_, _, _, same⟩ | ⟨value, _, called, notNumber, same⟩ | ⟨_, _, called, same⟩ :=
    ArrayFunction.comparatorLess_cases site comparator x y middle
  · cases same.symm.trans failed
  · cases same.symm.trans failed
    exact .noNumber hasX hasY called notNumber
  · cases same.symm.trans failed
    have reported := SortEnds.failed hasX hasY called
    rw [Run.mapError, called] at reported
    exact reported

open SizeLimit (holding only)

/-- A place where every function compares truth values. -/
def truthSite : CallSite where
  call
    | _, [.boolean false, .boolean true] => pure (.number (-1))
    | _, _ => pure (.number 0)
  span := default

/-- False comes before true. -/
def truthLe : Value → Value → Bool
  | .boolean true, .boolean false => false
  | _, _ => true

end PatchScript
