import PatchScript.Sorting
import Mathlib.Data.List.Basic

/-!
# Sorting as a plan of questions

Sorting only learns about items what comparisons answer.  So there is a tree of questions that
does not know how items are compared, and to sort in any monad is to follow it.  What is said
of all ways through the tree holds however items are compared: with effects, with failures, or
with answers that contradict each other.
-/

namespace PatchScript
namespace Sorting

variable {α β γ : Type}

/-! ## Plans -/

/-- A tree of questions: whether the later of two items is less than the earlier. -/
inductive Plan (α β : Type) where
  | done (result : β)
  | ask (later earlier : α) (next : Bool → Plan α β)

namespace Plan

def bind : Plan α β → (β → Plan α γ) → Plan α γ
  | done result, next => next result
  | ask later earlier answered, next => ask later earlier fun answer => (answered answer).bind next

instance : Monad (Plan α) where
  pure := done
  bind := bind

/-- The question about two items. -/
def query (later earlier : α) : Plan α Bool :=
  ask later earlier done

/-- Follow a plan. -/
def run {m : Type → Type} [Monad m] (less : α → α → m Bool) : Plan α β → m β
  | done result => pure result
  | ask later earlier next => do
    (next (← less later earlier)).run less

section Run

variable {m : Type → Type} [Monad m] {less : α → α → m Bool}

theorem run_pure (result : β) : (pure result : Plan α β).run less = pure result := rfl

variable [LawfulMonad m]

theorem run_bind (plan : Plan α β) (next : β → Plan α γ) :
    (plan >>= next).run less = plan.run less >>= fun result => (next result).run less := by
  induction plan with
  | done result => exact (pure_bind result fun result => (next result).run less).symm
  | ask later earlier answered ih =>
    refine Eq.trans ?_ (bind_assoc _ _ _).symm
    exact bind_congr fun answer => ih answer

theorem run_query (later earlier : α) : (query later earlier).run less = less later earlier :=
  bind_pure (less later earlier)

end Run

/-- Only some questions are asked, and if only some answers are given, the result is as it
should be. -/
def Ensures (Asks : α → α → Prop) (Gives : α → α → Bool → Prop)
    (Result : β → Prop) : Plan α β → Prop
  | done result => Result result
  | ask later earlier next =>
    Asks later earlier ∧ ∀ answer, Gives later earlier answer →
      (next answer).Ensures Asks Gives Result

variable {Asks : α → α → Prop} {Gives : α → α → Bool → Prop}

theorem Ensures.imp {Result Other : β → Prop} {plan : Plan α β}
    (ensures : plan.Ensures Asks Gives Result) (implies : ∀ result, Result result → Other result) :
    plan.Ensures Asks Gives Other := by
  induction plan with
  | done result => exact implies result ensures
  | ask later earlier next ih =>
    exact ⟨ensures.1, fun answer given => ih answer (ensures.2 answer given)⟩

theorem Ensures.bind {Result : β → Prop} {Next : γ → Prop} {plan : Plan α β} {next : β → Plan α γ}
    (first : plan.Ensures Asks Gives Result)
    (then' : ∀ result, Result result → (next result).Ensures Asks Gives Next) :
    (plan >>= next).Ensures Asks Gives Next := by
  induction plan with
  | done result => exact then' result first
  | ask later earlier answered ih =>
    exact ⟨first.1, fun answer given => ih answer (first.2 answer given)⟩

end Plan

open Plan

/-! ## Sorting follows a plan -/

section Following

variable {m : Type → Type} [Monad m] [LawfulMonad m] (less : β → β → m Bool) (image : α → β)

theorem insertLast_map (item : α) (sorted : List α) :
    insertLast less (image item) (sorted.map image) = List.map image <$>
      (insertLast query item sorted).run fun later earlier =>
        less (image later) (image earlier) := by
  induction sorted with
  | nil => simp [insertLast, run_pure]
  | cons last earlier ih =>
    simp only [List.map_cons, insertLast, run_bind, run_query, map_bind]
    refine bind_congr fun answer => ?_
    cases answer with
    | true => simp [ih, run_bind, run_pure]
    | false => simp [run_pure]

theorem insertAll_map (items sorted : List α) :
    insertAll less (items.map image) (sorted.map image) = List.map image <$>
      (insertAll query items sorted).run fun later earlier =>
        less (image later) (image earlier) := by
  induction items generalizing sorted with
  | nil => simp [insertAll, run_pure]
  | cons item items ih => simp [insertAll, insertLast_map, run_bind, ih]

theorem merge_map (earlier later : List α) :
    merge less (earlier.map image) (later.map image) = List.map image <$>
      (merge query earlier later).run fun later earlier => less (image later) (image earlier) := by
  induction earlier, later using merge.induct with
  | case1 later => simp [merge, run_pure]
  | case2 earlier notNil =>
    obtain ⟨first, earlier, rfl⟩ := List.exists_cons_of_ne_nil notNil
    simp [merge, run_pure]
  | case3 first earlier second later ihSecond ihFirst =>
    simp only [List.map_cons, merge, run_bind, run_query, map_bind]
    refine bind_congr fun answer => ?_
    cases answer with
    | true =>
      rw [List.map_cons] at ihSecond
      simp [ihSecond, run_bind, run_pure]
    | false =>
      rw [List.map_cons] at ihFirst
      simp [ihFirst, run_bind, run_pure]

theorem sort_map (items : List α) :
    sort less (items.map image) = List.map image <$>
      (sort query items).run fun later earlier => less (image later) (image earlier) := by
  induction items using sort.induct with
  | case1 items short =>
    have inserts := insertAll_map less image items []
    rw [sort, dif_pos (by simpa using short), sort, dif_pos short, insertionSort, insertionSort]
    rw [List.map_nil] at inserts
    simp [inserts, run_bind, run_pure]
  | case2 items long half ofEarlier =>
    rename_i ofLater
    rw [sort, dif_neg (by simpa using long), sort, dif_neg long]
    simp only [half] at ofEarlier ofLater
    simp only [List.length_map, ← List.map_take, ← List.map_drop, ofEarlier, ofLater, run_bind,
      map_bind, bind_map_left, merge_map]

/-- To sort is to follow the plan. -/
theorem sort_eq_run (less : α → α → m Bool) (items : List α) :
    sort less items = (sort query items).run less := by
  have follows := sort_map less id items
  simpa using follows

end Following

/-! ## What comes out -/

variable {Asks : α → α → Prop} {Gives : α → α → Bool → Prop}

/-- An item is inserted into a list that goes from last to first. -/
inductive Inserted (Gives : α → α → Bool → Prop) (item : α) : List α → List α → Prop where
  | nil : Inserted Gives item [] [item]
  | before {last : α} {earlier result : List α} :
      Gives item last true → Inserted Gives item earlier result →
      Inserted Gives item (last :: earlier) (last :: result)
  | behind {last : α} {earlier : List α} :
      Gives item last false → Inserted Gives item (last :: earlier) (item :: last :: earlier)

/-- Two lists are merged. -/
inductive Merged (Gives : α → α → Bool → Prop) : List α → List α → List α → Prop where
  | later (later : List α) : Merged Gives [] later later
  | earlier (earlier : List α) : Merged Gives earlier [] earlier
  | second {first second : α} {earlier later result : List α} :
      Gives second first true → Merged Gives (first :: earlier) later result →
      Merged Gives (first :: earlier) (second :: later) (second :: result)
  | first {first second : α} {earlier later result : List α} :
      Gives second first false → Merged Gives earlier (second :: later) result →
      Merged Gives (first :: earlier) (second :: later) (first :: result)

/-- Items are arranged by insertion and merging, as answers of some kind tell. -/
inductive Arranged (Gives : α → α → Bool → Prop) : List α → List α → Prop where
  | nil : Arranged Gives [] []
  | insert {items sorted result : List α} {item : α} :
      Arranged Gives items sorted.reverse → Inserted Gives item sorted result →
      Arranged Gives (items ++ [item]) result.reverse
  | merge {front back earlier later result : List α} :
      Arranged Gives front earlier → Arranged Gives back later →
      Merged Gives earlier later result → Arranged Gives (front ++ back) result

theorem Inserted.perm {item : α} {sorted result : List α}
    (inserted : Inserted Gives item sorted result) : result.Perm (item :: sorted) := by
  induction inserted with
  | nil => exact .refl _
  | @before last earlier _ _ _ ih => exact (ih.cons last).trans (.swap item last earlier)
  | behind _ => exact .refl _

theorem Merged.perm {earlier later result : List α} (merged : Merged Gives earlier later result) :
    result.Perm (earlier ++ later) := by
  induction merged with
  | later later => exact .refl _
  | earlier earlier => rw [List.append_nil]
  | second _ _ ih => exact (ih.cons _).trans List.perm_middle.symm
  | first _ _ ih => exact ih.cons _

theorem Arranged.perm {items result : List α} (arranged : Arranged Gives items result) :
    result.Perm items := by
  induction arranged with
  | nil => exact .refl _
  | @insert items sorted result item _ inserted ih =>
    have old : sorted.Perm items := (List.reverse_perm sorted).symm.trans ih
    have new : result.reverse.Perm (item :: items) :=
      (List.reverse_perm result).trans (inserted.perm.trans (old.cons item))
    exact new.trans (List.perm_append_singleton item items).symm
  | merge _ _ merged ofFront ofBack => exact merged.perm.trans (ofFront.append ofBack)

/-! ## The plan of sorting -/

theorem ensures_insertLast {item : α} {sorted : List α} (asks : ∀ other ∈ sorted, Asks item other) :
    (insertLast query item sorted).Ensures Asks Gives (Inserted Gives item sorted) := by
  induction sorted with
  | nil => exact .nil
  | cons last earlier ih =>
    obtain ⟨asksLast, asksEarlier⟩ := List.forall_mem_cons.mp asks
    refine ⟨asksLast, fun answer given => ?_⟩
    cases answer with
    | true => exact (ih asksEarlier).bind fun result inserted => .before given inserted
    | false => exact .behind given

theorem ensures_insertAll {done items sorted : List α}
    (asks : (done ++ items).Pairwise fun earlier later => Asks later earlier)
    (arranged : Arranged Gives done sorted.reverse) :
    (insertAll query items sorted).Ensures Asks Gives fun result =>
      Arranged Gives (done ++ items) result.reverse := by
  induction items generalizing done sorted with
  | nil =>
    rw [List.append_nil]
    exact arranged
  | cons item items ih =>
    have old : ∀ other ∈ sorted, Asks item other := fun other member =>
      (List.pairwise_append.mp asks).2.2 other
        (arranged.perm.mem_iff.mp (List.mem_reverse.mpr member)) item List.mem_cons_self
    refine (ensures_insertLast old).bind fun result inserted => ?_
    rw [List.append_cons] at asks ⊢
    exact ih asks (.insert arranged inserted)

theorem ensures_merge {earlier later : List α}
    (asks : ∀ second ∈ later, ∀ first ∈ earlier, Asks second first) :
    (merge query earlier later).Ensures Asks Gives (Merged Gives earlier later) := by
  fun_induction merge query earlier later with
  | case1 later => exact .later later
  | case2 earlier _ => exact .earlier earlier
  | case3 first earlier second later ihSecond ihFirst =>
    refine ⟨asks second List.mem_cons_self first List.mem_cons_self, fun answer given => ?_⟩
    cases answer with
    | true =>
      refine (ihSecond fun item member => asks item (List.mem_cons_of_mem _ member)).bind ?_
      exact fun result merged => .second given merged
    | false =>
      refine (ihFirst fun item member other present => asks item member other
        (List.mem_cons_of_mem _ present)).bind ?_
      exact fun result merged => .first given merged

/-- Sorting only asks about items of which one stands later than the other, and arranges them as
the answers tell. -/
theorem ensures_sort {items : List α}
    (asks : items.Pairwise fun earlier later => Asks later earlier) :
    (sort query items).Ensures Asks Gives (Arranged Gives items) := by
  fun_induction sort query items with
  | case1 items _ =>
    have start : Arranged Gives [] [].reverse := .nil
    exact (ensures_insertAll asks start).bind fun result arranged => arranged
  | case2 items _ half ofFront =>
    rename_i ofBack
    rw [← List.take_append_drop half items] at asks
    obtain ⟨front, back, across⟩ := List.pairwise_append.mp asks
    refine (ofFront front).bind fun earlier arranged => ?_
    refine (ofBack back).bind fun later arrangedLater => ?_
    refine (ensures_merge fun second member first present => ?_).imp fun result merged => ?_
    · exact across first (arranged.perm.mem_iff.mp present) second
        (arrangedLater.perm.mem_iff.mp member)
    · rw [← List.take_append_drop half items]
      exact .merge arranged arrangedLater merged

/-- Items of which one stands later than the other. -/
theorem pairwise_members (items : List α) :
    items.Pairwise fun earlier later => later ∈ items ∧ earlier ∈ items :=
  List.pairwise_of_forall_mem_list fun _ earlier _ later => ⟨later, earlier⟩

end Sorting
end PatchScript
