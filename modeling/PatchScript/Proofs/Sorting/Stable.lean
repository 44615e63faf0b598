import Mathlib.Order.Lattice
import PatchScript.Proofs.Sorting.Plan

/-!
# Stable sorting

What is arranged by answers that agree with an order is sorted stably by it.  And whatever the
answers are, they relate all items to each other: an item that was never compared could not
have been put into its place.
-/

namespace PatchScript
namespace Sorting

variable {α : Type} {Gives : α → α → Bool → Prop} {items result : List α}

/-! ## Orders and sorted lists -/

/-- Two items that an order does not tell apart. -/
def equivalent (le : α → α → Bool) (x y : α) : Bool :=
  le x y && le y x

/-- A list is another one in order, and items that the order does not tell apart are left in
the order in which they were. -/
structure StableSort (le : α → α → Bool) (items sorted : List α) : Prop where
  perm : sorted.Perm items
  ordered : sorted.Pairwise fun x y => le x y
  stable : ∀ x ∈ items, sorted.filter (equivalent le x) = items.filter (equivalent le x)

/-- Every two of the items can be compared, and comparisons can be chained. -/
structure TotalPreorderOn (le : α → α → Bool) (items : List α) : Prop where
  total : ∀ x ∈ items, ∀ y ∈ items, le x y ∨ le y x
  trans : ∀ x ∈ items, ∀ y ∈ items, ∀ z ∈ items, le x y → le y z → le x z

/-- Items that are compared by a key are preordered. -/
theorem TotalPreorderOn.of_key {κ : Type} [LinearOrder κ] {le : α → α → Bool} (key : α → κ)
    (agrees : ∀ x ∈ items, ∀ y ∈ items, le x y ↔ key x ≤ key y) : TotalPreorderOn le items where
  total x hasX y hasY := by
    rw [agrees x hasX y hasY, agrees y hasY x hasX]
    exact le_total _ _
  trans x hasX y hasY z hasZ := by
    rw [agrees x hasX y hasY, agrees y hasY z hasZ, agrees x hasX z hasZ]
    exact le_trans

/-! ## Order -/

section Order

variable {le : α → α → Bool}
variable (total : ∀ x y, le x y ∨ le y x) (trans : ∀ x y z, le x y → le y z → le x z)
variable (answered : ∀ later earlier answer, Gives later earlier answer →
  answer = !le earlier later)

include answered

theorem not_le_of_given {later earlier : α} (given : Gives later earlier true) :
    ¬ le earlier later := by
  simpa using (answered _ _ _ given).symm

theorem le_of_given {later earlier : α} (given : Gives later earlier false) : le earlier later := by
  simpa using (answered _ _ _ given).symm

include trans

theorem Inserted.filter {item : α} {sorted : List α} (inserted : Inserted Gives item sorted result)
    (x : α) : result.filter (equivalent le x) = (item :: sorted).filter (equivalent le x) := by
  induction inserted with
  | nil => rfl
  | behind _ => rfl
  | @before last earlier result given _ ih =>
    have less := not_le_of_given answered given
    rw [List.filter_cons, ih]
    by_cases here : equivalent le x last = true
    · have apart : equivalent le x item = false := by
        refine Bool.eq_false_iff.mpr fun also => less (trans last x item ?_ ?_)
        · exact (Bool.and_eq_true_iff.mp here).2
        · exact (Bool.and_eq_true_iff.mp also).1
      simp [here, apart]
    · simp [List.filter_cons, here]

theorem Merged.filter {earlier later : List α} (merged : Merged Gives earlier later result)
    (ordered : earlier.Pairwise fun x y => le x y) (x : α) :
    result.filter (equivalent le x) = (earlier ++ later).filter (equivalent le x) := by
  induction merged with
  | later later => rfl
  | earlier earlier => rw [List.append_nil]
  | @second first second earlier later result given _ ih =>
    have less := not_le_of_given answered given
    rw [List.filter_append, List.filter_cons, ih ordered, List.filter_append]
    by_cases here : equivalent le x second = true
    · -- What is not less than the first is not equivalent to the second.
      have none : (first :: earlier).filter (equivalent le x) = [] := by
        refine List.filter_eq_nil_iff.mpr fun y member also => less ?_
        have above : le first x := by
          obtain rfl | inside := List.mem_cons.mp member
          · exact (Bool.and_eq_true_iff.mp also).2
          · exact trans _ _ _ ((List.pairwise_cons.mp ordered).1 y inside)
              (Bool.and_eq_true_iff.mp also).2
        exact trans _ _ _ above (Bool.and_eq_true_iff.mp here).1
      simp [none, here]
    · simp [here]
  | @first first second earlier later result given _ ih =>
    rw [List.filter_cons, ih (List.pairwise_cons.mp ordered).2, List.cons_append, List.filter_cons]

include total

theorem Inserted.ordered {item : α} {sorted : List α} (inserted : Inserted Gives item sorted result)
    (ordered : sorted.Pairwise fun x y => le y x) : result.Pairwise fun x y => le y x := by
  induction inserted with
  | nil => exact List.pairwise_singleton _ _
  | @before last earlier result given inserted ih =>
    obtain ⟨below, rest⟩ := List.pairwise_cons.mp ordered
    refine List.pairwise_cons.mpr ⟨fun y member => ?_, ih rest⟩
    obtain rfl | old := List.mem_cons.mp (inserted.perm.mem_iff.mp member)
    · exact (total y last).resolve_right (not_le_of_given answered given)
    · exact below y old
  | @behind last earlier given =>
    refine List.pairwise_cons.mpr ⟨fun y member => ?_, ordered⟩
    obtain rfl | old := List.mem_cons.mp member
    · exact le_of_given answered given
    · exact trans _ _ _ ((List.pairwise_cons.mp ordered).1 y old) (le_of_given answered given)

theorem Merged.ordered {earlier later : List α} (merged : Merged Gives earlier later result)
    (ordered : earlier.Pairwise fun x y => le x y)
    (orderedLater : later.Pairwise fun x y => le x y) : result.Pairwise fun x y => le x y := by
  induction merged with
  | later later => exact orderedLater
  | earlier earlier => exact ordered
  | @second first second earlier later result given merged ih =>
    obtain ⟨below, rest⟩ := List.pairwise_cons.mp orderedLater
    have less : le second first :=
      (total second first).resolve_right (not_le_of_given answered given)
    refine List.pairwise_cons.mpr ⟨fun y member => ?_, ih ordered rest⟩
    obtain inside | inside := List.mem_append.mp (merged.perm.mem_iff.mp member)
    · obtain rfl | behind := List.mem_cons.mp inside
      · exact less
      · exact trans _ _ _ less ((List.pairwise_cons.mp ordered).1 y behind)
    · exact below y inside
  | @first first second earlier later result given merged ih =>
    obtain ⟨below, rest⟩ := List.pairwise_cons.mp ordered
    have notLess : le first second := le_of_given answered given
    refine List.pairwise_cons.mpr ⟨fun y member => ?_, ih rest orderedLater⟩
    obtain inside | inside := List.mem_append.mp (merged.perm.mem_iff.mp member)
    · exact below y inside
    · obtain rfl | behind := List.mem_cons.mp inside
      · exact notLess
      · exact trans _ _ _ notLess ((List.pairwise_cons.mp orderedLater).1 y behind)

variable (arranged : Arranged Gives items result)
include arranged

theorem Arranged.ordered : result.Pairwise fun x y => le x y := by
  induction arranged with
  | nil => exact .nil
  | insert _ inserted ih =>
    rw [List.pairwise_reverse] at ih ⊢
    exact inserted.ordered total trans answered ih
  | merge _ _ merged ofFront ofBack => exact merged.ordered total trans answered ofFront ofBack

theorem Arranged.filter (x : α) :
    result.filter (equivalent le x) = items.filter (equivalent le x) := by
  induction arranged with
  | nil => rfl
  | insert _ inserted ih =>
    rw [List.filter_reverse] at ih ⊢
    rw [inserted.filter trans answered, List.filter_append, ← ih, List.filter_cons]
    split <;> simp_all
  | merge front _ merged ofFront ofBack =>
    rw [merged.filter trans answered (front.ordered total trans answered), List.filter_append,
      List.filter_append, ofFront, ofBack]

theorem Arranged.stableSort : StableSort le items result where
  perm := arranged.perm
  ordered := arranged.ordered total trans answered
  stable x _ := arranged.filter total trans answered x

end Order

/-- It is enough that the items can be compared. -/
theorem Arranged.stableSort_on {le : α → α → Bool} (preorder : TotalPreorderOn le items)
    (answered : ∀ later earlier answer, Gives later earlier answer →
      later ∈ items ∧ earlier ∈ items ∧ answer = !le earlier later)
    (arranged : Arranged Gives items result) :
    StableSort le items result := by
  classical
  -- What is not among the items comes after them.
  let within (x y : α) : Bool := decide (y ∉ items) || (decide (x ∈ items) && le x y)
  have agrees {x y : α} (hasX : x ∈ items) (hasY : y ∈ items) : within x y = le x y := by
    simp [within, hasX, hasY]
  have sorted : StableSort within items result := by
    refine arranged.stableSort (fun x y => ?_) (fun x y z first second => ?_) ?_
    · by_cases hasX : x ∈ items <;> by_cases hasY : y ∈ items
      · rw [agrees hasX hasY, agrees hasY hasX]
        exact preorder.total x hasX y hasY
      all_goals simp [within, hasX, hasY]
    · by_cases hasZ : z ∈ items
      · obtain ⟨hasY, leZ⟩ : y ∈ items ∧ le y z := by simpa [within, hasZ] using second
        obtain ⟨hasX, leY⟩ : x ∈ items ∧ le x y := by simpa [within, hasY] using first
        rw [agrees hasX hasZ]
        exact preorder.trans x hasX y hasY z hasZ leY leZ
      · simp [within, hasZ]
    · intro later earlier answer given
      obtain ⟨hasLater, hasEarlier, rfl⟩ := answered later earlier answer given
      rw [agrees hasEarlier hasLater]
  have member {y : α} : y ∈ result ↔ y ∈ items := sorted.perm.mem_iff
  refine ⟨sorted.perm, ?_, fun x hasX => ?_⟩
  · refine sorted.ordered.imp_of_mem fun hasX hasY le => ?_
    rwa [agrees (member.mp hasX) (member.mp hasY)] at le
  · have same (y : α) (hasY : y ∈ items) : equivalent le x y = equivalent within x y := by
      rw [equivalent, equivalent, agrees hasX hasY, agrees hasY hasX]
    rw [List.filter_congr fun y present => same y (member.mp present), sorted.stable x hasX,
      List.filter_congr same]

/-! ## Comparisons relate all items -/

section Related

variable {Related : α → α → Prop} (symm : ∀ x y, Related x y → Related y x)
variable (trans : ∀ x y z, Related x y → Related y z → Related x z)

include symm trans

/-- Whoever is related to the first is related to all. -/
theorem related_of_pairwise {first other x : α} {rest : List α}
    (pairwise : (first :: rest).Pairwise Related) (related : Related first other)
    (member : x ∈ first :: rest) : Related x other := by
  obtain rfl | inside := List.mem_cons.mp member
  · exact related
  · exact trans _ _ _ (symm _ _ ((List.pairwise_cons.mp pairwise).1 x inside)) related

/-- If only related items can be compared, all items are related: each was compared when it was
inserted, or one of its list when lists were merged. -/
theorem Arranged.pairwise
    (answered : ∀ later earlier answer, Gives later earlier answer → Related later earlier)
    (arranged : Arranged Gives items result) : items.Pairwise Related := by
  have permuted {l l' : List α} (perm : l.Perm l') (pairwise : l'.Pairwise Related) :
      l.Pairwise Related := (perm.pairwise_iff fun {x y} => symm x y).mpr pairwise
  induction arranged with
  | nil => exact .nil
  | @insert items sorted result item before inserted ih =>
    have perm : sorted.Perm items := (List.reverse_perm sorted).symm.trans before.perm
    have pairwise := permuted perm ih
    refine List.pairwise_append.mpr ⟨ih, List.pairwise_singleton _ _, fun x member y isItem => ?_⟩
    rw [List.mem_singleton.mp isItem]
    have old := perm.mem_iff.mpr member
    cases inserted with
    | nil => cases old
    | before given _ | behind given =>
      exact related_of_pairwise symm trans pairwise (symm _ _ (answered _ _ _ given)) old
  | @merge front back earlier later result ofFront ofBack merged ihFront ihBack =>
    have pairwiseFront := permuted ofFront.perm ihFront
    have pairwiseBack := permuted ofBack.perm ihBack
    refine List.pairwise_append.mpr ⟨ihFront, ihBack, fun x inFront y inBack => ?_⟩
    have old := ofFront.perm.mem_iff.mpr inFront
    have new := ofBack.perm.mem_iff.mpr inBack
    cases merged with
    | later => cases old
    | earlier => cases new
    | second given _ | first given _ =>
      have toFirst := related_of_pairwise symm trans pairwiseBack (answered _ _ _ given) new
      exact related_of_pairwise symm trans pairwiseFront (symm _ _ toFirst) old

end Related
end Sorting
end PatchScript
