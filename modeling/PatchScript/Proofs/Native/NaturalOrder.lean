import Mathlib
import PatchScript.Native.Arrays
import PatchScript.Proofs.Sorting.Stable

/-!
# The natural order of values

Numbers are ordered by size and texts by their code points; nothing else can be compared.  On
numbers that are none the order of doubles is not total, but on all others it is: every double
has a rank, and is compared by it.
-/

namespace PatchScript

/-! ## Numbers -/

namespace Number

open Float.Model (UnpackedFloat)

/-- Where a double stands among those that are numbers: first by its sign, or that it has none,
then by its exponent and its significand. -/
def rank : UnpackedFloat → Int ×ₗ Int ×ₗ Int
  | .infinity .positive => toLex (2, toLex (0, 0))
  | .infinity .negative => toLex (-2, toLex (0, 0))
  | .finite .positive mantissa exponent _ => toLex (1, toLex (exponent, mantissa))
  | .finite .negative mantissa exponent _ => toLex (-1, toLex (-exponent, -mantissa))
  | .zero _ | .notANumber => toLex (0, toLex (0, 0))

theorem compare_toLex (a b c a' b' c' : Int) :
    compare (toLex (a, toLex (b, c))) (toLex (a', toLex (b', c'))) =
      (compare a a').then ((compare b b').then (compare c c')) := by
  simp only [Prod.Lex.compare_def, compareLex, compareOn, ofLex_toLex]

theorem compare_neg (a b : Int) : compare (-a) (-b) = (compare a b).swap := by
  rw [← Std.OrientedOrd.eq_swap]
  simp only [Int.compare_eq_ite_lt]
  grind

theorem compare_natCast (m n : Nat) : compare (m : Int) n = compare m n := by
  simp only [Int.compare_eq_ite_lt, Nat.compare_eq_ite_lt, Int.ofNat_lt]

theorem compare_eq_rank {x y : UnpackedFloat} (isNumber : x.isNaN = false)
    (isNumber' : y.isNaN = false) : x.compare y = some (compare (rank x) (rank y)) := by
  cases x <;> cases y
  case finite.finite sign m e _ other n f _ =>
    cases sign <;> cases other <;> rw [rank, rank, compare_toLex]
    case positive.positive =>
      rw [compare_natCast]
      rfl
    case negative.negative =>
      rw [compare_neg e, compare_neg m, compare_natCast, ← Ordering.swap_then]
      rfl
    all_goals rfl
  case infinity.infinity sign other | infinity.finite sign other _ _ _ |
      finite.infinity sign _ _ _ other => cases sign <;> cases other <;> rfl
  case infinity.zero sign _ | finite.zero sign _ _ _ _ | zero.infinity _ sign |
      zero.finite _ sign _ _ _ => cases sign <;> rfl
  case zero.zero => rfl
  case notANumber.notANumber | notANumber.zero | notANumber.finite | notANumber.infinity =>
    cases isNumber
  all_goals cases isNumber'

variable {x y : Float} (isNumber : x.isNaN = false) (isNumber' : y.isNaN = false)

include isNumber isNumber'

theorem lt_iff_rank : x < y ↔ rank x.toModel.unpack < rank y.toModel.unpack := by
  have compared : x < y ↔ x.toModel.unpack.lt y.toModel.unpack = true := decide_eq_true_iff
  rw [compared, UnpackedFloat.lt, compare_eq_rank isNumber isNumber']
  simp [compare_lt_iff_lt]

theorem le_iff_rank : x ≤ y ↔ rank x.toModel.unpack ≤ rank y.toModel.unpack := by
  have compared : x ≤ y ↔ x.toModel.unpack.le y.toModel.unpack = true := decide_eq_true_iff
  rw [compared, UnpackedFloat.le, compare_eq_rank isNumber isNumber']
  simp [← compare_le_iff_le, Ordering.isLE_iff_ne_gt]

end Number

/-! ## Values -/

namespace ArrayFunction

open Sorting

variable {left right : Value} {items : List Value}

/-- Numbers by size and texts by code points; other values are not told apart. -/
def naturalLe : Value → Value → Bool
  | .number x, .number y => x ≤ y
  | .string first, .string second => first ≤ second
  | _, _ => true

/-- Values that can be compared: two numbers or two texts. -/
inductive Comparable : Value → Value → Prop where
  | numbers (x y : Float) : Comparable (.number x) (.number y)
  | texts (first second : String) : Comparable (.string first) (.string second)

namespace Comparable

theorem symm (comparable : Comparable left right) : Comparable right left := by
  cases comparable with
  | numbers x y => exact .numbers y x
  | texts first second => exact .texts second first

theorem trans {other : Value} (first : Comparable left right) (second : Comparable right other) :
    Comparable left other := by
  cases first with
  | numbers x y =>
    cases second with
    | numbers _ z => exact .numbers x z
  | texts first _ =>
    cases second with
    | texts _ third => exact .texts first third

end Comparable

theorem comparable_of_naturalLess {answer : Bool} (compared : naturalLess left right = .ok answer) :
    Comparable left right := by
  unfold naturalLess at compared
  split at compared
  · exact .numbers _ _
  · exact .texts _ _
  · cases compared

/-- Items that can be put in order: less than two, or all numbers or all texts. -/
def Sortable (items : List Value) : Prop :=
  items.length < 2 ∨ (∀ item ∈ items, ∃ x, item = .number x) ∨
    ∀ item ∈ items, ∃ text, item = .string text

/-- Items can be put in order exactly if every two of them can be compared. -/
theorem sortable_iff_pairwise : Sortable items ↔ items.Pairwise Comparable := by
  constructor
  · rintro (short | numbers | texts)
    · match items with
      | [] => exact .nil
      | [item] => exact List.pairwise_singleton _ _
    · refine List.pairwise_of_forall_mem_list fun left hasLeft right hasRight => ?_
      obtain ⟨x, rfl⟩ := numbers left hasLeft
      obtain ⟨y, rfl⟩ := numbers right hasRight
      exact .numbers x y
    · refine List.pairwise_of_forall_mem_list fun left hasLeft right hasRight => ?_
      obtain ⟨first, rfl⟩ := texts left hasLeft
      obtain ⟨second, rfl⟩ := texts right hasRight
      exact .texts first second
  · intro pairwise
    match items with
    | [] | [_] => exact .inl (by simp)
    | first :: second :: rest =>
      obtain ⟨related, -⟩ := List.pairwise_cons.mp pairwise
      -- All are of the kind of the first.
      cases related second List.mem_cons_self with
      | numbers x y =>
        refine .inr (.inl (List.forall_mem_cons.mpr ⟨⟨x, rfl⟩, fun item member => ?_⟩))
        cases related item member with
        | numbers _ z => exact ⟨z, rfl⟩
      | texts text other =>
        refine .inr (.inr (List.forall_mem_cons.mpr ⟨⟨text, rfl⟩, fun item member => ?_⟩))
        cases related item member with
        | texts _ third => exact ⟨third, rfl⟩

/-- There is no number among the items that is none. -/
def NoNaN (items : List Value) : Prop :=
  ∀ x, .number x ∈ items → x.isNaN = false

/-- What numbers are ordered by. -/
def rankOf : Value → Int ×ₗ Int ×ₗ Int
  | .number x => Number.rank x.toModel.unpack
  | _ => Number.rank .notANumber

/-- What texts are ordered by. -/
def textOf : Value → String
  | .string text => text
  | _ => ""

variable (noNaN : NoNaN items)

include noNaN

theorem naturalLess_of_comparable (hasLeft : left ∈ items) (hasRight : right ∈ items)
    (comparable : Comparable left right) :
    naturalLess left right = .ok (!naturalLe right left) := by
  cases comparable with
  | numbers x y =>
    have opposite : x < y ↔ ¬ y ≤ x := by
      rw [Number.lt_iff_rank (noNaN x hasLeft) (noNaN y hasRight),
        Number.le_iff_rank (noNaN y hasRight) (noNaN x hasLeft), not_le]
    simp [naturalLess, naturalLe, opposite]
  | texts first second =>
    have opposite : first < second ↔ ¬ second ≤ first := not_le.symm
    simp only [naturalLess, naturalLe, opposite, decide_not]

theorem naturalLe_self {item : Value} (member : item ∈ items) : naturalLe item item = true := by
  cases item with
  | number x =>
    exact decide_eq_true ((Number.le_iff_rank (noNaN x member) (noNaN x member)).mpr le_rfl)
  | string text => exact decide_eq_true le_rfl
  | null | boolean _ | object _ | array _ | function _ => rfl

theorem totalPreorderOn_naturalLe (sortable : Sortable items) :
    TotalPreorderOn naturalLe items := by
  obtain short | numbers | texts := sortable
  · have alone : ∀ left ∈ items, ∀ right ∈ items, left = right := by
      obtain _ | ⟨item, _ | _⟩ := items
      · simp
      · simp
      · exact absurd short (Nat.not_lt.mpr (Nat.le_add_left 2 _))
    refine .of_key (fun _ => ()) fun left hasLeft right hasRight => ?_
    rw [alone right hasRight left hasLeft, naturalLe_self noNaN hasLeft]
    exact iff_of_true rfl le_rfl
  · refine .of_key rankOf fun left hasLeft right hasRight => ?_
    obtain ⟨x, rfl⟩ := numbers left hasLeft
    obtain ⟨y, rfl⟩ := numbers right hasRight
    exact decide_eq_true_iff.trans (Number.le_iff_rank (noNaN x hasLeft) (noNaN y hasRight))
  · refine .of_key textOf fun left hasLeft right hasRight => ?_
    obtain ⟨first, rfl⟩ := texts left hasLeft
    obtain ⟨second, rfl⟩ := texts right hasRight
    exact decide_eq_true_iff

end ArrayFunction
end PatchScript
