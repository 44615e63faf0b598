/-!
# Sorting with effects

A stable sort whose comparisons may have effects.  A comparison asks whether the
element that stands later is less than the one that stands earlier.  Short lists
are sorted by insertion from the left; longer ones by merging sorted halves.
-/

namespace PatchScript
namespace Sorting

variable {m : Type → Type} [Monad m] {α : Type}

/-- The length up to which a list is sorted by insertion. -/
def insertionLimit : Nat := 20

/-- Insert an element behind all that are not greater.  The sorted list is given
from its last element to its first, and so is the result. -/
def insertLast (less : α → α → m Bool) (item : α) : List α → m (List α)
  | [] => return [item]
  | last :: earlier => do
    if ← less item last then return last :: (← insertLast less item earlier)
    else return item :: last :: earlier

def insertAll (less : α → α → m Bool) : List α → List α → m (List α)
  | [], sorted => return sorted
  | item :: items, sorted => do
    insertAll less items (← insertLast less item sorted)

def insertionSort (less : α → α → m Bool) (items : List α) : m (List α) := do
  return (← insertAll less items []).reverse

/-- Merge two sorted lists; of equal elements those of the first come first. -/
def merge (less : α → α → m Bool) : List α → List α → m (List α)
  | [], later => return later
  | earlier, [] => return earlier
  | first :: earlier, second :: later => do
    if ← less second first then return second :: (← merge less (first :: earlier) later)
    else return first :: (← merge less earlier (second :: later))
termination_by earlier later => earlier.length + later.length

def sort (less : α → α → m Bool) (items : List α) : m (List α) := do
  if short : items.length ≤ insertionLimit then insertionSort less items
  else
    let half := items.length / 2
    let earlier ← sort less (items.take half)
    let later ← sort less (items.drop half)
    merge less earlier later
termination_by items.length
decreasing_by
  all_goals
    simp only [List.length_take, List.length_drop, insertionLimit] at *
    omega

end Sorting
end PatchScript
