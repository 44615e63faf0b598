import PatchScript.Native.Arrays

/-!
# Functions that call back

Five functions on arrays call a function with one item after the other: with all of them, or
until a call decides what is returned.  They differ in which calls decide, and in what they make
of the calls.
-/

namespace PatchScript

variable {site : CallSite} {callback : Value}

/-- A call with an item that gave a value, and whether the value counted as true then. -/
structure ItemCall where
  item : Value
  value : Value
  accepted : Bool

/-- Call a function with items, until a call decides. -/
def callEach (site : CallSite) (callback : Value) (decides : ItemCall → Bool) :
    List Value → Run (List ItemCall)
  | [] => return []
  | item :: items => do
    let value ← site.call callback [item]
    let accepted ← Run.isTruthy value
    let call := ⟨item, value, accepted⟩
    if decides call then return [call]
    else return call :: (← callEach site callback decides items)

/-- What is made of the calls with the items of a list depends on the first of them. -/
theorem map_callEach_cons {α : Type} (make : List ItemCall → α) (decides : ItemCall → Bool)
    (item : Value) (items : List Value) :
    make <$> callEach site callback decides (item :: items) = (do
      let value ← site.call callback [item]
      let accepted ← Run.isTruthy value
      let call : ItemCall := ⟨item, value, accepted⟩
      if decides call then return make [call]
      else (fun calls => make (call :: calls)) <$> callEach site callback decides items) := by
  simp only [callEach, map_bind, apply_ite, map_pure, Functor.map_map, bind_pure_comp]

namespace ArrayFunction

/-- The functions that call back with one item after the other. -/
def callingBack : List ArrayFunction :=
  [.map, .filter, .find, .any, .all]

/-- Whether a call with an item decides what a function returns. -/
def decides : ArrayFunction → ItemCall → Bool
  | .find, call | .any, call => call.accepted
  | .all, call => !call.accepted
  | _, _ => false

/-- What a function makes of its calls. -/
def finish (calls : List ItemCall) : ArrayFunction → Run Value
  | .map => Run.newArray (calls.map (·.value)).toArray
  | .filter => Run.newArray ((calls.filter (·.accepted)).map (·.item)).toArray
  | .find => return ((calls.find? (·.accepted)).map (·.item)).getD .null
  | .any => return .boolean (calls.any (·.accepted))
  | .all => return .boolean (calls.all (·.accepted))
  | _ => throw .malformedCall

section

variable (items : List Value)

theorem mapItems_eq :
    mapItems site callback items =
      (·.map ItemCall.value) <$> callEach site callback (decides .map) items := by
  induction items with
  | nil => rfl
  | cons item items ih =>
    rw [map_callEach_cons, mapItems, List.mapM_cons]
    refine bind_congr fun value => ?_
    change mapItems site callback items >>= _ = _
    rw [ih, bind_map_left]
    funext store
    change _ = ((_ <$> callEach site callback (decides .map) items) : Run _) store
    rw [map_eq_pure_bind]
    rfl

theorem filterItems_eq :
    filterItems site callback items = (fun calls => (calls.filter (·.accepted)).map (·.item)) <$>
      callEach site callback (decides .filter) items := by
  have selects (found : List Value) :
      items.filterAuxM (accepts site callback) found =
        (fun calls => ((calls.filter (·.accepted)).map ItemCall.item).reverse ++ found) <$>
          callEach site callback (decides .filter) items := by
    induction items generalizing found with
    | nil => rfl
    | cons item items ih =>
      rw [map_callEach_cons, List.filterAuxM, accepts, bind_assoc]
      refine bind_congr fun value => bind_congr fun accepted => ?_
      rw [ih]
      cases accepted <;> simp [decides]
  rw [filterItems, List.filterM, selects, bind_map_left, map_eq_pure_bind]
  simp

theorem findItem_eq :
    findItem site callback items =
      (fun calls => ((calls.find? (·.accepted)).map ItemCall.item).getD .null) <$>
        callEach site callback (decides .find) items := by
  induction items with
  | nil => rfl
  | cons item items ih =>
    rw [map_callEach_cons, findItem, accepts, bind_assoc, ih]
    refine bind_congr fun value => bind_congr fun accepted => ?_
    cases accepted <;> rfl

theorem anyItem_eq :
    anyItem site callback items =
      (·.any (·.accepted)) <$> callEach site callback (decides .any) items := by
  induction items with
  | nil => rfl
  | cons item items ih =>
    rw [map_callEach_cons, anyItem, accepts, bind_assoc, ih]
    refine bind_congr fun value => bind_congr fun accepted => ?_
    cases accepted <;> rfl

theorem allItems_eq :
    allItems site callback items =
      (·.all (·.accepted)) <$> callEach site callback (decides .all) items := by
  induction items with
  | nil => rfl
  | cons item items ih =>
    rw [map_callEach_cons, allItems, accepts, bind_assoc, ih]
    refine bind_congr fun value => bind_congr fun accepted => ?_
    cases accepted <;> rfl

end

variable {function : ArrayFunction} (callsBack : function ∈ callingBack)
include callsBack

/-- The functions that call back read the array once, before the first call. -/
theorem body_of_callingBack (ref : ArrayRef) :
    function.body site [.array ref, callback] = (do
      let calls ← callEach site callback function.decides (← Run.arrayOf ref).toList
      function.finish calls) := by
  simp only [callingBack, List.mem_cons, List.not_mem_nil, or_false] at callsBack
  obtain rfl | rfl | rfl | rfl | rfl := callsBack
  · simp only [body, mapItems_eq, bind_map_left]
    rfl
  · simp only [body, filterItems_eq, bind_map_left]
    rfl
  · simp only [body, findItem_eq, map_eq_pure_bind]
    rfl
  · simp only [body, anyItem_eq, bind_map_left]
    rfl
  · simp only [body, allItems_eq, bind_map_left]
    rfl

/-- What is no array and a callback is refused. -/
theorem arguments_of_callingBack (arguments : List Value) :
    (∃ ref callback, arguments = [.array ref, callback]) ∨
      ∀ site, function.body site arguments = throw .malformedCall := by
  by_cases shape : ∃ ref callback, arguments = [.array ref, callback]
  · exact .inl shape
  · refine .inr fun site => ?_
    unfold body
    split
    case h_13 | h_14 | h_15 | h_16 | h_17 => exact absurd ⟨_, _, rfl⟩ shape
    case h_20 => rfl
    all_goals simp [callingBack] at callsBack

end ArrayFunction
end PatchScript
