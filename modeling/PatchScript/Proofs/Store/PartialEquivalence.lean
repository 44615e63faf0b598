import Mathlib
import PatchScript.Operator
import PatchScript.Proofs.InsertionOrder

/-!
# Equality as a partial equivalence

Equality of values is symmetric and transitive on every store, and reflexive on every value
but the numbers that are none.  Containers may be shared and may contain themselves: two of
them are equal if they are the same, or if their parts are equal one level below.  Hence each
law is proved of one level, given that it holds of the parts.

What the levels below have to say is a relation of parts.  In this form a comparison of
objects does not prefer one side, although only the keys of one are looked up in the other.
-/

namespace PatchScript

/-- A number is equal to itself unless it is none. -/
theorem Number.beq_self_iff {x : Float} : x == x ↔ x.isNaN = false := by
  rw [Float.beq_self_iff, Float.isNaN_eq_decide_eq_nan, decide_eq_false_iff_not]

/-! ## Maps that agree key by key -/

namespace Entries

variable {α : Type}

theorem lookup_of_mem {entries : List (String × α)} (distinct : (keys entries).Nodup)
    {entry : String × α} (member : entry ∈ entries) : entries.lookup entry.1 = some entry.2 := by
  induction entries with
  | nil => cases member
  | cons first rest ih =>
    obtain ⟨key, value⟩ := first
    obtain ⟨absent, others⟩ := List.nodup_cons.mp distinct
    rw [lookup_cons]
    obtain rfl | later := List.mem_cons.mp member
    · exact if_pos rfl
    · have listed : entry.1 ∈ keys rest := List.mem_map_of_mem later
      have differs : entry.1 ≠ key := fun same => absent (same ▸ listed)
      rw [if_neg differs]
      exact ih others later

end Entries

namespace OrderedMap

variable {α β : Type} {map : OrderedMap α} {other : OrderedMap β} {Related : α → β → Prop}

theorem get?_eq_some_iff {key : String} {value : α} :
    map.get? key = some value ↔ (key, value) ∈ map.entries :=
  ⟨Entries.mem_of_lookup, Entries.lookup_of_mem map.distinct⟩

theorem get?_eq_none_iff {key : String} : map.get? key = none ↔ key ∉ map.keys := by
  rw [← contains_iff, contains, Bool.not_eq_true, Option.isSome_eq_false_iff,
    Option.isNone_iff_eq_none]

theorem get?_of_perm {other : OrderedMap α} (perm : map.entries.Perm other.entries) (key : String) :
    map.get? key = other.get? key := by
  ext value
  rw [get?_eq_some_iff, get?_eq_some_iff, perm.mem_iff]

/-- Two maps have the same keys, with related values. -/
def Agree (Related : α → β → Prop) (map : OrderedMap α) (other : OrderedMap β) : Prop :=
  ∀ key, Option.Rel Related (map.get? key) (other.get? key)

theorem Agree.imp {Others : α → β → Prop}
    (implies : ∀ value other, Related value other → Others value other)
    (agree : map.Agree Related other) : map.Agree Others other := by
  intro key
  have here := agree key
  generalize map.get? key = value, other.get? key = value' at here
  cases here with
  | none => exact .none
  | some related => exact .some (implies _ _ related)

theorem Agree.symm {Related : α → α → Prop}
    (flip : ∀ value other, Related value other → Related other value) {other : OrderedMap α}
    (agree : map.Agree Related other) : other.Agree Related map := by
  intro key
  have here := agree key
  generalize map.get? key = value, other.get? key = value' at here
  cases here with
  | none => exact .none
  | some related => exact .some (flip _ _ related)

theorem Agree.trans {Related : α → α → Prop}
    (chain : ∀ value middle last, Related value middle → Related middle last → Related value last)
    {middle last : OrderedMap α} (first : map.Agree Related middle)
    (second : middle.Agree Related last) : map.Agree Related last := by
  intro key
  have left := first key
  have right := second key
  generalize map.get? key = value, middle.get? key = value', last.get? key = value'' at left right
  cases left with
  | none =>
    cases right
    exact .none
  | some related =>
    cases right with
    | some further => exact .some (chain _ _ _ related further)

theorem Agree.perm_keys (agree : map.Agree Related other) : map.keys.Perm other.keys := by
  refine (List.perm_ext_iff_of_nodup map.distinct other.distinct).mpr fun key => ?_
  have here := agree key
  have absent : map.get? key = none ↔ other.get? key = none := by
    generalize map.get? key = value, other.get? key = value' at here
    cases here <;> simp
  exact not_iff_not.mp (by rw [← keys, ← keys, ← get?_eq_none_iff, ← get?_eq_none_iff, absent])

/-- If every entry of a map has a counterpart in another map of the same size, then the other
map has no other keys. -/
theorem agree_iff :
    map.Agree Related other ↔
      map.size = other.size ∧
        ∀ entry ∈ map.entries, ∃ value,
          other.get? entry.1 = some value ∧ Related entry.2 value := by
  constructor
  · intro agree
    refine ⟨?_, fun entry member => ?_⟩
    · simpa [keys, Entries.keys, size] using agree.perm_keys.length_eq
    · have here := agree entry.1
      rw [get?_eq_some_iff.mpr member] at here
      generalize other.get? entry.1 = found at here ⊢
      cases here with
      | some related => exact ⟨_, rfl, related⟩
  · rintro ⟨sameSize, counterparts⟩ key
    have included : map.keys ⊆ other.keys := by
      intro key member
      obtain ⟨entry, isEntry, rfl⟩ := List.mem_map.mp member
      obtain ⟨value, found, _⟩ := counterparts entry isEntry
      exact List.mem_map_of_mem (get?_eq_some_iff.mp found)
    have sameKeys : map.keys.Perm other.keys := by
      refine (List.subperm_of_subset map.distinct included).perm_of_length_le ?_
      simpa [keys, Entries.keys, size] using Nat.le_of_eq sameSize.symm
    cases found : map.get? key with
    | none =>
      have absent := mt sameKeys.mem_iff.mpr (get?_eq_none_iff.mp found)
      rw [get?_eq_none_iff.mpr absent]
      exact .none
    | some value =>
      obtain ⟨value', found', related⟩ := counterparts _ (get?_eq_some_iff.mp found)
      rw [found']
      exact .some related

end OrderedMap

/-! ## One level of a comparison -/

theorem forall₂_trans {α : Type} {Related : α → α → Prop}
    (chain : ∀ item middle last, Related item middle → Related middle last → Related item last)
    {items middles lasts : List α} (first : List.Forall₂ Related items middles)
    (second : List.Forall₂ Related middles lasts) : List.Forall₂ Related items lasts := by
  induction first generalizing lasts with
  | nil => exact second
  | cons related _ ih =>
    cases second with
    | cons further later => exact .cons (chain _ _ _ related further) (ih later)

namespace Store

variable {store : Store} {levels : Nat} {left right : Value}

/-- Two values are equal, given which of their parts are. -/
inductive EqualByParts (store : Store) (Parts : Value → Value → Prop) : Value → Value → Prop where
  | null : EqualByParts store Parts .null .null
  | boolean (value : Bool) : EqualByParts store Parts (.boolean value) (.boolean value)
  | number {x y : Float} : (x == y) = true → EqualByParts store Parts (.number x) (.number y)
  | string (text : String) : EqualByParts store Parts (.string text) (.string text)
  | function (ref : FunctionRef) : EqualByParts store Parts (.function ref) (.function ref)
  | sameArray (ref : ArrayRef) : EqualByParts store Parts (.array ref) (.array ref)
  | arrays {left right : ArrayRef} :
    List.Forall₂ Parts (store.array left).toList (store.array right).toList →
    EqualByParts store Parts (.array left) (.array right)
  | sameObject (ref : ObjectRef) : EqualByParts store Parts (.object ref) (.object ref)
  | objects {left right : ObjectRef} :
    (store.object left).Agree Parts (store.object right) →
    EqualByParts store Parts (.object left) (.object right)

theorem equalWithin_array_iff {left right : ArrayRef} :
    store.equalWithin (levels + 1) (.array left) (.array right) = true ↔
      left = right ∨
        List.Forall₂ (fun item other => store.equalWithin levels item other = true)
          (store.array left).toList (store.array right).toList := by
  simp only [equalWithin, Bool.or_eq_true, beq_iff_eq, Bool.and_eq_true, List.all_eq_true,
    List.forall₂_iff_zip, Array.length_toList, Prod.forall]

theorem equalWithin_object_iff {left right : ObjectRef} :
    store.equalWithin (levels + 1) (.object left) (.object right) = true ↔
      left = right ∨
        (store.object left).Agree (fun value other => store.equalWithin levels value other = true)
          (store.object right) := by
  simp only [equalWithin, Bool.or_eq_true, beq_iff_eq, Bool.and_eq_true, List.all_eq_true,
    OrderedMap.agree_iff]
  refine or_congr_right (and_congr_right fun _ => forall₂_congr fun entry _ => ?_)
  cases (store.object right).get? entry.1 <;> simp

theorem equalWithin_succ_iff :
    store.equalWithin (levels + 1) left right = true ↔
      store.EqualByParts (fun value other => store.equalWithin levels value other = true)
        left right := by
  constructor
  · intro equal
    cases left <;> cases right
    case array.array =>
      obtain rfl | items := equalWithin_array_iff.mp equal
      · exact .sameArray _
      · exact .arrays items
    case object.object =>
      obtain rfl | entries := equalWithin_object_iff.mp equal
      · exact .sameObject _
      · exact .objects entries
    case number.number => exact .number equal
    case null.null => exact .null
    case boolean.boolean =>
      cases eq_of_beq equal
      exact .boolean _
    case string.string =>
      cases eq_of_beq equal
      exact .string _
    case function.function =>
      cases eq_of_beq equal
      exact .function _
    all_goals cases equal
  · intro equal
    cases equal with
    | null => rfl
    | boolean | string | function => exact beq_self_eq_true _
    | number same => exact same
    | sameArray => exact equalWithin_array_iff.mpr (.inl rfl)
    | arrays items => exact equalWithin_array_iff.mpr (.inr items)
    | sameObject => exact equalWithin_object_iff.mpr (.inl rfl)
    | objects entries => exact equalWithin_object_iff.mpr (.inr entries)

namespace EqualByParts

variable {Parts : Value → Value → Prop} {middle : Value}

theorem kind_eq (equal : store.EqualByParts Parts left right) : left.kind = right.kind := by
  cases equal <;> rfl

theorem symm (flip : ∀ value other, Parts value other → Parts other value)
    (equal : store.EqualByParts Parts left right) : store.EqualByParts Parts right left := by
  cases equal with
  | null => exact .null
  | boolean value => exact .boolean value
  | number same => exact .number (BEq.symm same)
  | string text => exact .string text
  | function ref => exact .function ref
  | sameArray ref => exact .sameArray ref
  | arrays items => exact .arrays (items.flip.imp fun _ _ => flip _ _)
  | sameObject ref => exact .sameObject ref
  | objects entries => exact .objects (entries.symm flip)

/-- That two containers are the same carries over to what they are compared with. -/
theorem trans
    (chain : ∀ value between other, Parts value between → Parts between other → Parts value other)
    (first : store.EqualByParts Parts left middle)
    (second : store.EqualByParts Parts middle right) : store.EqualByParts Parts left right := by
  cases first with
  | null | boolean _ | string _ | function _ | sameArray _ | sameObject _ => exact second
  | number same =>
    cases second with
    | number further => exact .number (BEq.trans same further)
  | arrays items =>
    cases second with
    | sameArray => exact .arrays items
    | arrays further => exact .arrays (forall₂_trans chain items further)
  | objects entries =>
    cases second with
    | sameObject => exact .objects entries
    | objects further => exact .objects (entries.trans chain further)

/-- Nothing else is asked of the store than the items of its arrays and the values of keys. -/
theorem transfer {other : Store} {Others : Value → Value → Prop}
    (arrays : ∀ ref, other.array ref = store.array ref)
    (values : ∀ ref key, (other.object ref).get? key = (store.object ref).get? key)
    (parts : ∀ value value', Parts value value' → Others value value')
    (equal : store.EqualByParts Parts left right) : other.EqualByParts Others left right := by
  cases equal with
  | null => exact .null
  | boolean value => exact .boolean value
  | number same => exact .number same
  | string text => exact .string text
  | function ref => exact .function ref
  | sameArray ref => exact .sameArray ref
  | arrays items =>
    refine .arrays ?_
    rw [arrays, arrays]
    exact items.imp parts
  | sameObject ref => exact .sameObject ref
  | objects entries =>
    refine .objects fun key => ?_
    rw [values, values]
    exact entries.imp parts key

end EqualByParts

/-! ## Laws at every depth -/

theorem equalWithin_symm (levels : Nat) (equal : store.equalWithin levels left right = true) :
    store.equalWithin levels right left = true := by
  induction levels generalizing left right with
  | zero => cases equal
  | succ levels ih =>
    rw [equalWithin_succ_iff] at equal ⊢
    exact equal.symm fun _ _ => ih

theorem equalWithin_trans (levels : Nat) {middle : Value}
    (first : store.equalWithin levels left middle = true)
    (second : store.equalWithin levels middle right = true) :
    store.equalWithin levels left right = true := by
  induction levels generalizing left middle right with
  | zero => cases first
  | succ levels ih =>
    rw [equalWithin_succ_iff] at first second ⊢
    exact first.trans (fun _ _ _ => ih) second

/-- Handles are equal to themselves at once, whatever they lead to. -/
theorem equal_self_iff {value : Value} :
    store.equal value value = true ↔ ∀ x, value = .number x → x.isNaN = false := by
  rw [equal, equalWithin_succ_iff]
  constructor
  · rintro equal x rfl
    cases equal with
    | number same => exact Number.beq_self_iff.mp same
  · intro isNumber
    cases value with
    | null => exact .null
    | boolean value => exact .boolean value
    | number x => exact .number (Number.beq_self_iff.mpr (isNumber x rfl))
    | string text => exact .string text
    | array ref => exact .sameArray ref
    | object ref => exact .sameObject ref
    | function ref => exact .function ref

theorem equalWithin_of_sameContents {other : Store}
    (arrays : ∀ ref, other.array ref = store.array ref)
    (values : ∀ ref key, (other.object ref).get? key = (store.object ref).get? key) (levels : Nat)
    (equal : store.equalWithin levels left right = true) :
    other.equalWithin levels left right = true := by
  induction levels generalizing left right with
  | zero => cases equal
  | succ levels ih =>
    rw [equalWithin_succ_iff] at equal ⊢
    exact equal.transfer arrays values fun _ _ => ih

/-! ## Comparisons that end -/

/-- What a comparison has to look at next. -/
inductive Comparison where
  /-- Nothing: there is an answer. -/
  | answered (answer : Bool)
  /-- Parts and their counterparts, as far as there are any. -/
  | pending (pairs : List (Value × Option Value))

/-- The answer, given the answers for parts. -/
def Comparison.answer (equal : Value → Value → Bool) : Comparison → Bool
  | .answered answer => answer
  | .pending pairs => pairs.all fun pair => pair.2.any (equal pair.1)

/-- Look at two values, but not at their parts. -/
def comparison (store : Store) : Value → Value → Comparison
  | .null, .null => .answered true
  | .boolean left, .boolean right => .answered (left == right)
  | .number left, .number right => .answered (left == right)
  | .string left, .string right => .answered (left == right)
  | .array left, .array right =>
    if left = right then .answered true
    else if (store.array left).size = (store.array right).size then
      .pending (((store.array left).toList.zip (store.array right).toList).map fun pair =>
        (pair.1, some pair.2))
    else .answered false
  | .object left, .object right =>
    if left = right then .answered true
    else if (store.object left).size = (store.object right).size then
      .pending ((store.object left).entries.map fun entry =>
        (entry.2, (store.object right).get? entry.1))
    else .answered false
  | .function left, .function right => .answered (left == right)
  | _, _ => .answered false

mutual

/-- A comparison at a nesting depth ends with an answer.  Nothing but the depth keeps it from
going round in circles. -/
inductive Answers (store : Store) : Nat → Value → Value → Bool → Prop where
  | tooDeep {depth : Nat} {left right : Value} :
    maxEqualityDepth < depth → Answers store depth left right false
  | atOnce {depth : Nat} {left right : Value} {answer : Bool} :
    depth ≤ maxEqualityDepth → store.comparison left right = .answered answer →
    Answers store depth left right answer
  | byParts {depth : Nat} {left right : Value} {pairs : List (Value × Option Value)}
      {answer : Bool} :
    depth ≤ maxEqualityDepth → store.comparison left right = .pending pairs →
    AnswersInTurn store (depth + 1) pairs answer → Answers store depth left right answer

/-- Parts are compared one after the other, up to the first that is not equal. -/
inductive AnswersInTurn (store : Store) : Nat → List (Value × Option Value) → Bool → Prop where
  | done {depth : Nat} : AnswersInTurn store depth [] true
  | unmatched {depth : Nat} {part : Value} {rest : List (Value × Option Value)} :
    AnswersInTurn store depth ((part, none) :: rest) false
  | differs {depth : Nat} {part other : Value} {rest : List (Value × Option Value)} :
    Answers store depth part other false →
    AnswersInTurn store depth ((part, some other) :: rest) false
  | goesOn {depth : Nat} {part other : Value} {rest : List (Value × Option Value)}
      {answer : Bool} :
    Answers store depth part other true → AnswersInTurn store depth rest answer →
    AnswersInTurn store depth ((part, some other) :: rest) answer

end

theorem equalWithin_succ (levels : Nat) (left right : Value) :
    store.equalWithin (levels + 1) left right =
      (store.comparison left right).answer (store.equalWithin levels) := by
  cases left <;> cases right
  case array.array left right =>
    by_cases same : left = right
    · simp [equalWithin, comparison, Comparison.answer, same]
    · by_cases sameSize : (store.array left).size = (store.array right).size <;>
        simp [equalWithin, comparison, Comparison.answer, same, sameSize, List.all_map,
          Function.comp_def]
  case object.object left right =>
    by_cases same : left = right
    · simp [equalWithin, comparison, Comparison.answer, same]
    · by_cases sameSize : (store.object left).size = (store.object right).size
      · simp only [equalWithin, comparison, Comparison.answer, beq_false_of_ne same, same, sameSize,
          List.all_map, beq_self_eq_true, Bool.false_or, Bool.true_and, if_false, if_true]
        congr 1
        funext entry
        cases found : (store.object right).get? entry.1 <;> simp [found]
      · simp [equalWithin, comparison, Comparison.answer, same, sameSize]
  all_goals rfl

theorem answersInTurn_iff {depth : Nat} {equal : Value → Value → Bool}
    (answers : ∀ left right answer, store.Answers depth left right answer ↔
      equal left right = answer)
    (pairs : List (Value × Option Value))
    (answer : Bool) :
    store.AnswersInTurn depth pairs answer ↔
      (pairs.all fun pair => pair.2.any (equal pair.1)) = answer := by
  induction pairs with
  | nil =>
    constructor
    · rintro ⟨⟩
      rfl
    · rintro rfl
      exact .done
  | cons pair rest ih =>
    obtain ⟨part, _ | other⟩ := pair
    · constructor
      · rintro ⟨⟩
        rfl
      · rintro rfl
        exact .unmatched
    · rw [List.all_cons, Option.any_some]
      constructor
      · rintro (_ | _ | first | ⟨first, later⟩)
        · rw [(answers _ _ _).mp first, Bool.false_and]
        · rw [(answers _ _ _).mp first, Bool.true_and, ih.mp later]
      · intro inTurn
        cases first : equal part other with
        | false =>
          rw [first, Bool.false_and] at inTurn
          exact inTurn ▸ .differs ((answers _ _ _).mpr first)
        | true =>
          rw [first, Bool.true_and] at inTurn
          exact .goesOn ((answers _ _ _).mpr first) (ih.mpr inTurn)

/-- A comparison ends at every depth, with the answer for the levels that are left. -/
theorem answers_iff {depth : Nat} (left : depth + levels = maxEqualityDepth + 1)
    {first second : Value} {answer : Bool} :
    store.Answers depth first second answer ↔ store.equalWithin levels first second = answer := by
  induction levels generalizing depth first second answer with
  | zero =>
    constructor
    · rintro (_ | ⟨shallow, _⟩ | ⟨shallow, _, _⟩)
      · rfl
      all_goals omega
    · rintro rfl
      exact .tooDeep (by omega)
  | succ levels ih =>
    have shallow : depth ≤ maxEqualityDepth := by omega
    have parts := @answersInTurn_iff store (depth + 1) (store.equalWithin levels)
      fun _ _ _ => ih (by omega)
    rw [equalWithin_succ]
    constructor
    · rintro (deep | ⟨_, found⟩ | ⟨_, found, inTurn⟩)
      · omega
      · rw [found]
        rfl
      · rw [found]
        exact (parts _ _).mp inTurn
    · rintro rfl
      cases found : store.comparison first second with
      | answered answer => exact .atOnce shallow found
      | pending pairs => exact .byParts shallow found ((parts _ _).mpr rfl)

/-! ## Equality -/

/-- On every store, whatever its containers share and contain: every comparison ends with an
answer, and the operator gives it.  Equality is symmetric and transitive, it only holds of
values of one kind, and it is reflexive but for numbers that are none.  The order of keys has no
influence on it. -/
theorem equality_is_partial_equivalence (store : Store) :
    (∀ left right,
      (∀ answer, store.Answers 0 left right answer ↔ answer = store.equal left right) ∧
        Operator.binary .eq left right store = .ok (.boolean (store.equal left right)) store) ∧
    (∀ left right, store.equal left right = store.equal right left) ∧
    (∀ left middle right, store.equal left middle = true → store.equal middle right = true →
      store.equal left right = true) ∧
    (∀ left right, left.kind ≠ right.kind → store.equal left right = false) ∧
    (∀ value, store.equal value value = true ↔ ∀ x, value = .number x → x.isNaN = false) ∧
    ∀ other : Store, (∀ ref, (other.array ref) = store.array ref) →
      (∀ ref, (other.object ref).entries.Perm (store.object ref).entries) →
      ∀ left right, other.equal left right = store.equal left right := by
  refine ⟨fun left right => ⟨fun answer => ?_, rfl⟩, fun left right => ?_, fun left middle right =>
    equalWithin_trans _, fun left right differ => ?_, fun value => equal_self_iff, ?_⟩
  · rw [answers_iff (Nat.zero_add _), eq_comm]
    rfl
  · rw [Bool.eq_iff_iff]
    exact ⟨equalWithin_symm _, equalWithin_symm _⟩
  · refine Bool.eq_false_iff.mpr fun equal => differ ?_
    exact (equalWithin_succ_iff.mp equal).kind_eq
  · intro other arrays rearranged left right
    have values (ref : ObjectRef) (key : String) :
        (other.object ref).get? key = (store.object ref).get? key :=
      OrderedMap.get?_of_perm (rearranged ref) key
    rw [Bool.eq_iff_iff]
    exact ⟨equalWithin_of_sameContents (fun ref => (arrays ref).symm)
        (fun ref key => (values ref key).symm) _,
      equalWithin_of_sameContents arrays values _⟩

/-- Two objects with the same entries, of which one is an array that contains itself.  Their
keys stand in opposite orders. -/
def loopedObjects (entries : List (String × Value)) : Store :=
  { Store.empty with
    arrays := #[#[.array ⟨0⟩]]
    objects := #[OrderedMap.ofEntries entries, OrderedMap.ofEntries entries.reverse] }

theorem equality_is_partial_equivalence_looped :
    let entries := [("loop", Value.array ⟨0⟩), ("name", Value.null)]
    let store := loopedObjects entries
    store.Answers 0 (.object ⟨0⟩) (.object ⟨1⟩) true ∧
      store.equal (.object ⟨0⟩) (.object ⟨0⟩) = true ∧
      store.equal (.array ⟨0⟩) (.object ⟨0⟩) = false ∧
      (loopedObjects entries.reverse).equal (.object ⟨0⟩) (.object ⟨1⟩) = true := by
  intro entries store
  obtain ⟨answers, symm, trans, kinds, _, order⟩ := equality_is_partial_equivalence store
  have equal : store.equal (.object ⟨0⟩) (.object ⟨1⟩) = true := rfl
  refine ⟨((answers _ _).1 _).mpr equal.symm, trans _ _ _ equal ((symm _ _).trans equal),
    kinds _ _ (by decide), ?_⟩
  rw [order]
  · exact equal
  · exact fun _ => rfl
  · rintro ⟨_ | _ | _⟩
    · exact List.Perm.swap ..
    · exact List.Perm.swap ..
    · exact List.Perm.refl _

end Store
end PatchScript
