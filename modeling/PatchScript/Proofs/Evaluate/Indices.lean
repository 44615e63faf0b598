import PatchScript.Evaluate.Place
import PatchScript.Proofs.Decimal.ExactIntegers
import PatchScript.Proofs.Native.SizeLimit

/-!
# Indices

All operations that take an index agree on the position it denotes, on what they do there,
and on how they fail where there is no such position.
-/

namespace PatchScript

variable {x : Float} {index : Int} {length position : Nat} {store : Store}

/-! ## Positions -/

/-- An index denotes a position below a bound, in a sequence of a length.  Negative indices
count from the end. -/
def Denotes (index : Int) (length bound position : Nat) : Prop :=
  (position : Int) = (if 0 ≤ index then index else index + length) ∧ position < bound

theorem resolveIndex_eq_ok_iff {allowEnd : Bool} :
    resolveIndex index length allowEnd = .ok position ↔
      Denotes index length (length + allowEnd.toNat) position := by
  have adjusted : (if index < 0 then index + length else index) =
      if 0 ≤ index then index else index + length := by
    split <;> split <;> omega
  simp only [resolveIndex, Denotes, adjusted]
  generalize (if 0 ≤ index then index else index + length) = place
  cases allowEnd
  all_goals
    simp only [Bool.toNat_true, Bool.toNat_false, if_true, Bool.false_eq_true, if_false]
    split
    · next inside => simp only [Except.ok.injEq]; omega
    · next outside => simp only [reduceCtorEq, false_iff]; omega

theorem resolveIndex_of_outside {allowEnd : Bool}
    (outside : ∀ position, ¬ Denotes index length (length + allowEnd.toNat) position) :
    resolveIndex index length allowEnd = .error (.indexOutOfBounds index length) := by
  cases resolved : resolveIndex index length allowEnd with
  | ok position => exact absurd (resolveIndex_eq_ok_iff.mp resolved) (outside position)
  | error kind =>
    cases allowEnd
    all_goals
      simp only [resolveIndex, if_true, Bool.false_eq_true, if_false] at resolved
      generalize (if index < 0 then index + length else index) = place at resolved
      split at resolved
      · cases resolved
      · exact resolved.symm

/-! ## Operations with an index -/

/-- An operation with an index does what it should at the position that the index denotes.
Without such a position it reports the index and the length, and changes nothing. -/
structure Indexed {α : Type} (report : ErrorKind → EvalError) (index : Int) (length bound : Nat)
    (operation : Run α) (store : Store) (Does : Nat → α → Store → Prop) : Prop where
  inside {position : Nat} : Denotes index length bound position →
    ∃ value after, operation store = .ok value after ∧ Does position value after
  outside : (∀ position, ¬ Denotes index length bound position) →
    operation store = .error (.error (report (.indexOutOfBounds index length))) store

/-- How a native function reports an error of its own. -/
def Native.report (function : Native) (span : Span) (kind : ErrorKind) : EvalError :=
  .ofKindAt (.nativeError function.qualifiedName kind.message) span

section Indexed

variable {α : Type} {operation : Run α} {Does : Nat → α → Store → Prop}

theorem Indexed.of_resolved (allowEnd : Bool) (next : Nat → Run α)
    (resolves : operation store = (Run.lift (resolveIndex index length allowEnd) >>= next) store)
    (does : ∀ position, Denotes index length (length + allowEnd.toNat) position →
      ∃ value after, next position store = .ok value after ∧ Does position value after) :
    Indexed .ofKind index length (length + allowEnd.toNat) operation store Does where
  inside {position} denotes := by
    rw [resolves, resolveIndex_eq_ok_iff.mpr denotes]
    exact does position denotes
  outside none := by
    rw [resolves, resolveIndex_of_outside none]
    rfl

end Indexed

namespace Native

variable {function : Native} {site : CallSite} {arguments : List Value} {kinds : List ParamKind}

theorem dispatch_of_accepted (overload : function.overload? arguments.length = some kinds)
    (accepted : function.checkArguments 1 kinds arguments = .ok ()) :
    function.dispatch site arguments =
      Run.mapError (function.reportError site.span) (function.body site arguments) := by
  simp only [dispatch, overload, accepted]

theorem dispatch_of_rejected {kind : ErrorKind}
    (overload : function.overload? arguments.length = some kinds)
    (rejected : function.checkArguments 1 kinds arguments = .error kind) :
    function.dispatch site arguments store = .error (.error (.ofKindAt kind site.span)) store := by
  simp only [dispatch, overload, rejected]
  rfl

/-- A native function reports errors of an operation with an index under its name. -/
theorem indexed_dispatch {bound : Nat} {operation : Run Value} {Does : Nat → Value → Store → Prop}
    (reports : function.dispatch site arguments =
      Run.mapError (function.reportError site.span) operation)
    (indexed : Indexed .ofKind index length bound operation store Does) :
    Indexed (function.report site.span) index length bound (function.dispatch site arguments)
      store Does where
  inside denotes := by
    obtain ⟨value, after, returned, does⟩ := indexed.inside denotes
    rw [reports]
    exact ⟨value, after, Run.mapError_eq_ok_iff.mpr returned, does⟩
  outside none := by
    rw [reports, Run.mapError, indexed.outside none]
    rfl

end Native

/-! ## Elements -/

section Elements

variable (integral : Decimal.integer? x = some index)

include integral

theorem asInteger_of_integral : (Value.number x).asInteger = .ok index := by
  simp only [Value.asInteger, Value.asNumber, bind, Except.bind, integral]

theorem Place.position_of_integral (length : Nat) :
    Place.position (.number x) length = resolveIndex index length false := by
  rw [Place.position, asInteger_of_integral integral]
  rfl

theorem integerArgument_of_integral : integerArgument x = pure index := by
  rw [integerArgument, asInteger_of_integral integral]
  rfl

end Elements

/-! ## Arrays -/

namespace Store

/-- Put items into an array in place of those it has. -/
def setArray (store : Store) (ref : ArrayRef) (items : List Value) : Store :=
  store.modifyArray ref fun _ => items.toArray

theorem modifyArray_eq_setArray {ref : ArrayRef} {change : Array Value → Array Value}
    {items : List Value} (changes : (change (store.array ref)).toList = items) :
    store.modifyArray ref change = store.setArray ref items := by
  rw [setArray, ← changes, Array.toArray_toList]
  simp only [modifyArray, mk.injEq, true_and, and_true]
  refine Array.ext (by simp) fun place present _ => ?_
  rw [Array.size_modify] at present
  rw [Array.getElem_modify, Array.getElem_modify]
  split
  · next same => simp [array, same, present, Array.getD]
  · rfl

end Store

/-- Splicing an item in before a position. -/
theorem insertIdx_eq_splice {α : Type} {items : List α} (inside : position ≤ items.length)
    (item : α) :
    items.insertIdx position item = items.take position ++ item :: items.drop position := by
  induction position generalizing items with
  | zero => rfl
  | succ position ih =>
    cases items with
    | nil => cases inside
    | cons first rest =>
      rw [List.insertIdx_succ_cons, ih (Nat.le_of_succ_le_succ inside)]
      rfl

theorem Run.bind_arrayOf {α : Type} (ref : ArrayRef) (next : Array Value → Run α) (store : Store) :
    (Run.arrayOf ref >>= next) store = next (store.array ref) store :=
  rfl

section Operations

variable (integral : Decimal.integer? x = some index)
variable (store : Store) (context : Context) (site : CallSite) (ref : ArrayRef) (text : String)
variable (value : Value)

/-- What the operations with an index do to an array. -/
structure ArrayIndexing (key value : Value) (index : Int) (items : List Value) : Prop where
  get : Indexed .ofKind index items.length items.length
    (Place.get context (.index (.array ref) key)) store fun position result after =>
      items[position]? = some result ∧ after = store
  set : Indexed .ofKind index items.length items.length
    (Place.set context value (.index (.array ref) key)) store fun position _ after =>
      after = store.setArray ref (items.take position ++ value :: items.drop (position + 1))
  delete : Indexed .ofKind index items.length items.length
    (Place.delete context (.index (.array ref) key)) store fun position _ after =>
      after = store.setArray ref (items.take position ++ items.drop (position + 1))
  removeAt : Indexed ((Native.arrays .removeAt).report site.span) index items.length items.length
    ((Native.arrays .removeAt).dispatch site [.array ref, key]) store fun position result after =>
      items[position]? = some result ∧
        after = store.setArray ref (items.take position ++ items.drop (position + 1))
  insert : Indexed ((Native.arrays .insert).report site.span) index items.length (items.length + 1)
    ((Native.arrays .insert).dispatch site [.array ref, key, value]) store
    fun position result after =>
      result = .null ∧
        after = store.setArray ref (items.take position ++ value :: items.drop position)
  sliceFrom : Indexed ((Native.arrays .slice).report site.span) index items.length
    (items.length + 1)
    ((Native.arrays .slice).dispatch site [.array ref, key]) store fun position result after =>
      Run.newArray (items.drop position).toArray store = .ok result after

/-- Slicing without an end only needs a start. -/
theorem sliceBounds_none (length : Nat) (start : Int) :
    sliceBounds length start none = (resolveIndex start length true).map fun first =>
      (first, length) := by
  rw [sliceBounds]
  cases resolved : resolveIndex start length true with
  | error kind => rfl
  | ok first =>
    have inside : first ≤ length := Nat.le_of_lt_succ (resolveIndex_eq_ok_iff.mp resolved).2
    simp only [bind, Except.bind, pure, Except.pure, if_pos inside, Except.map]

include integral in
theorem arrayIndexing :
    ArrayIndexing store context site ref (.number x) value index (store.array ref).toList where
  get := by
    refine .of_resolved false (fun position => pure ((store.array ref).getD position .null)) ?_ ?_
    · simp only [Place.get, Run.bind_get, Place.getIndex, Place.position_of_integral integral,
        Array.length_toList]
      cases resolveIndex index (store.array ref).size false <;> rfl
    · intro position inside
      have inside : position < (store.array ref).size := inside.2
      exact ⟨_, _, rfl, by simp [inside], rfl⟩
  set := by
    refine .of_resolved false (fun position => modify fun store => store.modifyArray ref
      fun items => items.setIfInBounds position value) ?_ fun position inside => ?_
    · simp only [Place.set, Place.position_of_integral integral]
      rfl
    · have inside : position < (store.array ref).toList.length := inside.2
      refine ⟨_, _, rfl, Store.modifyArray_eq_setArray ?_⟩
      rw [Array.toList_setIfInBounds, List.set_eq_take_append_cons_drop, if_pos inside]
  delete := by
    refine .of_resolved false (fun position => modify fun store => store.modifyArray ref
      fun items => items.eraseIdxIfInBounds position) ?_ fun position _ => ?_
    · simp only [Place.delete, Place.position_of_integral integral]
      rfl
    · refine ⟨_, _, rfl, Store.modifyArray_eq_setArray ?_⟩
      rw [Array.toList_eraseIdxIfInBounds, List.eraseIdx_eq_take_drop_succ]
  removeAt := by
    refine Native.indexed_dispatch (Native.dispatch_of_accepted rfl
      (by simp [Native.checkArguments, ParamKind.accepts, integral])) ?_
    refine .of_resolved false (fun position => do
      modify fun store => store.modifyArray ref fun items => items.eraseIdxIfInBounds position
      return (store.array ref).getD position .null) ?_ fun position inside => ?_
    · simp only [Native.body, ArrayFunction.body, integerArgument_of_integral integral,
        Run.bind_arrayOf, pure_bind, Array.length_toList]
      cases resolveIndex index (store.array ref).size false <;> rfl
    · have inside : position < (store.array ref).size := inside.2
      refine ⟨_, _, rfl, by simp [inside], Store.modifyArray_eq_setArray ?_⟩
      rw [Array.toList_eraseIdxIfInBounds, List.eraseIdx_eq_take_drop_succ]
  insert := by
    refine Native.indexed_dispatch (Native.dispatch_of_accepted rfl
      (by simp [Native.checkArguments, ParamKind.accepts, integral])) ?_
    refine .of_resolved true (fun position => do
      modify fun store => store.modifyArray ref fun items =>
        items.insertIdxIfInBounds position value
      return .null) ?_ fun position inside => ?_
    · simp only [Native.body, ArrayFunction.body, integerArgument_of_integral integral]
      rfl
    · have inside : position ≤ (store.array ref).size := Nat.le_of_lt_succ inside.2
      refine ⟨_, _, rfl, rfl, Store.modifyArray_eq_setArray ?_⟩
      rw [Array.insertIdxIfInBounds, dif_pos inside, Array.toList_insertIdx,
        insertIdx_eq_splice inside]
  sliceFrom := by
    refine Native.indexed_dispatch (Native.dispatch_of_accepted rfl
      (by simp [Native.checkArguments, ParamKind.accepts, integral])) ?_
    refine .of_resolved true (fun position => Run.newArray
      ((store.array ref).extract position (store.array ref).size)) ?_ fun position _ => ?_
    · simp only [Native.body, ArrayFunction.body, integerArgument_of_integral integral,
        ArrayFunction.sliceItems, sliceBounds_none, Run.bind_arrayOf, pure_bind,
        Array.length_toList]
      cases resolveIndex index (store.array ref).size true <;> rfl
    · refine ⟨_, _, rfl, ?_⟩
      have same : ((store.array ref).toList.drop position).toArray =
          (store.array ref).extract position (store.array ref).size := by
        apply Array.toList_inj.mp
        rw [Array.toList_extract, List.extract_eq_take_drop, List.take_of_length_le (by simp)]
      rw [same]
      rfl

/-! ## Texts -/

/-- What the operations with an index do to a text. -/
structure TextIndexing (key : Value) (index : Int) (chars : List Char) : Prop where
  get : Indexed .ofKind index chars.length chars.length
    (Place.get context (.index (.string text) key)) store fun position result after =>
      ∃ char, chars[position]? = some char ∧ result = .string (String.ofList [char]) ∧ after = store
  charAt : Indexed ((Native.strings .charAt).report site.span) index chars.length chars.length
    ((Native.strings .charAt).dispatch site [.string text, key]) store fun position result after =>
      ∃ char, chars[position]? = some char ∧ result = .string (String.ofList [char]) ∧ after = store
  substringFrom : Indexed ((Native.strings .substring).report site.span) index chars.length
    (chars.length + 1)
    ((Native.strings .substring).dispatch site [.string text, key]) store
    fun position result after =>
      result = .string (String.ofList (chars.drop position)) ∧ after = store

section Characters

include integral

theorem Place.get_text :
    Place.get context (.index (.string text) (.number x)) =
      (Run.lift (StringFunction.charText text index) >>= fun found => pure (.string found)) := by
  funext store
  rw [Place.get, Run.bind_get, Place.getIndex, asInteger_of_integral integral]
  change Run.lift (StringFunction.charText text index >>= fun found =>
    pure (Value.string found)) store = _
  cases StringFunction.charText text index <;> rfl

/-- The characters of a text are its elements. -/
theorem Native.dispatch_charAt :
    (Native.strings .charAt).dispatch site [.string text, .number x] =
      Run.mapError ((Native.strings .charAt).reportError site.span)
        (Place.get context (.index (.string text) (.number x))) := by
  rw [Native.dispatch_of_accepted rfl
    (by simp [Native.checkArguments, ParamKind.accepts, integral]), Place.get_text integral]
  simp only [Native.body, StringFunction.body, integerArgument_of_integral integral, pure_bind]

theorem indexed_get_text :
    Indexed .ofKind index text.toList.length text.toList.length
      (Place.get context (.index (.string text) (.number x))) store fun position result after =>
        ∃ char, text.toList[position]? = some char ∧ result = .string (String.ofList [char]) ∧
          after = store := by
  refine .of_resolved false (fun position =>
    pure (.string (String.ofList text.toList[position]?.toList))) ?_ fun position inside => ?_
  · rw [Place.get_text integral, StringFunction.charText]
    cases resolveIndex index text.toList.length false <;> rfl
  · have found : text.toList[position]? = some (text.toList.get ⟨position, inside.2⟩) := by simp
    exact ⟨_, _, rfl, _, found, by rw [found]; rfl, rfl⟩

theorem textIndexing : TextIndexing store context site text (.number x) index text.toList where
  get := indexed_get_text integral store context text
  charAt := Native.indexed_dispatch (Native.dispatch_charAt integral context site text)
    (indexed_get_text integral store context text)
  substringFrom := by
    refine Native.indexed_dispatch (Native.dispatch_of_accepted rfl
      (by simp [Native.checkArguments, ParamKind.accepts, integral])) ?_
    refine .of_resolved true (fun position =>
      pure (.string (String.ofList ((text.toList.take text.toList.length).drop position)))) ?_
      fun position inside => ?_
    · simp only [Native.body, StringFunction.body, integerArgument_of_integral integral, pure_bind,
        StringFunction.sliceText, sliceBounds_none]
      cases resolveIndex index text.toList.length true <;> rfl
    · exact ⟨_, _, rfl, by rw [List.take_length], rfl⟩

end Characters

/-! ## Slices -/

/-- A slice is what lies between the positions that two indices denote.  An index without a
position is reported, the first one first, and so are positions in the wrong order; nothing is
changed then. -/
structure Sliced (function : Native) (site : CallSite) (start stop : Int) (length : Nat)
    (operation : Run Value) (store : Store) (Copies : Nat → Nat → Value → Store → Prop) : Prop where
  inside {first last : Nat} : Denotes start length (length + 1) first →
    Denotes stop length (length + 1) last → first ≤ last →
    ∃ value after, operation store = .ok value after ∧ Copies first last value after
  crossed {first last : Nat} : Denotes start length (length + 1) first →
    Denotes stop length (length + 1) last → last < first →
    operation store = .error (.error (.ofKindAt (.nativeError function.qualifiedName
      ("Start " ++ Decimal.naturalText first ++ " is after end " ++ Decimal.naturalText last))
      site.span)) store
  startOutside : (∀ first, ¬ Denotes start length (length + 1) first) →
    operation store =
      .error (.error (function.report site.span (.indexOutOfBounds start length))) store
  stopOutside {first : Nat} : Denotes start length (length + 1) first →
    (∀ last, ¬ Denotes stop length (length + 1) last) →
    operation store =
      .error (.error (function.report site.span (.indexOutOfBounds stop length))) store

theorem Native.sliced_dispatch {store : Store} {function : Native} {kinds : List ParamKind}
    {site : CallSite} {arguments : List Value} {start stop : Int}
    {Copies : Nat → Nat → Value → Store → Prop} (next : Nat × Nat → Run Value)
    (overload : function.overload? arguments.length = some kinds)
    (accepted : function.checkArguments 1 kinds arguments = .ok ())
    (bounds : function.body site arguments store =
      (Run.lift (sliceBounds length start (some stop)) >>= next) store)
    (copies : ∀ first last, ∃ value after,
      next (first, last) store = .ok value after ∧ Copies first last value after) :
    Sliced function site start stop length (function.dispatch site arguments) store Copies := by
  have placed {index : Int} {position : Nat}
      (denotes : Denotes index length (length + 1) position) :
      resolveIndex index length true = .ok position := resolveIndex_eq_ok_iff.mpr denotes
  have outside {index : Int} (none : ∀ position, ¬ Denotes index length (length + 1) position) :
      resolveIndex index length true = .error (.indexOutOfBounds index length) :=
    resolveIndex_of_outside none
  rw [dispatch_of_accepted overload accepted]
  constructor
  · intro first last starts stops ordered
    obtain ⟨value, after, returned, does⟩ := copies first last
    refine ⟨value, after, Run.mapError_eq_ok_iff.mpr ?_, does⟩
    rw [bounds, sliceBounds, placed starts]
    simp only [placed stops, bind, Except.bind, if_pos ordered]
    exact returned
  · intro first last starts stops crossed
    rw [Run.mapError, bounds, sliceBounds, placed starts]
    simp only [placed stops, bind, Except.bind, if_neg (Nat.not_le.mpr crossed)]
    rfl
  · intro none
    rw [Run.mapError, bounds, sliceBounds, outside none]
    rfl
  · intro first starts none
    rw [Run.mapError, bounds, sliceBounds, placed starts]
    simp only [outside none, bind, Except.bind]
    rfl

/-- What the operations with two indices do. -/
structure Slicing (key other : Value) (start stop : Int) (items : List Value)
    (chars : List Char) : Prop where
  slice : Sliced (.arrays .slice) site start stop items.length
    ((Native.arrays .slice).dispatch site [.array ref, key, other]) store
    fun first last result after =>
      Run.newArray ((items.take last).drop first).toArray store = .ok result after
  substring : Sliced (.strings .substring) site start stop chars.length
    ((Native.strings .substring).dispatch site [.string text, key, other]) store
    fun first last result after =>
      result = .string (String.ofList ((chars.take last).drop first)) ∧ after = store

theorem slicing {y : Float} {start stop : Int} (integral : Decimal.integer? x = some start)
    (integral' : Decimal.integer? y = some stop) :
    Slicing store site ref text (.number x) (.number y) start stop (store.array ref).toList
      text.toList where
  slice := by
    refine Native.sliced_dispatch
      (fun bounds => Run.newArray ((store.array ref).extract bounds.1 bounds.2)) rfl
      (by simp [Native.checkArguments, ParamKind.accepts, integral, integral']) ?_ ?_
    · simp only [Native.body, ArrayFunction.body, integerArgument_of_integral integral,
        integerArgument_of_integral integral', Run.bind_arrayOf, pure_bind, Array.length_toList]
      rfl
    · intro first last
      have same : (((store.array ref).toList.take last).drop first).toArray =
          (store.array ref).extract first last := by
        apply Array.toList_inj.mp
        rw [Array.toList_extract, List.extract_eq_drop_take']
      refine ⟨_, _, rfl, ?_⟩
      rw [same]
      rfl
  substring := by
    refine Native.sliced_dispatch (fun bounds =>
      pure (.string (String.ofList ((text.toList.take bounds.2).drop bounds.1)))) rfl
      (by simp [Native.checkArguments, ParamKind.accepts, integral, integral']) ?_
      fun first last => ⟨_, _, rfl, rfl, rfl⟩
    simp only [Native.body, StringFunction.body, integerArgument_of_integral integral,
      integerArgument_of_integral integral', pure_bind, StringFunction.sliceText]
    cases sliceBounds text.toList.length start (some stop) <;> rfl

/-! ## Taking apart and putting together -/

/-- Cut an array in two before a position, and put the parts together. -/
def Native.splitAndJoin (zero key : Value) : Run Value := do
  let first ← (Native.arrays .slice).dispatch site [.array ref, zero, key]
  let second ← (Native.arrays .slice).dispatch site [.array ref, key]
  Operator.binary .add first second

theorem Operator.add_arrays {store : Store} {first second : ArrayRef} :
    Operator.binary .add (.array first) (.array second) store =
      (Run.lift (checkLength ((store.array first).size + (store.array second).size)) >>= fun _ =>
        Run.newArray (store.array first ++ store.array second)) store :=
  rfl

/-- The parts of an array together are a copy of it, if it is no longer than the limit. -/
structure Rejoined (zero key : Value) : Prop where
  copied : (store.array ref).size ≤ maxSequenceLength → ∃ copy after,
    Native.splitAndJoin site ref zero key store = .ok (.array copy) after ∧
      after.array copy = store.array ref ∧ store.Keeps after
  refused : maxSequenceLength < (store.array ref).size → ∃ after,
    Native.splitAndJoin site ref zero key store =
        .error (.error (.ofKind (.sizeLimitExceeded maxSequenceLength))) after ∧
      store.Keeps after

variable {store ref} in
include integral in
theorem rejoined (present : store.HasArray ref) {zero : Float}
    (isZero : Decimal.integer? zero = some 0)
    (denotes : Denotes index (store.array ref).size ((store.array ref).size + 1) position) :
    Rejoined store site ref (.number zero) (.number x) := by
  rw [← Array.length_toList] at denotes
  have atStart : Denotes 0 (store.array ref).toList.length
      ((store.array ref).toList.length + 1) 0 := ⟨rfl, Nat.succ_pos _⟩
  obtain ⟨_, middle, cutFirst, copiesFirst⟩ :=
    (slicing store site ref "" isZero integral).slice.inside atStart denotes (Nat.zero_le position)
  obtain ⟨first, rfl, hasFirst, firstItems, keptFirst⟩ := Run.keeps_newArray copiesFirst
  have sameItems : middle.array ref = store.array ref := keptFirst.array present id
  rw [← sameItems] at denotes
  obtain ⟨_, later, cutSecond, copiesSecond⟩ :=
    (arrayIndexing integral middle default site ref .null).sliceFrom.inside denotes
  obtain ⟨second, rfl, -, secondItems, keptSecond⟩ := Run.keeps_newArray copiesSecond
  have together : later.array first ++ later.array second = store.array ref := by
    rw [keptSecond.array hasFirst id, firstItems, secondItems, sameItems, List.append_toArray,
      List.drop_zero, List.take_append_drop, Array.toArray_toList]
  have joins : Native.splitAndJoin site ref (.number zero) (.number x) store =
      (Run.lift (checkLength (store.array ref).size) >>= fun _ =>
        Run.newArray (store.array ref)) later := by
    rw [Native.splitAndJoin, bind_of_ok cutFirst, bind_of_ok cutSecond, Operator.add_arrays,
      ← Array.size_append, together]
  have kept : store.Keeps later := keptFirst.trans keptSecond
  constructor
  · intro small
    obtain ⟨copy, after, copied, same, -⟩ := Run.exists_newArray later (store.array ref)
    obtain ⟨_, _, _, _, keptLast⟩ := Run.keeps_newArray copied
    rw [joins, checkLength, if_pos small]
    exact ⟨copy, after, copied, same, kept.trans keptLast⟩
  · intro large
    rw [joins, checkLength, if_neg (Nat.not_le.mpr large)]
    exact ⟨later, rfl, kept⟩

/-! ## Numbers that are no indices -/

/-- What becomes of operations with a number that is no integer of 64 bits. -/
structure IndexRefused (x : Float) : Prop where
  get {container : Value} : container = .array ref ∨ container = .string text →
    Place.get context (.index container (.number x)) store =
      .error (.error (.ofKind (Value.notInteger "integer" x))) store
  set : Place.set context value (.index (.array ref) (.number x)) store =
    .error (.error (.ofKind (Value.notInteger "integer" x))) store
  delete : Place.delete context (.index (.array ref) (.number x)) store =
    .error (.error (.ofKind (Value.notInteger "integer" x))) store
  native {function : Native} {arguments : List Value} :
    (function, arguments) ∈
      [(.arrays .removeAt, [.array ref, .number x]),
        (.arrays .insert, [.array ref, .number x, value]),
        (.arrays .slice, [.array ref, .number x]),
        (.arrays .slice, [.array ref, .number x, value]),
        (.strings .charAt, [.string text, .number x]),
        (.strings .substring, [.string text, .number x]),
        (.strings .substring, [.string text, .number x, value])] →
    function.dispatch site arguments store =
      .error (.error (.ofKindAt (function.argumentError 2 .integer (.number x)) site.span)) store

theorem indexRefused (notIntegral : Decimal.integer? x = none) :
    IndexRefused store context site ref text value x := by
  have refused : (Value.number x).asInteger = .error (Value.notInteger "integer" x) := by
    simp only [Value.asInteger, Value.asNumber, bind, Except.bind, notIntegral]
  constructor
  case get =>
    rintro _ (rfl | rfl)
    all_goals
      simp only [Place.get, Run.bind_get, Place.getIndex, Place.position, refused]
      rfl
  case set =>
    simp only [Place.set, Place.position, refused]
    rfl
  case delete =>
    simp only [Place.delete, Place.position, refused]
    rfl
  case native =>
    intro function arguments member
    simp only [List.mem_cons, List.not_mem_nil, or_false, Prod.mk.injEq] at member
    obtain ⟨rfl, rfl⟩ | ⟨rfl, rfl⟩ | ⟨rfl, rfl⟩ | ⟨rfl, rfl⟩ | ⟨rfl, rfl⟩ | ⟨rfl, rfl⟩ |
      ⟨rfl, rfl⟩ := member
    all_goals
      refine Native.dispatch_of_rejected rfl ?_
      simp only [Native.checkArguments, ParamKind.accepts, notIntegral, Option.isSome_none, if_true,
        Bool.false_eq_true, if_false]

end Operations

/-! ## All operations -/

/-- Whatever takes an index takes it in the same way: where it denotes a position, elements are
read, replaced, erased, spliced in and copied there; where it does not, the index and the length
are reported and nothing changes; and numbers that are no integers of 64 bits are refused.  Two
parts of an array that meet make up the array, up to the size limit. -/
theorem indices_share_positions {store : Store} {ref : ArrayRef} (present : store.HasArray ref)
    (context : Context) (site : CallSite) (text : String) (value : Value) (x : Float) :
    (Decimal.integer? x = none → IndexRefused store context site ref text value x) ∧
      ∀ index, Decimal.integer? x = some index →
        ArrayIndexing store context site ref (.number x) value index (store.array ref).toList ∧
        TextIndexing store context site text (.number x) index text.toList ∧
        (∀ y stop, Decimal.integer? y = some stop → Slicing store site ref text (.number x)
          (.number y) index stop (store.array ref).toList text.toList) ∧
        (∀ zero position, Decimal.integer? zero = some 0 →
          Denotes index (store.array ref).size ((store.array ref).size + 1) position →
          Rejoined store site ref (.number zero) (.number x)) ∧
        (Native.strings .charAt).dispatch site [.string text, .number x] =
          Run.mapError ((Native.strings .charAt).reportError site.span)
            (Place.get context (.index (.string text) (.number x))) := by
  refine ⟨indexRefused store context site ref text value, fun index integral => ?_⟩
  refine ⟨arrayIndexing integral store context site ref value,
    textIndexing integral store context site text,
    fun y stop integral' => slicing store site ref text integral integral',
    fun zero position isZero denotes => ?_, Native.dispatch_charAt integral context site text⟩
  exact rejoined integral site present isZero denotes

open SizeLimit (holding only place)

/-- The last item of two is read from the end, and there is no third. -/
theorem indices_share_positions_last :
    (∃ value after, Place.get default (.index (.array only) (.number (-1)))
        (holding #[.null, .boolean true]) = .ok value after ∧ value = .boolean true) ∧
      Place.get default (.index (.array only) (.number 2)) (holding #[.null, .boolean true]) =
        .error (.error (.ofKind (.indexOutOfBounds 2 2))) (holding #[.null, .boolean true]) := by
  have present : (holding #[.null, .boolean true]).HasArray only := Nat.zero_lt_one
  have last : Denotes (-1) 2 2 1 := ⟨rfl, Nat.lt_succ_self 1⟩
  have outside (position : Nat) : ¬ Denotes 2 2 2 position := fun denotes => by
    have isTwo : (position : Int) = 2 := denotes.1
    have inside : position < 2 := denotes.2
    omega
  have shared (x : Float) := indices_share_positions present default place "" .null x
  constructor
  · obtain ⟨value, after, got, found, -⟩ := ((shared (-1)).2 (-1) rfl).1.get.inside last
    exact ⟨value, after, got, (Option.some.inj found).symm⟩
  · exact ((shared 2).2 2 rfl).1.get.outside outside

/-- Three things that indices do not do: an integer beyond 64 bits is not out of bounds, slices
that end before they start are not either, and the parts of an array beyond the limit cannot be
put together. -/
theorem not_indices_share_positions :
    Place.get default (.index (.array only) (.number 9223372036854775808)) (holding #[.null]) =
        .error (.error (.ofKind (Value.notInteger "integer" 9223372036854775808)))
          (holding #[.null]) ∧
      (Native.arrays .slice).dispatch place [.array only, .number 2, .number 1]
          (holding #[.null, .null, .null]) =
        .error (.error (.ofKindAt (.nativeError "arrays.slice" "Start 2 is after end 1")
          place.span)) (holding #[.null, .null, .null]) ∧
      ∃ after, Native.splitAndJoin place only (.number 0.0) (.number 1)
          (holding (Array.replicate (maxSequenceLength + 1) .null)) =
        .error (.error (.ofKind (.sizeLimitExceeded maxSequenceLength))) after := by
  have isOne : Decimal.integer? 1 = some 1 := rfl
  have isTwo : Decimal.integer? 2 = some 2 := rfl
  refine ⟨?_, ?_, ?_⟩
  · exact (indexRefused _ default place only "" .null rfl).get (.inl rfl)
  · have starts : Denotes 2 3 4 2 := ⟨rfl, by decide⟩
    have stops : Denotes 1 3 4 1 := ⟨rfl, by decide⟩
    exact (slicing (holding #[.null, .null, .null]) place only "" isTwo isOne).slice.crossed starts
      stops (by decide)
  · have isZero : Decimal.integer? 0.0 = some 0 := Decimal.integer?_of_zero rfl rfl rfl
    have present : (holding (Array.replicate (maxSequenceLength + 1) .null)).HasArray only :=
      Nat.zero_lt_one
    have size : ((holding (Array.replicate (maxSequenceLength + 1) .null)).array only).size =
      maxSequenceLength + 1 := Array.size_replicate
    have denotes : Denotes 1 (maxSequenceLength + 1) (maxSequenceLength + 1 + 1) 1 :=
      ⟨rfl, Nat.succ_lt_succ (Nat.succ_pos _)⟩
    obtain ⟨after, refused, -⟩ := (rejoined isOne place present isZero
      (size.symm ▸ denotes)).refused (size.symm ▸ Nat.lt_succ_self _)
    exact ⟨after, refused⟩

end PatchScript
