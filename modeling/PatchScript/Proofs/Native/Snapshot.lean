import PatchScript.Proofs.Evaluate.Indices

/-!
# Calls with the items of an array

Functions that call back with the items of an array take the items that the array has when they
are called.  The calls are made in order, each in the store that the one before it left, and they
end with the first one that fails or decides.  What the calls do to the array makes no difference.

A callback without effects is one that always answers, and that accepts an item or not whatever
was called before.  For such callbacks the functions agree with each other.
-/

namespace PatchScript

variable {site : CallSite} {callback : Value} {store middle : Store} {items : List Value}
variable {function : ArrayFunction} {calls : List ItemCall}

/-- Calls that were made one after the other, each in the store that the one before left. -/
inductive CallsMade (site : CallSite) (callback : Value) : Store → List ItemCall → Store → Prop where
  | none {store : Store} : CallsMade site callback store [] store
  | next {before middle after : Store} {call : ItemCall} {calls : List ItemCall} :
      site.call callback [call.item] before = .ok call.value middle →
      middle.isTruthy call.value = call.accepted → CallsMade site callback middle calls after →
      CallsMade site callback before (call :: calls) after

namespace ArrayFunction

/-- Calls with all items, or with the first of them up to a call that decides. -/
inductive Suffices (function : ArrayFunction) : List Value → List ItemCall → Prop where
  | done : Suffices function [] []
  | decided {last : ItemCall} {rest : List Value} : function.decides last = true →
      Suffices function (last.item :: rest) [last]
  | next {call : ItemCall} {items : List Value} {calls : List ItemCall} :
      function.decides call = false → Suffices function items calls →
      Suffices function (call.item :: items) (call :: calls)

/-- How a function that calls back ends: with what it makes of as many calls as suffice, or with
the first call that fails.  Nothing happens after that call. -/
inductive CallbackEnds (function : ArrayFunction) (site : CallSite) (callback : Value)
    (store : Store) (items : List Value) : EStateM.Result Fault Store Value → Prop where
  | returned {calls : List ItemCall} {middle after : Store} {value : Value} :
      CallsMade site callback store calls middle → function.Suffices items calls →
      function.finish calls middle = .ok value after →
      CallbackEnds function site callback store items (.ok value after)
  | failed {calls : List ItemCall} {middle after : Store} {item : Value} {rest : List Value}
      {fault : Fault} :
      CallsMade site callback store calls middle →
      (∀ call ∈ calls, function.decides call = false) →
      items = calls.map (·.item) ++ item :: rest →
      site.call callback [item] middle = .error fault after →
      CallbackEnds function site callback store items
        (Run.mapError ((Native.arrays function).reportError site.span)
          (site.call callback [item]) middle)

theorem callEach_of_ok {decides : ItemCall → Bool} {call : ItemCall}
    (called : site.call callback [call.item] store = .ok call.value middle)
    (accepted : middle.isTruthy call.value = call.accepted) :
    callEach site callback decides (call.item :: items) store =
      (if decides call then pure [call]
        else do return call :: (← callEach site callback decides items) : Run _) middle := by
  refine (bind_of_ok called).trans ?_
  rw [Run.isTruthy, bind_assoc, Run.bind_get, pure_bind, accepted]

/-- As many calls are made as suffice, or all of them up to one that fails. -/
theorem callEach_cases (function : ArrayFunction) (site : CallSite) (callback : Value)
    (items : List Value) (store : Store) :
    (∃ calls after, callEach site callback function.decides items store = .ok calls after ∧
      CallsMade site callback store calls after ∧ function.Suffices items calls) ∨
    ∃ calls item rest middle fault after, CallsMade site callback store calls middle ∧
      (∀ call ∈ calls, function.decides call = false) ∧
      items = calls.map (·.item) ++ item :: rest ∧
      site.call callback [item] middle = .error fault after ∧
      callEach site callback function.decides items store = .error fault after := by
  induction items generalizing store with
  | nil => exact .inl ⟨[], store, rfl, .none, .done⟩
  | cons item items ih =>
    cases called : site.call callback [item] store with
    | error fault after =>
      exact .inr ⟨[], item, items, store, fault, after, .none, List.forall_mem_nil _, rfl, called,
        bind_of_error called⟩
    | ok value middle =>
      let call : ItemCall := ⟨item, value, middle.isTruthy value⟩
      have runs : callEach site callback function.decides (call.item :: items) store = _ :=
        callEach_of_ok called rfl
      cases decision : function.decides call with
      | true =>
        rw [decision, if_pos rfl] at runs
        exact .inl ⟨_, middle, runs, .next called rfl .none, .decided decision⟩
      | false =>
        rw [decision, if_neg Bool.false_ne_true] at runs
        obtain ⟨calls, after, ran, made, enough⟩ |
          ⟨calls, next, rest, later, fault, after, made, undecided, rfl, failed, ran⟩ := ih middle
        · exact .inl ⟨_, after, runs.trans (bind_of_ok ran), .next called rfl made,
            .next decision enough⟩
        · exact .inr ⟨call :: calls, next, rest, later, fault, after, .next called rfl made,
            List.forall_mem_cons.mpr ⟨decision, undecided⟩, rfl, failed,
            runs.trans (bind_of_error ran)⟩

/-- The calls are made with the items that the array had at the start. -/
theorem callbackEnds_dispatch {ref : ArrayRef} {callback : FunctionRef}
    (callsBack : function ∈ callingBack) :
    function.CallbackEnds site (.function callback) store (store.array ref).toList
      ((Native.arrays function).dispatch site [.array ref, .function callback] store) := by
  have finishes (calls : List ItemCall) (middle : Store) :
      ∃ value after, function.finish calls middle = .ok value after := by
    simp only [callingBack, List.mem_cons, List.not_mem_nil, or_false] at callsBack
    obtain rfl | rfl | rfl | rfl | rfl := callsBack <;> exact ⟨_, _, rfl⟩
  have accepted : (Native.arrays function).dispatch site [.array ref, .function callback] =
      Run.mapError ((Native.arrays function).reportError site.span)
        (function.body site [.array ref, .function callback]) := by
    simp only [callingBack, List.mem_cons, List.not_mem_nil, or_false] at callsBack
    obtain rfl | rfl | rfl | rfl | rfl := callsBack <;> rfl
  have runs : function.body site [.array ref, .function callback] store =
      (callEach site (.function callback) function.decides (store.array ref).toList >>=
        function.finish) store := by
    rw [body_of_callingBack callsBack]
    rfl
  rw [accepted]
  obtain ⟨calls, middle, ran, made, enough⟩ |
    ⟨calls, item, rest, middle, fault, after, made, undecided, same, failed, ran⟩ :=
    callEach_cases function site (.function callback) (store.array ref).toList store
  · obtain ⟨value, after, finished⟩ := finishes calls middle
    rw [Run.mapError_eq_ok_iff.mpr (runs.trans ((bind_of_ok ran).trans finished))]
    exact .returned made enough finished
  · have ended := CallbackEnds.failed made undecided same failed
    rw [Run.mapError, failed] at ended
    rw [Run.mapError, runs.trans (bind_of_error ran)]
    exact ended

end ArrayFunction

/-! ## Callbacks without effects -/

/-- A callback answers to all items, in all stores that it leads to, and whether it accepts an
item depends on the item alone. -/
structure Effectless (site : CallSite) (callback : Value) (items : List Value)
    (accepts : Value → Bool) (Holds : Store → Prop) : Prop where
  answers : ∀ store, Holds store → ∀ item ∈ items, ∃ value after,
    site.call callback [item] store = .ok value after ∧ Holds after ∧
      after.isTruthy value = accepts item

namespace ArrayFunction

section Effectless

variable {accepts : Value → Bool} {Holds : Store → Prop}

theorem mem_of_suffices (enough : function.Suffices items calls) {call : ItemCall}
    (member : call ∈ calls) : call.item ∈ items := by
  induction enough with
  | done => cases member
  | decided _ =>
    rw [List.mem_singleton.mp member]
    exact List.mem_cons_self
  | next _ _ ih =>
    obtain rfl | later := List.mem_cons.mp member
    · exact List.mem_cons_self
    · exact List.mem_cons_of_mem _ (ih later)

theorem holds_of_callsMade (effectless : Effectless site callback items accepts Holds)
    (made : CallsMade site callback store calls middle) (holds : Holds store)
    (within : ∀ call ∈ calls, call.item ∈ items) :
    Holds middle ∧ ∀ call ∈ calls, call.accepted = accepts call.item := by
  induction made with
  | none => exact ⟨holds, List.forall_mem_nil _⟩
  | next called accepted _ ih =>
    obtain ⟨isItem, areItems⟩ := List.forall_mem_cons.mp within
    obtain ⟨value, after, answered, holdsAfter, accepts⟩ := effectless.answers _ holds _ isItem
    cases called.symm.trans answered
    obtain ⟨holdsMiddle, answers⟩ := ih holdsAfter areItems
    exact ⟨holdsMiddle, List.forall_mem_cons.mpr ⟨accepted.symm.trans accepts, answers⟩⟩

/-- Nothing fails, and the calls are those that the items call for. -/
theorem returned_of_effectless (effectless : Effectless site callback items accepts Holds)
    (holds : Holds store) {result : EStateM.Result Fault Store Value}
    (ends : function.CallbackEnds site callback store items result) :
    ∃ calls middle, result = function.finish calls middle ∧ function.Suffices items calls ∧
      ∀ call ∈ calls, call.accepted = accepts call.item := by
  cases ends with
  | returned made enough finished =>
    obtain ⟨-, answers⟩ := holds_of_callsMade effectless made holds fun _ => mem_of_suffices enough
    exact ⟨_, _, finished.symm, enough, answers⟩
  | @failed calls middle _ item rest _ made undecided same failed =>
    have within (call : ItemCall) (member : call ∈ calls) : call.item ∈ items := by
      rw [same]
      exact List.mem_append_left _ (List.mem_map_of_mem member)
    have isItem : item ∈ items := same ▸ List.mem_append_right _ List.mem_cons_self
    obtain ⟨holdsMiddle, -⟩ := holds_of_callsMade effectless made holds within
    obtain ⟨value, after, answered, -⟩ := effectless.answers middle holdsMiddle item isItem
    cases failed.symm.trans answered

variable (answers : ∀ call ∈ calls, call.accepted = accepts call.item)

include answers

theorem filter_of_suffices (enough : Suffices .filter items calls) :
    (calls.filter (·.accepted)).map (·.item) = items.filter accepts := by
  induction enough with
  | done => rfl
  | decided decision => cases decision
  | next _ _ ih =>
    obtain ⟨answer, answers⟩ := List.forall_mem_cons.mp answers
    simp only [List.filter_cons, answer, ← ih answers]
    split <;> rfl

theorem find?_of_suffices (enough : Suffices .find items calls) :
    (calls.find? (·.accepted)).map (·.item) = items.find? accepts := by
  induction enough with
  | done => rfl
  | decided _ | next _ _ _ => simp_all [decides]

theorem any_of_suffices (enough : Suffices .any items calls) :
    calls.any (·.accepted) = items.any accepts := by
  induction enough with
  | done => rfl
  | decided _ | next _ _ _ => simp_all [decides]

theorem all_of_suffices (enough : Suffices .all items calls) :
    calls.all (·.accepted) = items.all accepts := by
  induction enough with
  | done => rfl
  | decided _ | next _ _ _ => simp_all [decides]

end Effectless
end ArrayFunction

/-- Filtering keeps some of the items of an array, and finding and testing agree with that. -/
structure Agreeing (site : CallSite) (callback : FunctionRef) (store : Store) (ref : ArrayRef)
    (items kept : List Value) : Prop where
  filter : ∃ new middle after,
    (Native.arrays .filter).dispatch site [.array ref, .function callback] store =
      .ok (.array new) after ∧ Store.Added middle new kept after
  find : ∃ after, (Native.arrays .find).dispatch site [.array ref, .function callback] store =
    .ok (kept.head?.getD .null) after
  any : ∃ after, (Native.arrays .any).dispatch site [.array ref, .function callback] store =
    .ok (.boolean (kept ≠ [])) after
  all : ∃ after, (Native.arrays .all).dispatch site [.array ref, .function callback] store =
    .ok (.boolean (kept.length = items.length)) after

/-- Mapping, filtering, finding and testing call back with the items that an array has at the
start, in order, and end with the first call that fails or decides.  With a callback that has no
effects they agree on the items that it accepts. -/
theorem callbacks_see_items_at_start (site : CallSite) (store : Store) (ref : ArrayRef)
    (callback : FunctionRef) :
    let items := (store.array ref).toList
    (∀ function ∈ [ArrayFunction.map, .filter, .find, .any, .all],
      function.CallbackEnds site (.function callback) store items
        ((Native.arrays function).dispatch site [.array ref, .function callback] store)) ∧
    ∀ accepts Holds, Effectless site (.function callback) items accepts Holds → Holds store →
      Agreeing site callback store ref items (items.filter accepts) := by
  intro items
  have ends {function : ArrayFunction} (callsBack : function ∈ ArrayFunction.callingBack) :
      function.CallbackEnds site (.function callback) store items _ :=
    ArrayFunction.callbackEnds_dispatch callsBack
  refine ⟨fun function callsBack => ends callsBack, fun accepts Holds effectless holds => ?_⟩
  have returns (function : ArrayFunction) (callsBack : function ∈ ArrayFunction.callingBack) :=
    ArrayFunction.returned_of_effectless effectless holds (ends callsBack)
  constructor
  case filter =>
    obtain ⟨calls, middle, ran, enough, answers⟩ := returns .filter (by decide)
    refine ⟨_, middle, _, ran, ?_⟩
    rw [← ArrayFunction.filter_of_suffices answers enough]
    exact middle.added_addArray _
  case find =>
    obtain ⟨calls, middle, ran, enough, answers⟩ := returns .find (by decide)
    refine ⟨middle, ran.trans ?_⟩
    rw [ArrayFunction.finish, ArrayFunction.find?_of_suffices answers enough, List.head?_filter]
    rfl
  case any =>
    obtain ⟨calls, middle, ran, enough, answers⟩ := returns .any (by decide)
    have found : items.any accepts = decide (items.filter accepts ≠ []) := by
      rw [Bool.eq_iff_iff]
      simp
    refine ⟨middle, ran.trans ?_⟩
    rw [ArrayFunction.finish, ArrayFunction.any_of_suffices answers enough, found]
    rfl
  case all =>
    obtain ⟨calls, middle, ran, enough, answers⟩ := returns .all (by decide)
    have kept : items.all accepts = decide ((items.filter accepts).length = items.length) := by
      rw [Bool.eq_iff_iff]
      simp
    refine ⟨middle, ran.trans ?_⟩
    rw [ArrayFunction.finish, ArrayFunction.all_of_suffices answers enough, kept]
    rfl

open SizeLimit (holding only)

/-- A place where every function empties the one array and gives its argument back. -/
def emptyingSite : CallSite where
  call
    | _, [argument] => do
      modify fun store => store.modifyArray only fun _ => #[]
      return argument
    | _, _ => throw .malformedCall
  span := default

/-- A callback that empties the array is called with all its items still. -/
theorem callbacks_see_items_at_start_emptied :
    Agreeing emptyingSite ⟨0⟩ (holding #[.boolean false, .boolean true, .boolean true]) only
      [.boolean false, .boolean true, .boolean true] [.boolean true, .boolean true] := by
  refine (callbacks_see_items_at_start emptyingSite
    (holding #[.boolean false, .boolean true, .boolean true]) only ⟨0⟩).2
    (fun item => Store.isTruthy default item) (fun _ => True) ⟨fun store _ item member => ?_⟩ trivial
  refine ⟨item, _, rfl, trivial, ?_⟩
  change item ∈ [.boolean false, .boolean true, .boolean true] at member
  obtain rfl | rfl : item = .boolean false ∨ item = .boolean true := by simpa using member
  · rfl
  · rfl

end PatchScript
