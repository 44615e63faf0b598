import PatchScript.Evaluate.Statement
import PatchScript.Proofs.Native.SideBySide

/-!
# Operators and places

What evaluation rests on besides the evaluation of parts: operators, access to values,
and changes of variables.  With corresponding operands they come out alike.  They fail
without a place, for reasons that can be reported, and never with an internal fault.
-/

namespace PatchScript

open Correspondence
open Run (Corresponds)

variable {kind : ErrorKind} {α β : Type}

/-! ## Reasons -/

/-- A result that fails only for reasons that can be reported. -/
def Reports {α : Type} (checked : Prop) (result : Except ErrorKind α) : Prop :=
  ∀ kind, result = .error kind → kind.Reportable checked

/-- A cause that is told apart from internal faults by its constructor. -/
def ErrorKind.isPlain : ErrorKind → Bool
  | .inCall _ | .inLibrary _ | .unparsedStatement | .runtime _ => false
  | _ => true

variable {checked : Prop}

theorem ErrorKind.Reportable.of_plain (plain : kind.isPlain = true) : kind.Reportable checked := by
  cases kind with
  | inCall _ | inLibrary _ | unparsedStatement | runtime _ => cases plain
  | _ => exact ⟨rfl, fun _ => by simp [internalFaults]⟩

/-- A message whose first letter is none of an internal fault's. -/
theorem ErrorKind.Reportable.of_runtime {message : String} (notB : message.toList.head? ≠ some 'b')
    (notF : message.toList.head? ≠ some 'f') : (ErrorKind.runtime message).Reportable checked := by
  refine ⟨rfl, fun _ fault => ?_⟩
  simp only [ErrorKind.internalFaults, List.mem_cons, List.not_mem_nil, or_false,
    reduceCtorEq, false_or, ErrorKind.runtime.injEq] at fault
  obtain rfl | rfl := fault
  · exact notB (by decide)
  · exact notF (by decide)

namespace Reports

variable {result : Except ErrorKind α}

theorem ok (value : α) : Reports checked (.ok value) := nofun

theorem error (reportable : kind.Reportable checked) :
    Reports checked (.error kind : Except ErrorKind α) := by
  rintro kind ⟨⟩
  exact reportable

theorem bind {next : α → Except ErrorKind β} (first : Reports checked result)
    (second : ∀ value, Reports checked (next value)) : Reports checked (result >>= next) := by
  cases result with
  | ok value => exact second value
  | error kind => exact .error (first kind rfl)

theorem ite {condition : Prop} [Decidable condition] {first second : Except ErrorKind α}
    (whenTrue : Reports checked first) (whenFalse : Reports checked second) :
    Reports checked (if condition then first else second) := by
  split
  · exact whenTrue
  · exact whenFalse

/-- Such a result corresponds to itself. -/
theorem results {rel : Correspondence} (reports : Reports rel.checked result) :
    rel.Results Eq result result := by
  cases result with
  | ok value => exact .ok rfl
  | error kind => exact .error (reports kind rfl)

end Reports

/-! ## Access to values -/

theorem reports_asNumber (value : Value) : Reports checked value.asNumber := by
  cases value with
  | number x => exact .ok x
  | _ => exact .error (.of_plain rfl)

theorem reports_asInteger (value : Value) : Reports checked value.asInteger := by
  refine (reports_asNumber value).bind fun x => ?_
  split
  · exact .ok _
  · exact .error (.of_plain rfl)

theorem reports_asString (value : Value) : Reports checked value.asString := by
  cases value with
  | string text => exact .ok text
  | _ => exact .error (.of_plain rfl)

theorem reports_resolveIndex (index : Int) (length : Nat) (allowEnd : Bool) :
    Reports checked (resolveIndex index length allowEnd) :=
  .ite (.ok _) (.error (.of_plain rfl))

namespace Place

theorem reports_position (key : Value) (length : Nat) : Reports checked (position key length) :=
  (reports_asInteger key).bind fun _ => reports_resolveIndex _ _ _

end Place

/-! ## Operators -/

namespace Operator

theorem reports_checkLength (length : Nat) : Reports checked (checkLength length) :=
  .ite (.ok _) (.error (.of_plain rfl))

theorem reports_repetitions (length count : Nat) : Reports checked (repetitions length count) :=
  (reports_checkLength _).bind fun _ => .ok _

theorem reports_repeatCount (x : Float) : Reports checked (repeatCount x) := by
  unfold repeatCount
  split
  · exact .ok _
  · exact .error (.of_plain rfl)

theorem reports_dividing (operation : Float → Float → Float) (x y : Float) :
    Reports checked (dividing operation x y) :=
  .ite (.error (.of_plain rfl)) (.ok _)

theorem reports_shifting (operation : Int64 → Int64 → Int64) (value amount : Int64) :
    Reports checked (shifting operation value amount) := by
  refine .ite (.ok _) (.error (.of_runtime ?_ ?_))
  · simp [String.toList_append]
  · simp [String.toList_append]

variable {rel : Correspondence} {left right left' right' : Value}
variable (lefts : rel.Values left left') (rights : rel.Values right right') (op : BinaryOp)

include lefts rights

theorem results_invalid {values : α → β → Prop} :
    rel.Results values (.error (invalid op left right)) (.error (invalid op left' right')) := by
  rw [invalid, invalid, lefts.kind_eq, rights.kind_eq]
  exact .error (.of_plain rfl)

theorem results_onNumbers {operation : Float → Float → Except ErrorKind Float}
    (reports : ∀ x y, Reports rel.checked (operation x y)) :
    rel.Results rel.Values (onNumbers op operation left right)
      (onNumbers op operation left' right') := by
  have invalid : rel.Results rel.Values _ _ := results_invalid lefts rights op
  cases lefts with
  | number x =>
    cases rights with
    | number y =>
      refine (reports x y).results.map fun result result' same => ?_
      subst same
      exact .number result
    | _ => exact invalid
  | _ => exact invalid

theorem results_compare (onFloats : Float → Float → Bool) (onTexts : String → String → Bool) :
    rel.Results rel.Values (compare op onFloats onTexts left right)
      (compare op onFloats onTexts left' right') := by
  have invalid : rel.Results rel.Values _ _ := results_invalid lefts rights op
  cases lefts with
  | number x =>
    cases rights with
    | number y => exact .ok (.boolean _)
    | _ => exact invalid
  | string first =>
    cases rights with
    | string second => exact .ok (.boolean _)
    | _ => exact invalid
  | _ => exact invalid

theorem results_onIntegers {operation : Int64 → Int64 → Except ErrorKind Int64}
    (reports : ∀ x y, Reports rel.checked (operation x y)) :
    rel.Results rel.Values (onIntegers op operation left right)
      (onIntegers op operation left' right') := by
  have invalid : rel.Results rel.Values _ _ := results_invalid lefts rights op
  cases lefts with
  | number x =>
    cases rights with
    | number y =>
      simp only [onIntegers]
      split
      · refine (reports _ _).results.map fun result result' same => ?_
        subst same
        exact .number _
      · exact .error (.of_plain rfl)
    | _ => exact invalid
  | _ => exact invalid

variable [lawful : rel.Lawful] {phase : rel.Phase} {store store' : Store}
variable (stores : rel.Stores phase store store')

include stores in
theorem results_elemOf :
    rel.Results rel.Values (elemOf store left right) (elemOf store' left' right') := by
  have invalid : rel.Results rel.Values _ _ := results_invalid lefts rights .elemOf
  cases rights with
  | array arrays =>
    have same := any_equal_eq stores (lawful.array stores arrays) lefts
    cases lefts <;>
      · simp only [elemOf, same]
        exact .ok (.boolean _)
  | object objects =>
    cases lefts with
    | string key =>
      simp only [elemOf, (lawful.object stores objects).contains_eq]
      exact .ok (.boolean _)
    | _ => exact invalid
  | _ => cases lefts <;> exact invalid

include stores in
theorem results_pureBinary (op : BinaryOp) :
    rel.Results rel.Values (pureBinary store op left right)
      (pureBinary store' op left' right') := by
  cases op with
  | sub | pow => exact results_onNumbers lefts rights _ fun _ _ => .ok _
  | div | mod => exact results_onNumbers lefts rights _ (reports_dividing _)
  | eq | notEq =>
    simp only [pureBinary, lawful.equal stores lefts rights]
    exact .ok (.boolean _)
  | lt | ltEq | gt | gtEq => exact results_compare lefts rights _ _ _
  | elemOf => exact results_elemOf lefts rights stores
  | bitAnd | bitOr | bitXor => exact results_onIntegers lefts rights _ fun _ _ => .ok _
  | shiftLeft | shiftRight => exact results_onIntegers lefts rights _ (reports_shifting _)
  | add | mul => exact results_invalid lefts rights _

theorem corresponds_add :
    Corresponds rel phase rel.BareErrors rel.Values (add left right) (add left' right') := by
  have invalid : Corresponds rel phase rel.BareErrors rel.Values
      (Run.fail (invalid .add left right)) (Run.fail (invalid .add left' right')) :=
    .lift (results_invalid lefts rights .add)
  cases lefts with
  | number x =>
    cases rights with
    | number y => exact .pure (.number _)
    | _ => exact invalid
  | string first =>
    cases rights with
    | string second =>
      exact (Corresponds.lift (reports_checkLength _).results).bind fun _ _ _ => .pure (.string _)
    | _ => exact invalid
  | array firsts =>
    cases rights with
    | array seconds =>
      refine (corresponds_arrayOf firsts).bind fun items items' found => ?_
      refine (corresponds_arrayOf seconds).bind fun others others' otherFound => ?_
      rw [found.size_eq, otherFound.size_eq]
      refine (Corresponds.lift (reports_checkLength _).results).bind fun _ _ _ => ?_
      exact corresponds_newArray (found.append otherFound)
    | _ => exact invalid
  | object firsts =>
    cases rights with
    | object seconds =>
      refine (corresponds_objectOf firsts).bind fun members members' found => ?_
      refine (corresponds_objectOf seconds).bind fun others others' otherFound => ?_
      have united : rel.Members (union members others) (union members' others') := by
        have same : (fun key => !others.contains key) = fun key => !others'.contains key := by
          funext key
          rw [otherFound.contains_eq]
        rw [union, union, same]
        exact (found.filter _).insertAll otherFound
      exact (corresponds_newObject united).bind fun _ _ objects => .pure (.object objects)
    | _ => exact invalid
  | _ => exact invalid

omit lefts rights lawful in
theorem items_appendRepeated {items items' written written' : Array Value}
    (related : rel.Items items items') (count : Nat)
    (sofar : rel.Items written written') :
    rel.Items (appendRepeated items count written) (appendRepeated items' count written') := by
  induction count generalizing written written' with
  | zero => exact sofar
  | succ count ih => exact ih (sofar.append related)

theorem corresponds_multiply :
    Corresponds rel phase rel.BareErrors rel.Values (multiply left right)
      (multiply left' right') := by
  have invalid : Corresponds rel phase rel.BareErrors rel.Values
      (Run.fail (invalid .mul left right)) (Run.fail (invalid .mul left' right')) :=
    .lift (results_invalid lefts rights .mul)
  cases lefts with
  | number x =>
    cases rights with
    | number y => exact .pure (.number _)
    | _ => exact invalid
  | string text =>
    cases rights with
    | number x =>
      refine (Corresponds.lift (reports_repeatCount x).results).bindSame fun count => ?_
      refine (Corresponds.lift (reports_repetitions _ _).results).bindSame fun times => ?_
      exact .pure (.string _)
    | _ => exact invalid
  | array arrays =>
    cases rights with
    | number x =>
      refine (Corresponds.lift (reports_repeatCount x).results).bindSame fun count => ?_
      refine (corresponds_arrayOf arrays).bind fun items items' found => ?_
      rw [found.size_eq]
      refine (Corresponds.lift (reports_repetitions _ _).results).bindSame fun times => ?_
      have empty : rel.Items #[] #[] := .nil
      exact corresponds_newArray (items_appendRepeated found times empty)
    | _ => exact invalid
  | _ => exact invalid

theorem corresponds_binary :
    Corresponds rel phase rel.BareErrors rel.Values (binary op left right)
      (binary op left' right') := by
  unfold binary
  split
  · exact corresponds_add lefts rights
  · exact corresponds_multiply lefts rights
  · exact Corresponds.read.bind fun _ _ stores => .lift (results_pureBinary lefts rights stores op)

omit lefts rights in
include stores in
theorem results_unary (op : UnaryOp) {operand operand' : Value}
    (operands : rel.Values operand operand') :
    rel.Results rel.Values (unary store op operand) (unary store' op operand') := by
  have mismatch (op : UnaryOp) : rel.Results rel.Values
      (.error (operand.mismatch ("number for " ++ unaryText op)))
      (.error (operand'.mismatch ("number for " ++ unaryText op))) := by
    rw [operands.mismatch_eq]
    exact .error (.of_plain rfl)
  cases op with
  | not =>
    have same := isTruthy_eq stores operands
    cases operands <;>
      · simp only [unary, same]
        exact .ok (.boolean _)
  | neg | plus =>
    cases operands with
    | number x => exact .ok (.number _)
    | _ => exact mismatch _
  | bitNot =>
    cases operands with
    | number x =>
      simp only [unary]
      split
      · exact .ok (.number _)
      · exact .error (.of_plain rfl)
    | _ => exact mismatch _

end Operator

/-! ## Variables and places -/

section Places

variable {rel : Correspondence} [lawful : rel.Lawful] {phase : rel.Phase}
variable {ref ref' : ObjectRef} {store store' : Store}
variable {container container' key key' value value' : Value}

theorem Evaluate.corresponds_declare {context context' : Context}
    (blocks : rel.Blocks context context') (name : String)
    (values : rel.Values value value') (isMutable : Bool) :
    Corresponds rel phase rel.BareErrors (fun _ _ => True)
      (declare context name value isMutable) (declare context' name value' isMutable) := by
  intro store store' stores
  have same := frames_contains_eq stores blocks.toContexts name
  simp only [declare, Run.changeFrames_apply, Frames.planDeclare, ← same]
  by_cases visible : store.frames.contains context.scope name = true
  · rw [if_pos visible, if_pos visible]
    exact .failed stores ⟨⟨_, .of_plain rfl, rfl⟩, rfl⟩
  · rw [if_neg visible, if_neg visible]
    have unbound : (store.frames.get context.scope.inner).get? name = none := by
      have hidden := fun bound => visible (List.any_eq_true.mpr
        ⟨context.scope.inner, List.mem_cons_self, bound⟩)
      exact Option.not_isSome_iff_eq_none.mp hidden
    have inner : rel.Frames context.scope.inner context'.scope.inner :=
      (List.forall₂_cons.mp blocks.chain).1
    exact .ok (lawful.changeFrames stores (.declare name isMutable inner blocks.inner unbound values))
      trivial

omit lawful in
theorem Place.results_valueOf {members members' : OrderedMap Value}
    (related : rel.Members members members') (key : String) :
    rel.Results rel.Values (valueOf members key) (valueOf members' key) := by
  have found := related.get? key
  rw [valueOf, valueOf]
  generalize members.get? key = value, members'.get? key = value' at found
  cases found with
  | some values => exact .ok values
  | none => exact .error (.of_plain rfl)

theorem Place.results_getIndex (stores : rel.Stores phase store store')
    (containers : rel.Values container container') (keys : rel.Values key key') :
    rel.Results rel.Values (getIndex store container key) (getIndex store' container' key') := by
  have mismatch (expected : String) : rel.Results rel.Values
      (.error (container.mismatch expected)) (.error (container'.mismatch expected)) := by
    rw [containers.mismatch_eq]
    exact .error (.of_plain rfl)
  cases containers with
  | object objects =>
    simp only [getIndex, keys.asString_eq]
    refine (reports_asString key').results.bind fun name _ same => ?_
    subst same
    exact results_valueOf (lawful.object stores objects) name
  | array arrays =>
    have items := lawful.array stores arrays
    simp only [getIndex, position, keys.asInteger_eq, items.size_eq]
    refine (reports_position key' _).results.bind fun index _ same => ?_
    subst same
    exact .ok (items.getD index)
  | string text =>
    simp only [getIndex, keys.asInteger_eq]
    refine (reports_asInteger key').results.bind fun index _ same => ?_
    subst same
    have char : Reports rel.checked (StringFunction.charText text index) :=
      (reports_resolveIndex _ _ _).bind fun _ => .ok _
    refine char.results.bind fun found _ same => ?_
    subst same
    exact .ok (.string found)
  | _ => exact mismatch _

/-- Looking for a method that a value does not have fails with a message that starts with
the kind of the value. -/
theorem Place.corresponds_methodOf {receiver receiver' : Value}
    (receivers : rel.Values receiver receiver')
    (hasMethods : receiver.kind = .string ∨ receiver.kind = .array) (name : String) :
    Corresponds rel phase rel.BareErrors rel.Values
      (match Native.method? receiver name with
      | some function => Run.newFunction (.bound receiver function)
      | none => Run.failWith (receiver.typeName ++ " has no method '" ++ name ++ "'"))
      (match Native.method? receiver' name with
      | some function => Run.newFunction (.bound receiver' function)
      | none => Run.failWith (receiver'.typeName ++ " has no method '" ++ name ++ "'")) := by
  have same : Native.method? receiver name = Native.method? receiver' name := by
    cases receivers <;> rfl
  rw [same, ← receivers.typeName_eq]
  split
  · exact corresponds_newFunction (.bound _ receivers) trivial
  · refine .fail ⟨⟨_, .of_runtime ?_ ?_, rfl⟩, rfl⟩
    all_goals
      obtain kind | kind := hasMethods
      · simp [Value.typeName, kind, ValueKind.name, String.toList_append]
      · simp [Value.typeName, kind, ValueKind.name, String.toList_append]

theorem Place.corresponds_getProperty (containers : rel.Values container container')
    (name : String) :
    Corresponds rel phase rel.BareErrors rel.Values (getProperty container name)
      (getProperty container' name) := by
  have mismatch (expected : String) : Corresponds rel phase rel.BareErrors
      rel.Values (Run.fail (container.mismatch expected))
      (Run.fail (container'.mismatch expected)) := by
    rw [containers.mismatch_eq]
    exact .fail ⟨⟨_, .of_plain rfl, rfl⟩, rfl⟩
  cases containers with
  | object objects =>
    exact (corresponds_objectOf objects).bind fun _ _ members =>
      .lift (results_valueOf members name)
  | string text => exact corresponds_methodOf (.string text) (.inl rfl) name
  | array arrays => exact corresponds_methodOf (.array arrays) (.inr rfl) name
  | _ => exact mismatch _

omit lawful in
/-- Corresponding places. -/
inductive Correspondence.Places (rel : Correspondence) : Place → Place → Prop where
  | named (name : String) : Places rel (.variable name) (.variable name)
  | bare (name : String) : Places rel (.bare name) (.bare name)
  | property {container container' : Value} (name : String) :
    rel.Values container container' →
    Places rel (.property container name) (.property container' name)
  | index {container container' key key' : Value} :
    rel.Values container container' → rel.Values key key' →
    Places rel (.index container key) (.index container' key')

variable {context context' : Context} {place place' : Place} (places : rel.Places place place')

include places

omit places in
/-- What a name refers to among the variables, or a failure. -/
theorem Place.corresponds_visible (contexts : rel.Contexts context context') (name : String)
    (plain : kind.isPlain = true) (stores : rel.Stores phase store store') :
    Corresponds rel phase rel.BareErrors rel.Values
      (match store.frames.get? context.scope name with
      | some value => pure value
      | none => Run.fail kind)
      (match store'.frames.get? context'.scope name with
      | some value => pure value
      | none => Run.fail kind) := by
  have found := frames_get? stores contexts name
  generalize store.frames.get? context.scope name = value,
    store'.frames.get? context'.scope name = value' at found
  cases found with
  | some values => exact .pure values
  | none => exact .fail ⟨⟨_, .of_plain plain, rfl⟩, rfl⟩

theorem Place.corresponds_get (contexts : rel.Contexts context context') :
    Corresponds rel phase rel.BareErrors rel.Values (place.get context) (place'.get context') := by
  cases places with
  | named name =>
    exact Corresponds.read.bind fun _ _ stores => corresponds_visible contexts name rfl stores
  | bare name =>
    refine Corresponds.read.bind fun store store' stores => ?_
    have found := (lawful.object stores contexts.root).get? name
    generalize (store.object context.root).get? name = value,
      (store'.object context'.root).get? name = value' at found
    cases found with
    | some values => exact .pure values
    | none => exact corresponds_visible contexts name rfl stores
  | property name containers => exact corresponds_getProperty containers name
  | index containers keys =>
    exact Corresponds.read.bind fun _ _ stores => .lift (results_getIndex stores containers keys)

omit places in
theorem Place.corresponds_setKey {errors : EvalError → EvalError → Prop}
    (objects : rel.Objects ref ref') (key : String) (values : rel.Values value value') :
    Corresponds rel phase errors (fun _ _ => True) (setKey ref key value)
      (setKey ref' key value') :=
  .change fun _ _ stores => lawful.modifyObject stores objects
    (fun _ _ contents => contents.insert key values) fun _ =>
      OrderedMap.keys_prefix_insertAll _ [(key, value)]

omit places lawful in
theorem results_asObject (values : rel.Values value value') :
    rel.Results rel.Objects value.asObject value'.asObject := by
  cases values with
  | object objects => exact .ok objects
  | _ => exact .error (.of_plain rfl)

omit places in
/-- A position in corresponding arrays. -/
theorem Place.corresponds_position {ref ref' : ArrayRef} (arrays : rel.Arrays ref ref')
    (keys : rel.Values key key') {values : α → β → Prop} {next : Nat → Run α}
    {next' : Nat → Run β}
    (goesOn : ∀ index, Corresponds rel phase rel.BareErrors values (next index) (next' index)) :
    Corresponds rel phase rel.BareErrors values
      (Run.arrayOf ref >>= fun items => Run.lift (position key items.size) >>= next)
      (Run.arrayOf ref' >>= fun items => Run.lift (position key' items.size) >>= next') := by
  refine (corresponds_arrayOf arrays).bind fun items items' found => ?_
  simp only [position, keys.asInteger_eq, found.size_eq]
  refine (Corresponds.lift (reports_position key' _).results).bindSame fun index => ?_
  exact goesOn index

theorem Place.corresponds_set (contexts : rel.Contexts context context')
    (values : rel.Values value value') :
    Corresponds rel phase rel.BareErrors (fun _ _ => True) (place.set context value)
      (place'.set context' value') := by
  cases places with
  | named name =>
    intro store store' stores
    have found := variableFrame_results stores name contexts.chain
    simp only [set, Run.changeFrames_apply, Frames.planAssign, bind, Except.bind]
    generalize store.frames.variableFrame name context.scope.chain = result,
      store'.frames.variableFrame name context'.scope.chain = result' at found
    cases found with
    | ok frames =>
      exact .ok (lawful.changeFrames stores (.assign name frames.1 frames.2 values)) trivial
    | error reportable => exact .failed stores ⟨⟨_, reportable, rfl⟩, rfl⟩
  | bare name => exact corresponds_setKey contexts.root name values
  | property name containers =>
    exact (Corresponds.lift (results_asObject containers)).bind fun _ _ objects =>
      corresponds_setKey objects name values
  | index containers keys =>
    have mismatch (expected : String) := containers.mismatch_eq expected
    cases containers with
    | object objects =>
      simp only [set, keys.asString_eq]
      refine (Corresponds.lift (reports_asString _).results).bindSame fun name => ?_
      exact corresponds_setKey objects name values
    | array arrays =>
      refine corresponds_position arrays keys fun index => .change fun _ _ stores => ?_
      exact lawful.modifyArray stores arrays fun _ _ items => items.setIfInBounds index values
    | _ =>
      simp only [set, mismatch]
      exact .fail ⟨⟨_, .of_plain rfl, rfl⟩, rfl⟩

omit places in
theorem Place.corresponds_deleteKey (unguarded : ¬ rel.Guarded phase)
    (objects : rel.Objects ref ref') (key : String) :
    Corresponds rel phase rel.BareErrors (fun _ _ => True) (deleteKey ref key)
      (deleteKey ref' key) := by
  refine (corresponds_objectOf objects).bind fun members members' found => ?_
  refine .ite (by rw [found.contains_eq]) (fun _ => ?_) fun _ => ?_
  · exact .change fun _ _ stores => lawful.modifyObject stores objects
      (fun _ _ contents => contents.erase key) fun guarded => absurd guarded unguarded
  · exact .fail ⟨⟨_, .of_plain rfl, rfl⟩, rfl⟩

theorem Place.corresponds_delete (unguarded : ¬ rel.Guarded phase)
    (contexts : rel.Contexts context context') :
    Corresponds rel phase rel.BareErrors (fun _ _ => True) (place.delete context)
      (place'.delete context') := by
  cases places with
  | named name =>
    intro store store' stores
    have found := variableFrame_results stores name contexts.chain
    simp only [delete, Run.changeFrames_apply, Frames.planRemove, bind, Except.bind]
    generalize store.frames.variableFrame name context.scope.chain = result,
      store'.frames.variableFrame name context'.scope.chain = result' at found
    cases found with
    | ok frames => exact .ok (lawful.changeFrames stores (.remove name frames.1 frames.2)) trivial
    | error reportable => exact .failed stores ⟨⟨_, reportable, rfl⟩, rfl⟩
  | bare name => exact corresponds_deleteKey unguarded contexts.root name
  | property name containers =>
    exact (Corresponds.lift (results_asObject containers)).bind fun _ _ objects =>
      corresponds_deleteKey unguarded objects name
  | index containers keys =>
    have mismatch (expected : String) := containers.mismatch_eq expected
    cases containers with
    | object objects =>
      simp only [delete, keys.asString_eq]
      refine (Corresponds.lift (reports_asString _).results).bindSame fun name => ?_
      exact corresponds_deleteKey unguarded objects name
    | array arrays =>
      refine corresponds_position arrays keys fun index => .change fun _ _ stores => ?_
      exact lawful.modifyArray stores arrays fun _ _ items => items.eraseIdxIfInBounds index
    | _ =>
      simp only [delete, mismatch]
      exact .fail ⟨⟨_, .of_plain rfl, rfl⟩, rfl⟩

end Places
end PatchScript
