import PatchScript.Proofs.Run.SideBySide

/-!
# Lawful correspondences

A correspondence is if what a program can read from corresponding stores
corresponds, and if corresponding changes that a program can make keep the stores in
correspondence.
-/

namespace PatchScript

open Run (Corresponds)

/-- A function that knows where it was made, if it has to. -/
def Callable.Attached : Callable → Prop
  | .script _ captured => captured.isSome = true
  | _ => True

namespace Correspondence

variable {context context' : Context} {value value' : Value}

/-- The changes of frames that programs make to a store and to its counterpart. -/
inductive FrameChanges (rel : Correspondence)
    (store : Store) : FrameChange → FrameChange → Prop where
  /-- Declare a name that the frame does not bind. -/
  | declare {ref ref' : FrameRef} (name : String) {value value' : Value} (isMutable : Bool) :
    rel.Frames ref ref' → rel.Local ref ref' →
    (store.frames.get ref).get? name = none → rel.Values value value' →
    FrameChanges rel store (.bind ref name value isMutable) (.bind ref' name value' isMutable)
  /-- Bind a parameter in a frame that has no constants. -/
  | parameter {ref ref' : FrameRef} (name : String) {value value' : Value} :
    rel.Frames ref ref' → rel.Local ref ref' →
    (store.frames.get ref).constants = OrderedMap.empty → rel.Values value value' →
    FrameChanges rel store (.bind ref name value true) (.bind ref' name value' true)
  /-- Give a variable another value. -/
  | assign {ref ref' : FrameRef} (name : String) {value value' : Value} :
    rel.Frames ref ref' → (store.frames.get ref).mutables.contains name = true →
    rel.Values value value' →
    FrameChanges rel store (.bind ref name value true) (.bind ref' name value' true)
  /-- Remove a variable. -/
  | remove {ref ref' : FrameRef} (name : String) :
    rel.Frames ref ref' → (store.frames.get ref).mutables.contains name = true →
    FrameChanges rel store (.drop ref name) (.drop ref' name)

/-- What programs read corresponds, and what they change stays in correspondence. -/
class Lawful (rel : Correspondence) : Prop where
  object {phase : rel.Phase} {store store' : Store} {ref ref' : ObjectRef} :
    rel.Stores phase store store' → rel.Objects ref ref' →
    rel.Members (store.object ref) (store'.object ref')
  array {phase : rel.Phase} {store store' : Store} {ref ref' : ArrayRef} :
    rel.Stores phase store store' → rel.Arrays ref ref' →
    rel.Items (store.array ref) (store'.array ref')
  function {phase : rel.Phase} {store store' : Store} {ref ref' : FunctionRef} :
    rel.Stores phase store store' → rel.Functions ref ref' →
    Option.Rel rel.Callables (store.function ref) (store'.function ref')
  frame {phase : rel.Phase} {store store' : Store} {ref ref' : FrameRef} :
    rel.Stores phase store store' → rel.Frames ref ref' →
    rel.Bindings (store.frames.get ref) (store'.frames.get ref')
  equal {phase : rel.Phase} {store store' : Store} {left right left' right' : Value} :
    rel.Stores phase store store' → rel.Values left left' →
    rel.Values right right' → store.equal left right = store'.equal left' right'
  displayText {phase : rel.Phase} {store store' : Store} {value value' : Value} :
    rel.Stores phase store store' → rel.Values value value' →
    store.displayText value = store'.displayText value'
  toJson {phase : rel.Phase} {store store' : Store} {value value' : Value} :
    rel.Stores phase store store' → rel.Values value value' →
    store.toJson value = store'.toJson value'
  addObject {phase : rel.Phase} {store store' : Store} {members members' : OrderedMap Value} :
    rel.Stores phase store store' → rel.Members members members' →
    rel.Objects (store.addObject members).1 (store'.addObject members').1 ∧
      rel.Stores phase (store.addObject members).2 (store'.addObject members').2
  addArray {phase : rel.Phase} {store store' : Store} {items items' : Array Value} :
    rel.Stores phase store store' → rel.Items items items' →
    rel.Arrays (store.addArray items).1 (store'.addArray items').1 ∧
      rel.Stores phase (store.addArray items).2 (store'.addArray items').2
  addFunction {phase : rel.Phase} {store store' : Store} {callable callable' : Callable} :
    rel.Stores phase store store' → rel.Callables callable callable' →
    callable.Attached →
    rel.Functions (store.addFunction callable).1 (store'.addFunction callable').1 ∧
      rel.Stores phase (store.addFunction callable).2 (store'.addFunction callable').2
  addFrame {phase : rel.Phase} {store store' : Store} :
    rel.Stores phase store store' →
    rel.Frames store.addFrame.1 store'.addFrame.1 ∧
      rel.Local store.addFrame.1 store'.addFrame.1 ∧
      rel.Stores phase store.addFrame.2 store'.addFrame.2
  modifyObject {phase : rel.Phase} {store store' : Store} {ref ref' : ObjectRef}
    {change change' : OrderedMap Value → OrderedMap Value} :
    rel.Stores phase store store' → rel.Objects ref ref' →
    (∀ members members', rel.Members members members' →
      rel.Members (change members) (change' members')) →
    (rel.Guarded phase → (store.object ref).keys <+: (change (store.object ref)).keys) →
    rel.Stores phase (store.modifyObject ref change) (store'.modifyObject ref' change')
  modifyArray {phase : rel.Phase} {store store' : Store} {ref ref' : ArrayRef}
    {change change' : Array Value → Array Value} :
    rel.Stores phase store store' → rel.Arrays ref ref' →
    (∀ items items', rel.Items items items' → rel.Items (change items) (change' items')) →
    rel.Stores phase (store.modifyArray ref change) (store'.modifyArray ref' change')
  changeFrames {phase : rel.Phase} {store store' : Store} {change change' : FrameChange} :
    rel.Stores phase store store' → rel.FrameChanges store change change' →
    rel.Stores phase (store.changeFrames change) (store'.changeFrames change')
  log {phase : rel.Phase} {store store' : Store} {span span' : Span} (text : String) :
    rel.Stores phase store store' → rel.Spans span span' →
    rel.Stores phase
      { store with log := store.log.push { span := span, text := text } }
      { store' with log := store'.log.push { span := span', text := text } }

/-! ## Values -/

section Values

variable {rel : Correspondence} (values : rel.Values value value')

include values

theorem Values.kind_eq : value.kind = value'.kind := by
  cases values <;> rfl

theorem Values.typeName_eq : value.typeName = value'.typeName := by
  cases values <;> rfl

theorem Values.mismatch_eq (expected : String) :
    value.mismatch expected = value'.mismatch expected := by
  cases values <;> rfl

theorem Values.asNumber_eq : value.asNumber = value'.asNumber := by
  cases values <;> rfl

theorem Values.asInteger_eq : value.asInteger = value'.asInteger := by
  cases values <;> rfl

theorem Values.asString_eq : value.asString = value'.asString := by
  cases values <;> rfl

end Values

theorem values_ofLiteral {rel : Correspondence} (literal : Literal) :
    rel.Values (Value.ofLiteral literal) (Value.ofLiteral literal) := by
  cases literal with
  | number value => exact .number value
  | string value => exact .string value
  | boolean value => exact .boolean value
  | null => exact .null

/-! ## Items of arrays -/

section Items

variable {rel : Correspondence} {items items' : Array Value} (related : rel.Items items items')
variable (index : Nat)

include related

theorem Items.size_eq : items.size = items'.size := by
  rw [← Array.length_toList, ← Array.length_toList]
  exact related.length_eq

theorem Items.push (values : rel.Values value value') :
    rel.Items (items.push value) (items'.push value') := by
  rw [Items, Array.toList_push, Array.toList_push]
  exact List.rel_append related (.cons values .nil)

theorem Items.pop : rel.Items items.pop items'.pop := by
  rw [Items, Array.toList_pop, Array.toList_pop]
  exact forall₂_dropLast related

theorem Items.back? : Option.Rel rel.Values items.back? items'.back? := by
  rw [← Array.getLast?_toList, ← Array.getLast?_toList]
  exact forall₂_getLast? related

theorem Items.getD : rel.Values (items.getD index .null) (items'.getD index .null) := by
  have found := forall₂_getElem? related index
  rw [Array.getElem?_toList, Array.getElem?_toList] at found
  rw [Array.getD_eq_getD_getElem?, Array.getD_eq_getD_getElem?]
  generalize items[index]? = item, items'[index]? = item' at found
  cases found with
  | some values => exact values
  | none => exact .null

theorem Items.setIfInBounds (values : rel.Values value value') :
    rel.Items (items.setIfInBounds index value) (items'.setIfInBounds index value') := by
  rw [Items, Array.toList_setIfInBounds, Array.toList_setIfInBounds]
  exact forall₂_set related index values

theorem Items.insertIdxIfInBounds (values : rel.Values value value') :
    rel.Items (items.insertIdxIfInBounds index value)
      (items'.insertIdxIfInBounds index value') := by
  by_cases inside : index ≤ items.size
  · have inside' : index ≤ items'.size := related.size_eq ▸ inside
    rw [Array.insertIdxIfInBounds, Array.insertIdxIfInBounds, dif_pos inside, dif_pos inside',
      Items, Array.toList_insertIdx, Array.toList_insertIdx]
    exact forall₂_insertIdx related index values
  · have outside' : ¬ index ≤ items'.size := related.size_eq ▸ inside
    rw [Array.insertIdxIfInBounds, Array.insertIdxIfInBounds, dif_neg inside, dif_neg outside']
    exact related

theorem Items.eraseIdxIfInBounds :
    rel.Items (items.eraseIdxIfInBounds index) (items'.eraseIdxIfInBounds index) := by
  rw [Items, Array.toList_eraseIdxIfInBounds, Array.toList_eraseIdxIfInBounds]
  exact forall₂_eraseIdx related index

theorem Items.extract (start stop : Nat) :
    rel.Items (items.extract start stop) (items'.extract start stop) := by
  rw [Items, Array.toList_extract, Array.toList_extract, List.extract_eq_take_drop,
    List.extract_eq_take_drop]
  exact List.forall₂_take _ (List.forall₂_drop _ related)

theorem Items.reverse : rel.Items items.reverse items'.reverse := by
  rw [Items, Array.toList_reverse, Array.toList_reverse]
  exact List.rel_reverse related

theorem Items.append {others others' : Array Value} (otherRelated : rel.Items others others') :
    rel.Items (items ++ others) (items' ++ others') := by
  rw [Items, Array.toList_append, Array.toList_append]
  exact List.rel_append related otherRelated

theorem Items.fill (values : rel.Values value value') :
    rel.Items (items.map fun _ => value) (items'.map fun _ => value') := by
  rw [Items, Array.toList_map, Array.toList_map]
  exact List.rel_map (fun _ _ _ => values) related

end Items

theorem items_toArray {rel : Correspondence} {items items' : List Value}
    (related : List.Forall₂ rel.Values items items') :
    rel.Items items.toArray items'.toArray := by
  rw [Items, List.toList_toArray, List.toList_toArray]
  exact related

/-! ## Reading and adding -/

section Reading

variable {rel : Correspondence} [lawful : rel.Lawful]
variable {phase : rel.Phase} {errors : EvalError → EvalError → Prop}

theorem corresponds_objectOf {ref ref' : ObjectRef} (objects : rel.Objects ref ref') :
    Corresponds rel phase errors rel.Members (Run.objectOf ref) (Run.objectOf ref') :=
  Corresponds.read.bind fun _ _ stores => .pure (lawful.object stores objects)

theorem corresponds_arrayOf {ref ref' : ArrayRef} (arrays : rel.Arrays ref ref') :
    Corresponds rel phase errors rel.Items (Run.arrayOf ref) (Run.arrayOf ref') :=
  Corresponds.read.bind fun _ _ stores => .pure (lawful.array stores arrays)

theorem isTruthy_eq {store store' : Store} (stores : rel.Stores phase store store')
    (values : rel.Values value value') : store.isTruthy value = store'.isTruthy value' := by
  cases values with
  | array arrays =>
    have sizes := (lawful.array stores arrays).size_eq
    simp only [Store.isTruthy, Array.isEmpty, sizes]
  | object objects =>
    have sizes := (lawful.object stores objects).size_eq
    simp only [Store.isTruthy, sizes]
  | _ => rfl

/-- Searching corresponding arrays for corresponding values comes out the same. -/
theorem any_equal_eq {store store' : Store} (stores : rel.Stores phase store store')
    {items items' : Array Value} (related : rel.Items items items')
    (values : rel.Values value value') :
    (items.any fun item => store.equal item value) =
      items'.any fun item => store'.equal item value' := by
  rw [← Array.any_toList, ← Array.any_toList]
  unfold Items at related
  generalize items.toList = items, items'.toList = items' at related
  induction related with
  | nil => rfl
  | cons first _ ih => rw [List.any_cons, List.any_cons, ih, lawful.equal stores first values]

theorem corresponds_isTruthy (values : rel.Values value value') :
    Corresponds rel phase errors Eq (Run.isTruthy value) (Run.isTruthy value') :=
  Corresponds.read.bind fun _ _ stores => .pure (isTruthy_eq stores values)

theorem corresponds_newObject {members members' : OrderedMap Value}
    (related : rel.Members members members') :
    Corresponds rel phase errors rel.Objects (Run.newObject members) (Run.newObject members') :=
  .changeGet fun _ _ stores => lawful.addObject stores related

theorem corresponds_newArray {items items' : Array Value} (related : rel.Items items items') :
    Corresponds rel phase errors rel.Values (Run.newArray items) (Run.newArray items') :=
  .changeGet fun _ _ stores =>
    ⟨.array (lawful.addArray stores related).1, (lawful.addArray stores related).2⟩

theorem corresponds_newFunction {callable callable' : Callable}
    (callables : rel.Callables callable callable') (attached : callable.Attached) :
    Corresponds rel phase errors rel.Values (Run.newFunction callable)
      (Run.newFunction callable') := by
  refine .changeGet fun _ _ stores => ?_
  obtain ⟨functions, after⟩ := lawful.addFunction stores callables attached
  exact ⟨.function functions, after⟩

theorem corresponds_newScope (contexts : rel.Contexts context context') :
    Corresponds rel phase errors rel.Blocks (Run.newScope context) (Run.newScope context') :=
  .changeGet fun _ _ stores =>
    have ⟨frames, isLocal, after⟩ := lawful.addFrame stores
    ⟨⟨⟨contexts.root, .cons frames contexts.chain⟩, isLocal⟩, after⟩

theorem corresponds_isolated {root root' : ObjectRef} (objects : rel.Objects root root') :
    Corresponds rel phase errors rel.Blocks (Run.isolated root) (Run.isolated root') :=
  .changeGet fun _ _ stores =>
    have ⟨frames, isLocal, after⟩ := lawful.addFrame stores
    ⟨⟨⟨objects, .cons frames .nil⟩, isLocal⟩, after⟩

end Reading

mutual

/-- Adding a document to corresponding stores adds corresponding values. -/
theorem ofJson_corresponds {rel : Correspondence} [lawful : rel.Lawful]
    {phase : rel.Phase} (json : Json) {store store' : Store}
    (stores : rel.Stores phase store store') :
    rel.Values (store.ofJson json).1 (store'.ofJson json).1 ∧
      rel.Stores phase (store.ofJson json).2 (store'.ofJson json).2 :=
  match json with
  | .null => ⟨.null, stores⟩
  | .bool value => ⟨.boolean value, stores⟩
  | .number value => ⟨.number value.toFloat, stores⟩
  | .string value => ⟨.string value, stores⟩
  | .array items =>
    have empty : rel.Items #[] #[] := .nil
    have ⟨related, after⟩ := ofJsonItems_corresponds items stores empty
    have ⟨arrays, added⟩ := lawful.addArray after related
    ⟨.array arrays, added⟩
  | .object members =>
    have ⟨related, after⟩ := ofJsonMembers_corresponds members stores OrderedMap.matches_empty
    have ⟨objects, added⟩ := lawful.addObject after related
    ⟨.object objects, added⟩

theorem ofJsonItems_corresponds {rel : Correspondence} [lawful : rel.Lawful]
    {phase : rel.Phase} (jsons : List Json) {store store' : Store}
    (stores : rel.Stores phase store store') {items items' : Array Value}
    (related : rel.Items items items') :
    rel.Items (store.ofJsonItems jsons items).1 (store'.ofJsonItems jsons items').1 ∧
      rel.Stores phase (store.ofJsonItems jsons items).2 (store'.ofJsonItems jsons items').2 :=
  match jsons with
  | [] => ⟨related, stores⟩
  | json :: rest =>
    have ⟨values, after⟩ := ofJson_corresponds json stores
    ofJsonItems_corresponds rest after (related.push values)

theorem ofJsonMembers_corresponds {rel : Correspondence} [lawful : rel.Lawful]
    {phase : rel.Phase} (jsons : List (String × Json)) {store store' : Store}
    (stores : rel.Stores phase store store') {members members' : OrderedMap Value}
    (related : rel.Members members members') :
    rel.Members (store.ofJsonMembers jsons members).1 (store'.ofJsonMembers jsons members').1 ∧
      rel.Stores phase (store.ofJsonMembers jsons members).2
        (store'.ofJsonMembers jsons members').2 :=
  match jsons with
  | [] => ⟨related, stores⟩
  | (name, json) :: rest =>
    have ⟨values, after⟩ := ofJson_corresponds json stores
    ofJsonMembers_corresponds rest after (related.insert name values)

end

/-! ## Variables -/

section Variables

variable {rel : Correspondence}

theorem Bindings.get? {frame frame' : Frame} (bindings : rel.Bindings frame frame')
    (name : String) : Option.Rel rel.Values (frame.get? name) (frame'.get? name) := by
  have amongVariables := bindings.mutables.get? name
  have amongConstants := bindings.constants.get? name
  rw [Frame.get?, Frame.get?]
  generalize frame.mutables.get? name = value, frame'.mutables.get? name = value' at amongVariables
  cases amongVariables with
  | some values => exact .some values
  | none => exact amongConstants

variable [lawful : rel.Lawful] {phase : rel.Phase} {store store' : Store}
variable (stores : rel.Stores phase store store')

include stores

theorem frames_get? (contexts : rel.Contexts context context') (name : String) :
    Option.Rel rel.Values (store.frames.get? context.scope name)
      (store'.frames.get? context'.scope name) := by
  have frames := contexts.chain
  rw [Frames.get?, Frames.get?]
  generalize context.scope.chain = chain, context'.scope.chain = chain' at frames
  induction frames with
  | nil => exact .none
  | cons frames _ ih =>
    rw [List.findSome?_cons, List.findSome?_cons]
    have found := (lawful.frame stores frames).get? name
    generalize (store.frames.get _).get? name = value,
      (store'.frames.get _).get? name = value' at found
    cases found with
    | some values => exact .some values
    | none => exact ih

theorem frames_contains_eq (contexts : rel.Contexts context context') (name : String) :
    store.frames.contains context.scope name = store'.frames.contains context'.scope name := by
  have frames := contexts.chain
  rw [Frames.contains, Frames.contains]
  generalize context.scope.chain = chain, context'.scope.chain = chain' at frames
  induction frames with
  | nil => rfl
  | cons frames _ ih =>
    have found := (lawful.frame stores frames).get? name
    rw [List.any_cons, List.any_cons, ih]
    congr 1
    generalize (store.frames.get _).get? name = value,
      (store'.frames.get _).get? name = value' at found
    cases found <;> rfl

/-- The frames in which a variable is found correspond, and bind the variable. -/
theorem variableFrame_results (name : String) {chain chain' : List FrameRef}
    (frames : List.Forall₂ rel.Frames chain chain') :
    rel.Results
      (fun ref ref' => rel.Frames ref ref' ∧ (store.frames.get ref).mutables.contains name = true)
      (store.frames.variableFrame name chain) (store'.frames.variableFrame name chain') := by
  induction frames with
  | nil => exact .error ⟨rfl, fun _ => by simp [ErrorKind.internalFaults]⟩
  | @cons ref ref' _ _ first _ ih =>
    have bindings := lawful.frame stores first
    have sameVariables := bindings.mutables.contains_eq name
    have sameConstants := bindings.constants.contains_eq name
    rw [Frames.variableFrame, Frames.variableFrame]
    simp only [← sameVariables, ← sameConstants]
    by_cases isVariable : (store.frames.get ref).mutables.contains name = true
    · rw [if_pos isVariable, if_pos isVariable]
      exact .ok ⟨first, isVariable⟩
    · rw [if_neg isVariable, if_neg isVariable]
      by_cases isConstant : (store.frames.get ref).constants.contains name = true
      · rw [if_pos isConstant, if_pos isConstant]
        exact .error ⟨rfl, fun _ => by simp [ErrorKind.internalFaults]⟩
      · rw [if_neg isConstant, if_neg isConstant]
        exact ih

end Variables

end Correspondence
end PatchScript
