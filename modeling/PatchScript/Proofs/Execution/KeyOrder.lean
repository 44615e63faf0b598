import PatchScript.Proofs.Evaluate.ObjectOrder
import PatchScript.Proofs.Evaluate.Sparing
import PatchScript.Proofs.Execution.Watching
import PatchScript.Proofs.Store.DocumentRoundTrip

/-!
# Keys in the order of insertion

The keys of an object are distinct and stand in the order in which they were added, in every
store that an execution can get to.  Every operation that makes, changes or lists objects
keeps to that order.  Beyond single operations, a run keeps the keys in their order that no
statement and no call of it deletes: all other keys that it writes come after them.
-/

namespace PatchScript

open Run (Spares SparesFrom)

/-! ## Requests -/

/-- Whatever is asked for, an execution that may be stopped retains what is to be spared. -/
theorem Request.spares_perform (spared : Spared) (host : Host) (budget : Nat) (request : Request) :
    Spares spared (request.perform (sparingInterpreter spared host budget))
      (request.perform (interpreter host budget)) := by
  have runs (start : Option Store) := request.corresponds_perform Correspondence.lawful_sparing
    (alike_sparingInterpreter spared host (Nat.le_refl budget) start).parts
  exact Run.spares_of_runs runs fun _ => rfl

-- Of two keys one is to be spared: deleting the other is not stopped.
example :
    let spared : Spared := fun _ key => key == "b"
    let started := Run.finalStore (Execution.start [("a", .null), ("b", .null)] .empty)
    let deleting (name : String) : Statement :=
      .node LogEntry.noted.span (.delete (.node LogEntry.noted.span (.bare name)))
    let run (interpreters : Nat → Interpreter) (name : String) :=
      (interpreters 2).execute ⟨⟨0⟩, ⟨⟨0⟩, []⟩⟩ (deleting name) started
    run (sparingInterpreter spared {}) "a" = run (interpreter {}) "a" ∧
      run (sparingInterpreter spared {}) "b" = .error .outOfFuel started :=
  ⟨rfl, rfl⟩

/-! ## What operations do to keys -/

/-- How evaluation writes, deletes and lists keys. -/
structure EvaluationOrdersKeys (host : Host) : Prop where
  /-- A place that stands for a key of an object can be written. -/
  set {context : Context} {place : Place} {ref : ObjectRef} {key : String} {store : Store} :
    place.key? context = some (ref, key) → store.HasObject ref → ∀ value,
    ∃ after, place.set context value store = .ok () after ∧ store.Wrote after ref key value
  /-- A place that stands for a key that an object has can be deleted. -/
  delete {context : Context} {place : Place} {ref : ObjectRef} {key : String} {store : Store} :
    place.key? context = some (ref, key) → store.HasObject ref →
    key ∈ (store.object ref).keys →
    ∃ after, place.delete context store = .ok () after ∧ store.Erased after ref key
  /-- An assignment, with an operator or without, writes its place. -/
  assignment {budget : Nat} {context : Context} {expr value : Expr} {target : Reference}
    {op : Option BinaryOp} {store after : Store} {assigned : Value} :
    expr.form = .assign target op value →
    (interpreter host (budget + 1)).evaluate context expr store = .ok assigned after →
    ∃ place resolved before,
      Place.resolve (interpreter host budget) context target store = .ok place resolved ∧
      Evaluate.assignedValue (interpreter host budget) context place target op value expr.span
        resolved = .ok assigned before ∧
      place.Written context assigned before after
  /-- A step up or down writes its place. -/
  update {budget : Nat} {context : Context} {expr : Expr} {target : Reference}
    {increment yieldsNew : Bool} {store after : Store} {value : Value} :
    expr.form = .update target increment yieldsNew →
    (interpreter host (budget + 1)).evaluate context expr store = .ok value after →
    ∃ place resolved old before,
      Place.resolve (interpreter host budget) context target store = .ok place resolved ∧
      Evaluate.numberAt context place resolved = .ok old before ∧
      place.Written context (.number (if increment then old + 1 else old - 1)) before after
  /-- A deletion deletes its place. -/
  deletion {budget : Nat} {context : Context} {node : Statement} {target : Reference}
    {store after : Store} {signal : Signal} :
    node.form = .delete target →
    (interpreter host (budget + 1)).execute context node store = .ok signal after →
    ∃ place before,
      Place.resolve (interpreter host budget) context target store = .ok place before ∧
      place.Deleted context before after
  /-- An object literal makes an object with its keys in the order in which they stand first. -/
  literal {budget : Nat} {context : Context} {expr : Expr} {members : List (String × Expr)}
    {store after : Store} {value : Value} :
    expr.form = .object members →
    (interpreter host (budget + 1)).evaluate context expr store = .ok value after →
    ∃ ref, value = .object ref ∧ (after.object ref).keys = (members.map Prod.fst).eraseDups
  /-- The sum of objects has the keys of the first that the second lacks, and then those of
  the second. -/
  sum {left right : ObjectRef} {store after : Store} {value : Value} :
    Operator.binary .add (.object left) (.object right) store = .ok value after →
    ∃ ref, value = .object ref ∧
      (after.object ref).keys =
        (store.object left).keys.filter (· ∉ (store.object right).keys) ++ (store.object right).keys
  /-- An object is iterated over by its keys, in their order. -/
  iteration {budget : Nat} {context : Context} {node body : Statement} {name : String}
    {iterable : Expr} {ref : ObjectRef} {store before : Store} :
    node.form = .foreach name iterable body →
    (interpreter host budget).evaluate context iterable store = .ok (.object ref) before →
    (interpreter host (budget + 1)).execute context node store =
      Evaluate.foreachValue (interpreter host budget) context name iterable.span body
        ((before.object ref).keys.map Value.string) before
  /-- The object of a native library has its constants and then its functions as keys. -/
  library {library : NativeLibrary} {ref : ObjectRef} {store after : Store} :
    Evaluate.populate library ref store = .ok () after → store.HasObject ref →
    (after.object ref).keys =
      (library.constants.map Prod.fst ++ library.functions.map Native.name).eraseDups

theorem evaluation_ordersKeys (host : Host) : EvaluationOrdersKeys host where
  set := Place.exists_set
  delete := Place.exists_delete
  assignment form ran := by
    change Evaluate.expression _ _ _ _ = _ at ran
    unfold Evaluate.expression at ran
    rw [form] at ran
    exact Evaluate.written_of_assign ran
  update form ran := by
    change Evaluate.expression _ _ _ _ = _ at ran
    unfold Evaluate.expression at ran
    rw [form] at ran
    exact Evaluate.written_of_update ran
  deletion form ran := Evaluate.deleted_of_statement form ran
  literal form ran := Evaluate.keys_of_object form ran
  sum := Operator.keys_of_add
  iteration form evaluated := Evaluate.statement_foreach form evaluated
  library := Evaluate.keys_of_populate

/-- How the functions of the library of objects write, delete and list keys. -/
structure NativesOrderKeys (site : CallSite) : Prop where
  keys (store : Store) (ref : ObjectRef) :
    ∃ result after,
      (Native.objects .keys).dispatch site [.object ref] store = .ok (.array result) after ∧
      after.array result = ((store.object ref).keys.map Value.string).toArray ∧
      after.objects = store.objects
  values (store : Store) (ref : ObjectRef) :
    ∃ result after,
      (Native.objects .values).dispatch site [.object ref] store = .ok (.array result) after ∧
      after.array result = (store.object ref).values.toArray ∧
      after.objects = store.objects
  entries (store : Store) (ref : ObjectRef) :
    ∃ result after,
      (Native.objects .entries).dispatch site [.object ref] store = .ok (.array result) after ∧
      List.Forall₂ (fun entry pair => ∃ ref, pair = .array ref ∧
          after.array ref = #[.string entry.1, entry.2])
        (store.object ref).entries (after.array result).toList ∧
      after.objects = store.objects
  merge {store : Store} {target : ObjectRef} (source : ObjectRef) :
    store.HasObject target →
    ∃ after, (Native.objects .merge).dispatch site [.object target, .object source] store =
        .ok (.object target) after ∧
      store.Merged after target source
  remove {store : Store} {ref : ObjectRef} {key : String} {value : Value} :
    store.HasObject ref → (store.object ref).get? key = some value →
    ∃ after, (Native.objects .remove).dispatch site [.object ref, .string key] store =
        .ok value after ∧
      store.Erased after ref key
  /-- Only a key that is there is removed. -/
  removed {store after : Store} {ref : ObjectRef} {key : String} {value : Value} :
    (Native.objects .remove).dispatch site [.object ref, .string key] store = .ok value after →
    (store.object ref).get? key = some value

/-- How documents list keys. -/
structure DocumentsOrderKeys : Prop where
  /-- A document is read into objects with the names of its members in their order. -/
  read {json : Json} (store : Store) :
    json.tree.DistinctKeys → (store.ofJson json).2.Unfolds (store.ofJson json).1 json.tree
  /-- Of a name that is repeated the first place counts. -/
  repeated (members : List (String × Json)) (store : Store) :
    ∃ ref, (store.ofJson (.object members)).1 = .object ref ∧
      ((store.ofJson (.object members)).2.object ref).keys = (members.map Prod.fst).eraseDups
  /-- An execution starts with the names of the members of its document as keys. -/
  started (members : List (String × Json)) (store : Store) :
    ∃ context after, Execution.start members store = .ok context after ∧
      (after.object context.root).keys = (members.map Prod.fst).eraseDups
  /-- A document is written with the keys of every object in their order. -/
  written {store : Store} {value : Value} {json : Json} :
    store.toJson value = .ok json → store.Lists value json

theorem natives_orderKeys (site : CallSite) : NativesOrderKeys site where
  keys _ := Native.dispatch_keys
  values _ := Native.dispatch_values
  entries _ := Native.dispatch_entries
  merge source present := ⟨_, rfl, Store.merged_insertAll present source⟩
  remove present found := Native.dispatch_remove found present
  removed := Native.found_of_remove

theorem documents_orderKeys : DocumentsOrderKeys where
  read store distinct := (Store.ofJson_unfolds _ store distinct).2 _ (.refl _)
  repeated := Store.keys_of_ofJson
  started := Execution.keys_of_start
  written := Store.lists_of_toJson

/-- In every store that an execution gets to, the keys of every object are distinct; every
operation keeps to the order in which they were inserted; and whatever is asked for, keys are
retained in their order that are not deleted. -/
theorem insertion_order_kept (host : Host) :
    (∀ requests ref, ((session (interpreter host) requests .empty).object ref).keys.Nodup) ∧
    EvaluationOrdersKeys host ∧
    (∀ site, NativesOrderKeys site) ∧
    DocumentsOrderKeys ∧
    ∀ spared budget request store,
      SparesFrom spared store
        (Request.perform (sparingInterpreter spared host budget) request store)
        (request.perform (interpreter host budget) store) :=
  ⟨fun _ _ => OrderedMap.distinct _, evaluation_ordersKeys host, natives_orderKeys,
    documents_orderKeys, fun spared budget request => request.spares_perform spared host budget⟩

end PatchScript
