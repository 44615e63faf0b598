import PatchScript.Proofs.Containers
import PatchScript.Proofs.Run.Location

/-!
# Corresponding runs

Two runs go side by side: what the one does with its store, its handles and its
functions, the other does with those that stand for them.  A `Correspondence` says what
stands for what, and everything else follows the structure of the data: values
correspond if they are the same plain value or corresponding handles, contexts if their
roots and their frames do, errors if they say the same about corresponding places.

A property of a single run is a correspondence of the run with itself.
-/

namespace PatchScript

/-- What of one run stands for what of another. -/
structure Correspondence where
  /-- The stretches of a run that are told apart, such as what happens inside of a call. -/
  Phase : Type
  /-- The stores between two steps of a phase. -/
  Stores : Phase → Store → Store → Prop
  /-- The objects that can be reached. -/
  Objects : ObjectRef → ObjectRef → Prop
  /-- The arrays that can be reached. -/
  Arrays : ArrayRef → ArrayRef → Prop
  /-- The functions that can be reached. -/
  Functions : FunctionRef → FunctionRef → Prop
  /-- The frames that can be seen. -/
  Frames : FrameRef → FrameRef → Prop
  /-- The frames that names can be declared in. -/
  Local : FrameRef → FrameRef → Prop
  /-- The function definitions that can be made into functions. -/
  Definitions : FunctionDef → FunctionDef → Prop
  /-- The places in a source. -/
  Spans : Span → Span → Prop
  /-- Whether the programs are well formed. -/
  checked : Prop
  /-- Whether a run may use up its budget. -/
  exhausts : Prop
  /-- The phases in which no key of an object may be erased.  If there are any, the first run
  may be stopped. -/
  Guarded : Phase → Prop := fun _ => False

namespace Correspondence

variable (relation : Correspondence)
variable {kind : ErrorKind} {error error' : EvalError} {span span' : Span}

/-- Corresponding values. -/
inductive Values : Value → Value → Prop where
  | null : Values .null .null
  | boolean (value : Bool) : Values (.boolean value) (.boolean value)
  | number (value : Float) : Values (.number value) (.number value)
  | string (value : String) : Values (.string value) (.string value)
  | array {ref ref' : ArrayRef} : relation.Arrays ref ref' → Values (.array ref) (.array ref')
  | object {ref ref' : ObjectRef} : relation.Objects ref ref' → Values (.object ref) (.object ref')
  | function {ref ref' : FunctionRef} :
    relation.Functions ref ref' → Values (.function ref) (.function ref')

/-- Corresponding contents of arrays. -/
def Items (items items' : Array Value) : Prop :=
  List.Forall₂ relation.Values items.toList items'.toList

/-- Corresponding contents of objects. -/
def Members (members members' : OrderedMap Value) : Prop :=
  members.Matches relation.Values members'

/-- Corresponding variables and constants of a frame. -/
structure Bindings (frame frame' : Frame) : Prop where
  mutables : relation.Members frame.mutables frame'.mutables
  constants : relation.Members frame.constants frame'.constants

/-- Corresponding places where code runs. -/
structure Contexts (context context' : Context) : Prop where
  root : relation.Objects context.root context'.root
  chain : List.Forall₂ relation.Frames context.scope.chain context'.scope.chain

/-- Corresponding places where statements run, so that names are declared there. -/
structure Blocks (context context' : Context) : Prop extends
    relation.Contexts context context' where
  inner : relation.Local context.scope.inner context'.scope.inner

/-- Corresponding functions. -/
inductive Callables : Callable → Callable → Prop where
  | script {definition definition' : FunctionDef} {captured captured' : Option Context} :
    relation.Definitions definition definition' →
    Option.Rel relation.Contexts captured captured' →
    Callables (.script definition captured) (.script definition' captured')
  | native (function : Native) : Callables (.native function) (.native function)
  | bound {receiver receiver' : Value} (function : Native) :
    relation.Values receiver receiver' →
    Callables (.bound receiver function) (.bound receiver' function)

/-! ## Errors -/

/-- Messages that differ at most in the place they name. -/
inductive Messages : String → String → Prop where
  | same (message : String) : Messages message message
  | placed (message : String) {span span' : Span} :
    relation.Spans span span' →
    Messages (message ++ " at " ++ span.text) (message ++ " at " ++ span'.text)

/-- What corresponding runs of a native function complain about. -/
inductive Complaints : ErrorKind → ErrorKind → Prop where
  | same (kind : ErrorKind) : Complaints kind kind
  | runtime {message message' : String} :
    relation.Messages message message' → Complaints (.runtime message) (.runtime message')

/-- Corresponding kinds of errors. -/
inductive Kinds : ErrorKind → ErrorKind → Prop where
  | same (kind : ErrorKind) : Kinds kind kind
  | reported (function : String) {message message' : String} :
    relation.Messages message message' →
    Kinds (.nativeError function message) (.nativeError function message')

/-- Corresponding layers of an error. -/
structure Layers (layer layer' : ErrorLayer) : Prop where
  kind : relation.Kinds layer.kind layer'.kind
  span : Option.Rel relation.Spans layer.span layer'.span

/-- Corresponding errors that have left an expression. -/
structure Errors (error error' : EvalError) : Prop where
  located : error.Located relation.checked
  layers : List.Forall₂ relation.Layers error.layers error'.layers

/-- The same error on both sides, which still has no place. -/
def BareErrors (error error' : EvalError) : Prop :=
  error.Bare relation.checked ∧ error' = error

/-- Corresponding errors of a native function: its own, or those of a function it called. -/
def NativeErrors (error error' : EvalError) : Prop :=
  (∃ kind kind', relation.Complaints kind kind' ∧
    error = EvalError.ofKind kind ∧ error' = EvalError.ofKind kind') ∨
  relation.Errors error error'

variable {relation}

theorem errors_ofKindAt (reportable : kind.Reportable relation.checked)
    (spans : relation.Spans span span') :
    relation.Errors (EvalError.ofKindAt kind span) (EvalError.ofKindAt kind span') where
  located := EvalError.located_ofKindAt reportable span
  layers := .cons ⟨.same kind, .some spans⟩ .nil

theorem Errors.wrap (errors : relation.Errors error error') (wraps : kind.isWrapper = true)
    (spans : relation.Spans span span') :
    relation.Errors (error.wrap kind span) (error'.wrap kind span') where
  located := errors.located.wrap wraps span
  layers := .cons ⟨.same kind, .some spans⟩ errors.layers

theorem BareErrors.orAt (errors : relation.BareErrors error error')
    (spans : relation.Spans span span') :
    relation.Errors (error.orAt span) (error'.orAt span') := by
  obtain ⟨⟨kind, reportable, rfl⟩, rfl⟩ := errors
  exact errors_ofKindAt reportable spans

/-- A native function reports its own errors where it was called, and wraps those of the
functions it was given. -/
theorem NativeErrors.report (errors : relation.NativeErrors error error') (function : Native)
    (spans : relation.Spans span span') :
    relation.Errors (function.reportError span error) (function.reportError span' error') := by
  obtain ⟨kind, kind', complaints, rfl, rfl⟩ | errors := errors
  · refine ⟨function.located_reportError span (.inl ⟨kind, rfl⟩), ?_⟩
    cases complaints with
    | same kind => cases kind <;> exact .cons ⟨.same _, .some spans⟩ .nil
    | runtime messages => exact .cons ⟨.reported _ messages, .some spans⟩ .nil
  · refine ⟨function.located_reportError span (.inr errors.located), ?_⟩
    have wrapped (error : EvalError) (place : Span) (placed : error.outer.span.isSome) :
        function.reportError place error =
          error.wrap (.inCall ("'" ++ function.qualifiedName ++ "'")) place := by
      obtain ⟨⟨kind, span⟩, causes⟩ := error
      cases span with
      | none => cases placed
      | some span => cases kind <;> rfl
    have placed : error.outer.span.isSome := errors.located.placed _ (List.mem_cons_self ..)
    have outer : relation.Layers error.outer error'.outer := (List.forall₂_cons.mp errors.layers).1
    have placed' : error'.outer.span.isSome := by
      have spans := outer.span
      generalize error.outer.span = place, error'.outer.span = place' at placed spans
      cases spans with
      | none => exact placed
      | some _ => rfl
    rw [wrapped error span placed, wrapped error' span' placed']
    exact .cons ⟨.same _, .some spans⟩ errors.layers

/-! ## Places that stand for themselves -/

section Places

variable (places : ∀ span span', relation.Spans span span' → span = span')

include places

theorem Kinds.eq {kind' : ErrorKind} (kinds : relation.Kinds kind kind') : kind = kind' := by
  cases kinds with
  | same => rfl
  | reported function messages =>
    cases messages with
    | same => rfl
    | placed message spans => rw [places _ _ spans]

theorem Layers.eq {layer layer' : ErrorLayer} (layers : relation.Layers layer layer') :
    layer = layer' := by
  obtain ⟨kind, span⟩ := layer
  obtain ⟨kind', span'⟩ := layer'
  obtain ⟨kinds, spans⟩ := layers
  cases kinds.eq places
  cases spans with
  | none => rfl
  | some same =>
    cases places _ _ same
    rfl

/-- Where places stand for themselves, corresponding errors are the same. -/
theorem Errors.eq (errors : relation.Errors error error') : error = error' := by
  obtain ⟨outer, causes⟩ := error
  obtain ⟨outer', causes'⟩ := error'
  obtain ⟨first, rest⟩ := List.forall₂_cons.mp errors.layers
  have sameOuter : outer = outer' := first.eq places
  have sameCauses : causes = causes' :=
    List.forall₂_eq_eq_eq ▸ List.Forall₂.imp (fun _ _ layers => Layers.eq places layers) rest
  rw [sameOuter, sameCauses]

end Places

/-! ## Other stores -/

/-- Correspondences that say the same of handles and of definitions. -/
structure SameHandles (relation other : Correspondence) : Prop where
  objects : relation.Objects = other.Objects
  arrays : relation.Arrays = other.Arrays
  functions : relation.Functions = other.Functions
  frames : relation.Frames = other.Frames
  definitions : relation.Definitions = other.Definitions

namespace SameHandles

variable {other : Correspondence}

variable (same : SameHandles relation other)
include same

theorem symm : SameHandles other relation :=
  ⟨same.objects.symm, same.arrays.symm, same.functions.symm, same.frames.symm,
    same.definitions.symm⟩

theorem values {value value' : Value} (values : relation.Values value value') :
    other.Values value value' := by
  cases values with
  | null => exact .null
  | boolean value => exact .boolean value
  | number value => exact .number value
  | string value => exact .string value
  | array arrays => exact .array (same.arrays ▸ arrays)
  | object objects => exact .object (same.objects ▸ objects)
  | function functions => exact .function (same.functions ▸ functions)

theorem values_eq : relation.Values = other.Values :=
  funext₂ fun _ _ => propext ⟨same.values, same.symm.values⟩

theorem items_eq : relation.Items = other.Items := by
  funext items items'
  rw [Items, Items, same.values_eq]

theorem members_eq : relation.Members = other.Members := by
  funext members members'
  rw [Members, Members, same.values_eq]

theorem bindings_eq : relation.Bindings = other.Bindings := by
  have related {first second : Correspondence} (same : SameHandles first second)
      {frame frame' : Frame} (bindings : first.Bindings frame frame') :
      second.Bindings frame frame' :=
    ⟨same.members_eq ▸ bindings.mutables, same.members_eq ▸ bindings.constants⟩
  exact funext₂ fun _ _ => propext ⟨related same, related same.symm⟩

theorem contexts {context context' : Context} (contexts : relation.Contexts context context') :
    other.Contexts context context' :=
  ⟨same.objects ▸ contexts.root, same.frames ▸ contexts.chain⟩

theorem contexts_eq : relation.Contexts = other.Contexts :=
  funext₂ fun _ _ => propext ⟨same.contexts, same.symm.contexts⟩

theorem callables_eq : relation.Callables = other.Callables := by
  have related {first second : Correspondence} (same : SameHandles first second)
      {callable callable' : Callable} (callables : first.Callables callable callable') :
      second.Callables callable callable' := by
    cases callables with
    | script definitions contexts =>
      exact .script (same.definitions ▸ definitions) (same.contexts_eq ▸ contexts)
    | native function => exact .native function
    | bound function receivers => exact .bound function (same.values receivers)
  exact funext₂ fun _ _ => propext ⟨related same, related same.symm⟩

end SameHandles

/-- The same correspondence between stores of another kind. -/
def between (relation : Correspondence) (Stores : Store → Store → Prop) : Correspondence :=
  { relation with Phase := Unit, Stores := fun _ => Stores, Guarded := fun _ => False }

section Between

variable {Stores : Store → Store → Prop}

theorem sameHandles_between : SameHandles (relation.between Stores) relation :=
  ⟨rfl, rfl, rfl, rfl, rfl⟩

theorem between_values : (relation.between Stores).Values = relation.Values :=
  sameHandles_between.values_eq

theorem between_items : (relation.between Stores).Items = relation.Items :=
  sameHandles_between.items_eq

theorem between_members : (relation.between Stores).Members = relation.Members :=
  sameHandles_between.members_eq

theorem between_callables : (relation.between Stores).Callables = relation.Callables :=
  sameHandles_between.callables_eq

end Between

end Correspondence
end PatchScript
