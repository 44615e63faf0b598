import PatchScript.Evaluate.Call
import PatchScript.Proofs.Frames

/-!
# Nearest bindings

Scopes share their frames: they are the paths to the root of a tree of frames.  A name stands
for its binding in the nearest frame that has one, and an operation through a scope changes at
most that one entry of that one frame, for all scopes whose chain contains the frame.
-/

namespace PatchScript

variable {ref : FrameRef} {outer : List FrameRef} {scope : Scope}

/-! ## Changes of one entry -/

/-- The name whose entry a change is made to. -/
def FrameChange.name : FrameChange → String
  | .bind _ name _ _ => name
  | .drop _ name => name

/-- The bindings of one name in one frame. -/
structure FrameEntry where
  asVariable : Option Value
  asConstant : Option Value

/-- The entry that a declaration makes. -/
def FrameEntry.declared (value : Value) (isMutable : Bool) : FrameEntry :=
  if isMutable then { asVariable := some value, asConstant := none }
  else { asVariable := none, asConstant := some value }

/-- What a frame holds for a name. -/
def Frame.entry (frame : Frame) (name : String) : FrameEntry :=
  { asVariable := frame.mutables.get? name, asConstant := frame.constants.get? name }

namespace Frame

variable (frame : Frame)

theorem get?_eq_entry (name : String) :
    frame.get? name = (frame.entry name).asVariable.or (frame.entry name).asConstant :=
  rfl

theorem isSome_get? (name : String) :
    (frame.get? name).isSome = (frame.mutables.contains name || frame.constants.contains name) :=
  Option.isSome_or

theorem entry_bind (name other : String) (value : Value) (isMutable : Bool) :
    (frame.bind name value isMutable).entry other =
      if other = name then
        if isMutable then { frame.entry name with asVariable := some value }
        else { frame.entry name with asConstant := some value }
      else frame.entry other := by
  cases isMutable <;>
    by_cases same : other = name <;>
    simp [bind, entry, OrderedMap.get?_insert, same]

theorem entry_dropVariable (name other : String) :
    (frame.dropVariable name).entry other =
      if other = name then { frame.entry name with asVariable := none }
      else frame.entry other := by
  by_cases same : other = name <;> simp [dropVariable, entry, OrderedMap.get?_erase, same]

end Frame

namespace Frames

variable {chain : List FrameRef} {scopes : List Scope}

/-- Two tables of frames agree in all but the entry of one name in one frame. -/
structure DifferOnlyAt (before : Frames) (ref : FrameRef) (name : String)
    (after : Frames) : Prop where
  size : after.table.size = before.table.size
  frame {other : FrameRef} : other ≠ ref → after.get other = before.get other
  entry {other : String} : other ≠ name → (after.get ref).entry other = (before.get ref).entry other

theorem differOnlyAt_commit (frames : Frames) (change : FrameChange)
    (present : change.ref.index < frames.table.size) :
    frames.DifferOnlyAt change.ref change.name (frames.commit change) where
  size := frames.size_commit change
  frame := frames.get_commit_of_ne
  entry := by
    intro other differs
    rw [get_commit_self frames change present]
    cases change with
    | bind ref name value isMutable => exact (Frame.entry_bind ..).trans (if_neg differs)
    | drop ref name => exact (Frame.entry_dropVariable ..).trans (if_neg differs)

/-! ## The nearest frame that binds a name -/

/-- The value of a name in a chain of frames. -/
def lookup (frames : Frames) (name : String) (chain : List FrameRef) : Option Value :=
  chain.findSome? fun ref => (frames.get ref).get? name

theorem get?_eq_lookup (frames : Frames) (scope : Scope) (name : String) :
    frames.get? scope name = frames.lookup name scope.chain :=
  rfl

/-- A frame of a chain binds a name, and no frame inside it does. -/
inductive Nearest (frames : Frames)
    (name : String) : List FrameRef → FrameRef → List FrameRef → Prop where
  | here {ref : FrameRef} {outer : List FrameRef} :
    ((frames.get ref).get? name).isSome = true → Nearest frames name (ref :: outer) ref outer
  | outside {inner ref : FrameRef} {chain outer : List FrameRef} :
    (frames.get inner).get? name = none → Nearest frames name chain ref outer →
      Nearest frames name (inner :: chain) ref outer

/-- Some frame of a scope binds a name. -/
def Visible (frames : Frames) (scope : Scope) (name : String) : Prop :=
  ∃ ref outer, frames.Nearest name scope.chain ref outer

section Lookup

variable {frames : Frames} {name : String}

theorem lookup_cons (ref : FrameRef) (outer : List FrameRef) :
    frames.lookup name (ref :: outer) =
      ((frames.get ref).get? name).or (frames.lookup name outer) := by
  rw [lookup, List.findSome?_cons]
  cases (frames.get ref).get? name <;> rfl

section

variable (nearest : frames.Nearest name chain ref outer)
include nearest

theorem Nearest.binds : ((frames.get ref).get? name).isSome = true := by
  induction nearest with
  | here bound => exact bound
  | outside _ _ ih => exact ih

theorem Nearest.lookup : frames.lookup name chain = (frames.get ref).get? name := by
  induction nearest with
  | here bound =>
    obtain ⟨value, found⟩ := Option.isSome_iff_exists.mp bound
    rw [lookup_cons, found]
    rfl
  | outside unbound _ ih =>
    rw [lookup_cons, unbound, ih]
    rfl

theorem Nearest.suffix : ref :: outer <:+ chain := by
  induction nearest with
  | here => exact List.suffix_rfl
  | outside _ _ ih => exact ih.trans (List.suffix_cons _ _)

end

/-- A frame that does not exist binds nothing. -/
theorem lt_size_of_binds (bound : ((frames.get ref).get? name).isSome = true) :
    ref.index < frames.table.size := by
  apply Nat.lt_of_not_le
  intro beyond
  have missing : frames.get ref = Frame.empty := by
    rw [get, Array.getD_eq_getD_getElem?, Array.getElem?_eq_none beyond]
    rfl
  rw [missing] at bound
  cases bound

theorem lookup_eq_none_or_nearest (frames : Frames) (name : String) (chain : List FrameRef) :
    frames.lookup name chain = none ∨ ∃ ref outer, frames.Nearest name chain ref outer := by
  induction chain with
  | nil => exact .inl rfl
  | cons first chain ih =>
    rw [lookup_cons]
    cases found : (frames.get first).get? name with
    | some value => exact .inr ⟨first, chain, .here (by rw [found]; rfl)⟩
    | none =>
      obtain missing | ⟨ref, outer, nearest⟩ := ih
      · exact .inl missing
      · exact .inr ⟨ref, outer, .outside found nearest⟩

theorem visible_iff {scope : Scope} :
    frames.Visible scope name ↔ (frames.get? scope name).isSome = true := by
  rw [get?_eq_lookup]
  constructor
  · rintro ⟨ref, outer, nearest⟩
    rw [nearest.lookup]
    exact nearest.binds
  · intro found
    obtain missing | nearest := lookup_eq_none_or_nearest frames name scope.chain
    · rw [missing] at found
      cases found
    · exact nearest

/-- A name is visible exactly where it has a value. -/
theorem contains_eq_isSome_get? (frames : Frames) (scope : Scope) (name : String) :
    frames.contains scope name = (frames.get? scope name).isSome := by
  rw [contains, get?_eq_lookup]
  induction scope.chain with
  | nil => rfl
  | cons ref outer ih => rw [List.any_cons, ih, lookup_cons, Option.isSome_or]

theorem variableFrame_cons_of_unbound (unbound : (frames.get ref).get? name = none) :
    frames.variableFrame name (ref :: outer) = frames.variableFrame name outer := by
  rw [← Option.not_isSome_iff_eq_none, Frame.isSome_get?, Bool.or_eq_true, not_or] at unbound
  rw [variableFrame, if_neg unbound.1, if_neg unbound.2]

theorem Nearest.variableFrame (nearest : frames.Nearest name chain ref outer) :
    frames.variableFrame name chain =
      if (frames.get ref).mutables.contains name then .ok ref
      else .error (.immutableAssignment name) := by
  induction nearest with
  | @here ref outer bound =>
    rw [Frame.isSome_get?, Bool.or_eq_true] at bound
    rw [Frames.variableFrame]
    by_cases isVariable : (frames.get ref).mutables.contains name = true
    · rw [if_pos isVariable, if_pos isVariable]
    · rw [if_neg isVariable, if_neg isVariable, if_pos (bound.resolve_left isVariable)]
  | outside unbound _ ih => rw [variableFrame_cons_of_unbound unbound, ih]

theorem variableFrame_of_lookup (missing : frames.lookup name chain = none) :
    frames.variableFrame name chain = .error (.undefinedVariable name) := by
  induction chain with
  | nil => rfl
  | cons ref outer ih =>
    rw [lookup_cons, Option.or_eq_none_iff] at missing
    rw [variableFrame_cons_of_unbound missing.1, ih missing.2]

end Lookup

/-! ## What scopes see of a change -/

section Seen

variable {before after : Frames} {name : String}

section

variable (differ : before.DifferOnlyAt ref name after)
include differ

theorem DifferOnlyAt.lookup_of_not_mem (absent : ref ∉ chain) (other : String) :
    after.lookup other chain = before.lookup other chain := by
  induction chain with
  | nil => rfl
  | cons first chain ih =>
    obtain ⟨here, later⟩ := not_or.mp (mt List.mem_cons.mpr absent)
    rw [lookup_cons, lookup_cons, differ.frame (Ne.symm here), ih later]

/-- Behind a changed entry stands what was around its frame. -/
theorem DifferOnlyAt.lookup_of_nearest (nearest : before.Nearest name chain ref outer)
    (once : ref ∉ outer) :
    after.lookup name chain = ((after.get ref).get? name).or (before.lookup name outer) := by
  induction nearest with
  | here => rw [lookup_cons, differ.lookup_of_not_mem once]
  | @outside inner ref chain outer unbound nearest ih =>
    have apart : inner ≠ ref := by
      rintro rfl
      rw [← Option.not_isSome_iff_eq_none] at unbound
      exact unbound nearest.binds
    rw [lookup_cons, differ.frame apart, unbound, ih differ once]
    rfl

/-- A scope that has a nearer binding does not see the change of an entry. -/
theorem DifferOnlyAt.lookup_of_not_nearest (bound : ((before.get ref).get? name).isSome = true)
    (hidden : ∀ outer, ¬ before.Nearest name chain ref outer) :
    after.lookup name chain = before.lookup name chain := by
  induction chain with
  | nil => rfl
  | cons first chain ih =>
    have apart : first ≠ ref := by
      rintro rfl
      exact hidden chain (.here bound)
    rw [lookup_cons, lookup_cons, differ.frame apart]
    cases unbound : (before.get first).get? name with
    | some value => rfl
    | none => rw [ih fun outer nearest => hidden outer (.outside unbound nearest)]

end

/-- After a change of an entry, the scopes whose nearest binding it was see one and the same
value, and the other scopes see what they saw. -/
structure SeenAs (scopes : List Scope) (before : Frames) (ref : FrameRef) (name : String)
    (after : Frames) (seen : Option Value) : Prop where
  nearest {scope : Scope} {outer : List FrameRef} :
    scope ∈ scopes → before.Nearest name scope.chain ref outer → after.get? scope name = seen
  other {scope : Scope} :
    scope ∈ scopes → (∀ outer, ¬ before.Nearest name scope.chain ref outer) →
      after.get? scope name = before.get? scope name

/-- Scopes are paths in a tree: what is around a frame does not depend on the scope. -/
def InTree (scopes : List Scope) : Prop :=
  ∀ first ∈ scopes, ∀ second ∈ scopes, ∀ ref outer outer',
    ref :: outer <:+ first.chain → ref :: outer' <:+ second.chain → outer = outer'

theorem InTree.not_mem (tree : InTree scopes) (held : scope ∈ scopes)
    (around : ref :: outer <:+ scope.chain) : ref ∉ outer := by
  intro again
  -- A frame that came twice would have two different lists of frames around it.
  obtain ⟨inside, beyond, split⟩ := List.append_of_mem again
  have suffix : ref :: beyond <:+ scope.chain := by
    refine List.IsSuffix.trans ⟨ref :: inside, ?_⟩ around
    rw [split, List.cons_append]
  have same : outer = beyond := tree scope held scope held ref outer beyond around suffix
  have longer := congrArg List.length split
  rw [same, List.length_append, List.length_cons] at longer
  omega

theorem DifferOnlyAt.seenAs (differ : before.DifferOnlyAt ref name after) (tree : InTree scopes)
    (held : scope ∈ scopes) (nearest : before.Nearest name scope.chain ref outer) :
    SeenAs scopes before ref name after
      (((after.get ref).get? name).or (before.lookup name outer)) where
  nearest := by
    intro other outer' heldToo nearestToo
    have same : outer = outer' :=
      tree scope held other heldToo ref outer outer' nearest.suffix nearestToo.suffix
    rw [same]
    exact differ.lookup_of_nearest nearestToo (tree.not_mem heldToo nearestToo.suffix)
  other _ hidden := differ.lookup_of_not_nearest nearest.binds hidden

end Seen

/-! ## What each operation comes to -/

section Outcomes

variable (frames : Frames) (scope : Scope) (name : String)

/-- What declaring a name through a scope comes to: it fails if the name is visible, and else
makes the one entry that the frame of the scope then has for the name. -/
inductive Declared (value : Value) (isMutable : Bool) : Except ErrorKind Frames → Prop where
  | duplicate :
    frames.Visible scope name → Declared value isMutable (.error (.duplicateVariable name))
  | declared {after : Frames} :
    ¬ frames.Visible scope name → frames.DifferOnlyAt scope.inner name after →
      (after.get scope.inner).entry name = FrameEntry.declared value isMutable →
        Declared value isMutable (.ok after)

/-- What a change of the nearest binding of a name comes to.  It fails if there is none, or if
the nearest frame that has one has no variable of that name.  Else it changes that variable, and
the scopes for which it was the nearest binding see the value it has now, or else what it was
hiding: a constant of the same frame, or else what the frames around it bind. -/
inductive Changed (scopes : List Scope)
    (asVariable : Option Value) : Except ErrorKind Frames → Prop where
  | undefined :
    ¬ frames.Visible scope name → Changed scopes asVariable (.error (.undefinedVariable name))
  | immutable {ref : FrameRef} {outer : List FrameRef} :
    frames.Nearest name scope.chain ref outer → (frames.get ref).mutables.get? name = none →
      Changed scopes asVariable (.error (.immutableAssignment name))
  | changed {ref : FrameRef} {outer : List FrameRef} {after : Frames} :
    frames.Nearest name scope.chain ref outer →
      ((frames.get ref).mutables.get? name).isSome = true →
      frames.DifferOnlyAt ref name after →
      (after.get ref).entry name = { (frames.get ref).entry name with asVariable := asVariable } →
      SeenAs scopes frames ref name after
        (asVariable.or (((frames.get ref).constants.get? name).or (frames.lookup name outer))) →
      Changed scopes asVariable (.ok after)

end Outcomes

section Operations

variable {frames : Frames} {name : String}

theorem commit_bind_entry (present : ref.index < frames.table.size) (value : Value)
    (isMutable : Bool) :
    ((frames.commit (.bind ref name value isMutable)).get ref).entry name =
      if isMutable then { (frames.get ref).entry name with asVariable := some value }
      else { (frames.get ref).entry name with asConstant := some value } := by
  have made := get_commit_self frames (.bind ref name value isMutable) present
  exact (congrArg (Frame.entry · name) made).trans ((Frame.entry_bind ..).trans (if_pos rfl))

theorem declared_declare (present : scope.inner.index < frames.table.size) (value : Value)
    (isMutable : Bool) :
    frames.Declared scope name value isMutable (frames.declare scope name value isMutable) := by
  rw [declare, planDeclare]
  by_cases visible : frames.contains scope name = true
  · rw [if_pos visible]
    rw [contains_eq_isSome_get?] at visible
    exact .duplicate (visible_iff.mpr visible)
  · rw [if_neg visible]
    rw [contains_eq_isSome_get?] at visible
    refine .declared (mt visible_iff.mp visible)
      (differOnlyAt_commit frames (.bind scope.inner name value isMutable) present) ?_
    -- The frame of the scope is part of its chain, so it had no entry of the name.
    have unbound : (frames.get scope.inner).get? name = none := by
      rw [Option.not_isSome_iff_eq_none, get?_eq_lookup, Scope.chain, lookup_cons,
        Option.or_eq_none_iff] at visible
      exact visible.1
    obtain ⟨noVariable, noConstant⟩ := Option.or_eq_none_iff.mp unbound
    have vacant : (frames.get scope.inner).entry name =
        { asVariable := none, asConstant := none } := by
      rw [Frame.entry, noVariable, noConstant]
    rw [commit_bind_entry present, vacant, FrameEntry.declared]

/-- A change of the variable that the nearest frame has for a name. -/
theorem changed_variableFrame (tree : InTree scopes) (held : scope ∈ scopes)
    {change : FrameRef → FrameChange} {asVariable : Option Value}
    (atFrame : ∀ ref, (change ref).ref = ref ∧ (change ref).name = name)
    (entry : ∀ ref frame, ((change ref).apply frame).entry name =
      { frame.entry name with asVariable := asVariable }) :
    frames.Changed scope name scopes asVariable
      ((do return change (← frames.variableFrame name scope.chain)).map frames.commit) := by
  obtain missing | ⟨ref, outer, nearest⟩ := lookup_eq_none_or_nearest frames name scope.chain
  · rw [variableFrame_of_lookup missing]
    refine .undefined (mt visible_iff.mp ?_)
    rw [get?_eq_lookup, missing]
    exact Bool.false_ne_true
  · rw [nearest.variableFrame]
    split
    · next isVariable =>
      have present : (change ref).ref.index < frames.table.size := by
        rw [(atFrame ref).1]
        exact lt_size_of_binds nearest.binds
      have differ := differOnlyAt_commit frames (change ref) present
      have made := get_commit_self frames (change ref) present
      rw [(atFrame ref).1] at differ made
      rw [(atFrame ref).2] at differ
      have changed : ((frames.commit (change ref)).get ref).entry name =
          { (frames.get ref).entry name with asVariable := asVariable } := by
        rw [made, entry]
      have seen := differ.seenAs tree held nearest
      rw [Frame.get?_eq_entry, changed, Option.or_assoc] at seen
      exact .changed nearest isVariable differ changed seen
    · next noVariable =>
      exact .immutable nearest (Option.not_isSome_iff_eq_none.mp noVariable)

theorem changed_assign (tree : InTree scopes) (held : scope ∈ scopes) (value : Value) :
    frames.Changed scope name scopes (some value) (frames.assign scope name value) :=
  changed_variableFrame tree held (fun _ => ⟨rfl, rfl⟩) fun _ _ =>
    (Frame.entry_bind ..).trans (if_pos rfl)

theorem remove_map_snd (frames : Frames) (scope : Scope) (name : String) :
    (frames.remove scope name).map Prod.snd = (frames.planRemove scope name).map frames.commit := by
  rw [remove, planRemove]
  cases frames.variableFrame name scope.chain <;> rfl

theorem changed_remove (tree : InTree scopes) (held : scope ∈ scopes) :
    frames.Changed scope name scopes none ((frames.remove scope name).map Prod.snd) := by
  rw [remove_map_snd]
  exact changed_variableFrame tree held (fun _ => ⟨rfl, rfl⟩) fun _ _ =>
    (Frame.entry_dropVariable ..).trans (if_pos rfl)

/-- What is removed is what the name stood for. -/
theorem get?_of_remove {value : Value} {after : Frames}
    (removed : frames.remove scope name = .ok (value, after)) :
    frames.get? scope name = some value := by
  rw [get?_eq_lookup]
  rw [remove] at removed
  obtain missing | ⟨ref, outer, nearest⟩ := lookup_eq_none_or_nearest frames name scope.chain
  · rw [variableFrame_of_lookup missing] at removed
    cases removed
  · rw [nearest.variableFrame] at removed
    split at removed
    · next isVariable =>
      obtain ⟨old, found⟩ := Option.isSome_iff_exists.mp isVariable
      cases removed
      rw [nearest.lookup, Frame.get?, found]
      rfl
    · cases removed

end Operations

end Frames

/-- A computation makes a change of the frames and no other change of the store, or fails and
leaves the store as it was. -/
def Run.ChangesFrames (computation : Run Unit) (change : Frames → Except ErrorKind Frames) : Prop :=
  ∀ store, computation store =
    match change store.frames with
    | .ok frames => .ok () { store with frames := frames }
    | .error kind => .error (.error (EvalError.ofKind kind)) store

theorem Run.changesFrames_of_plan {plan : Frames → Except ErrorKind FrameChange}
    {change : Frames → Except ErrorKind Frames}
    (planned : ∀ frames, change frames = (plan frames).map frames.commit) :
    (Run.changeFrames plan).ChangesFrames change := by
  intro store
  rw [Run.changeFrames_apply, planned]
  cases plan store.frames <;> rfl

/-! ## Sequences of operations -/

/-- An operation through a scope. -/
inductive ScopeOperation where
  | child
  | declare (name : String) (value : Value) (isMutable : Bool)
  | bindParameter (name : String) (value : Value)
  | assign (name : String) (value : Value)
  | remove (name : String)
  | get (name : String)

/-- What is done with the scopes of an execution: one without variables is made, or an
operation is performed through one that was made. -/
inductive ScopeStep where
  | fresh
  | through (handle : Nat) (operation : ScopeOperation)

/-- The scope that a new frame has inside the frames given. -/
def Frames.nextScope (frames : Frames) (around : List FrameRef) : Scope :=
  { inner := frames.nextRef, outer := around }

/-- Frames and the scopes made over them, oldest first. -/
structure SharedScopes where
  frames : Frames
  scopes : List Scope

namespace SharedScopes

/-- No scope is made yet. -/
def empty : SharedScopes :=
  { frames := Frames.empty, scopes := [] }

/-- Make a scope with a new frame inside the frames given. -/
def grow (state : SharedScopes) (around : List FrameRef) : SharedScopes :=
  { frames := state.frames.push, scopes := state.scopes ++ [state.frames.nextScope around] }

/-- Take over the frames that an operation made, unless it failed. -/
def settle (state : SharedScopes) : Except ErrorKind Frames → SharedScopes
  | .ok frames => { state with frames := frames }
  | .error _ => state

/-- Perform an operation through a scope. -/
def perform (state : SharedScopes) (scope : Scope) : ScopeOperation → SharedScopes
  | .child => state.grow scope.chain
  | .declare name value isMutable => state.settle (state.frames.declare scope name value isMutable)
  | .bindParameter name value =>
    { state with frames := state.frames.bindParameter scope name value }
  | .assign name value => state.settle (state.frames.assign scope name value)
  | .remove name => state.settle ((state.frames.remove scope name).map Prod.snd)
  | .get _ => state

/-- Do one step. -/
def step (state : SharedScopes) : ScopeStep → SharedScopes
  | .fresh => state.grow []
  | .through handle operation =>
    match state.scopes[handle]? with
    | some scope => state.perform scope operation
    | none => state

/-- Do a list of steps. -/
def after (steps : List ScopeStep) : SharedScopes :=
  steps.foldl step empty

/-- The scopes are paths in a tree of frames that exist. -/
structure WellFormed (state : SharedScopes) : Prop where
  present {scope : Scope} {ref : FrameRef} :
    scope ∈ state.scopes → ref ∈ scope.chain → ref.index < state.frames.table.size
  tree : Frames.InTree state.scopes

theorem wellFormed_empty : empty.WellFormed where
  present held := nomatch held
  tree _ held := nomatch held

variable {state : SharedScopes}

/-- The frames inside a frame of the grown tree are those of the tree before, or the frame is
the new one. -/
theorem suffix_grow {around : List FrameRef}
    (path : around = [] ∨ ∃ scope ∈ state.scopes, around = scope.chain)
    (held : scope ∈ (state.grow around).scopes) (suffix : ref :: outer <:+ scope.chain) :
    (ref = state.frames.nextRef ∧ outer = around) ∨
      ∃ old ∈ state.scopes, ref :: outer <:+ old.chain := by
  obtain old | isNew := List.mem_append.mp held
  · exact .inr ⟨scope, old, suffix⟩
  · rw [List.mem_singleton.mp isNew] at suffix
    obtain whole | inside := List.suffix_cons_iff.mp suffix
    · obtain ⟨rfl, rfl⟩ := List.cons.inj whole
      exact .inl ⟨rfl, rfl⟩
    · obtain rfl | ⟨old, heldOld, rfl⟩ := path
      · cases List.suffix_nil.mp inside
      · exact .inr ⟨old, heldOld, inside⟩

section

variable (wellFormed : state.WellFormed)
include wellFormed

theorem WellFormed.grow {around : List FrameRef}
    (path : around = [] ∨ ∃ scope ∈ state.scopes, around = scope.chain) :
    (state.grow around).WellFormed := by
  have present {scope : Scope} {ref : FrameRef} {outer : List FrameRef}
      (held : scope ∈ state.scopes) (suffix : ref :: outer <:+ scope.chain) :
      ref.index < state.frames.table.size :=
    wellFormed.present held (suffix.subset List.mem_cons_self)
  constructor
  · intro scope ref held member
    obtain ⟨inside, outer, split⟩ := List.append_of_mem member
    change ref.index < (state.frames.table.push Frame.empty).size
    rw [Array.size_push]
    obtain ⟨rfl, _⟩ | ⟨old, heldOld, suffix⟩ := suffix_grow path held ⟨inside, split.symm⟩
    · exact Nat.lt_succ_self _
    · exact Nat.lt_succ_of_lt (present heldOld suffix)
  · intro first heldFirst second heldSecond ref outer outer' suffix suffix'
    obtain ⟨isNew, rfl⟩ | ⟨old, heldOld, inOld⟩ := suffix_grow path heldFirst suffix <;>
      obtain ⟨isNew', rfl⟩ | ⟨old', heldOld', inOld'⟩ := suffix_grow path heldSecond suffix'
    · rfl
    -- The frames of scopes that exist are older than the new one.
    · have before := present heldOld' inOld'
      rw [isNew] at before
      exact absurd before (Nat.lt_irrefl _)
    · have before := present heldOld inOld
      rw [isNew'] at before
      exact absurd before (Nat.lt_irrefl _)
    · exact wellFormed.tree old heldOld old' heldOld' ref outer outer' inOld inOld'

theorem WellFormed.withFrames {frames : Frames}
    (size : frames.table.size = state.frames.table.size) :
    { state with frames := frames : SharedScopes }.WellFormed where
  present held member := size ▸ wellFormed.present held member
  tree := wellFormed.tree

/-- An operation that changes frames by a plan keeps their number. -/
theorem WellFormed.settle (plan : Except ErrorKind FrameChange) :
    (state.settle (plan.map state.frames.commit)).WellFormed := by
  cases plan with
  | error => exact wellFormed
  | ok change => exact wellFormed.withFrames (state.frames.size_commit change)

theorem WellFormed.step (step : ScopeStep) : (state.step step).WellFormed := by
  cases step with
  | fresh => exact wellFormed.grow (.inl rfl)
  | through handle operation =>
    rw [SharedScopes.step]
    split
    · next scope found =>
      cases operation with
      | child => exact wellFormed.grow (.inr ⟨scope, List.mem_of_getElem? found, rfl⟩)
      | declare | assign => exact wellFormed.settle _
      | bindParameter => exact wellFormed.withFrames (state.frames.size_commit _)
      | remove name =>
        rw [perform, Frames.remove_map_snd]
        exact wellFormed.settle _
      | get => exact wellFormed
    · exact wellFormed

end

theorem wellFormed_after (steps : List ScopeStep) : (after steps).WellFormed := by
  suffices run : ∀ state : SharedScopes, state.WellFormed →
      (steps.foldl SharedScopes.step state).WellFormed from run empty wellFormed_empty
  induction steps with
  | nil => exact fun _ => id
  | cons first steps ih => exact fun state wellFormed => ih _ (wellFormed.step first)

/-- What the operations through a scope come to. -/
structure NearestBinding (state : SharedScopes) (scope : Scope) : Prop where
  contains (name : String) :
    state.frames.contains scope name = (state.frames.get? scope name).isSome
  missing (name : String) : state.frames.get? scope name = none ↔ ¬ state.frames.Visible scope name
  nearest {name : String} {ref : FrameRef} {outer : List FrameRef} :
    state.frames.Nearest name scope.chain ref outer →
      state.frames.get? scope name = (state.frames.get ref).get? name
  /-- A child sees what its parent sees. -/
  child (name : String) :
    (state.grow scope.chain).frames.get? (state.frames.nextScope scope.chain) name =
      state.frames.get? scope name
  /-- A new frame changes nothing for the scopes that exist. -/
  unchanged (around : List FrameRef) (name : String) :
    (state.grow around).frames.get? scope name = state.frames.get? scope name
  declare (name : String) (value : Value) (isMutable : Bool) :
    state.frames.Declared scope name value isMutable
      (state.frames.declare scope name value isMutable)
  bindParameter (name : String) (value : Value) :
    let bound := state.frames.bindParameter scope name value
    state.frames.DifferOnlyAt scope.inner name bound ∧
      (bound.get scope.inner).entry name =
        { (state.frames.get scope.inner).entry name with asVariable := some value }
  assign (name : String) (value : Value) :
    state.frames.Changed scope name state.scopes (some value) (state.frames.assign scope name value)
  remove (name : String) :
    state.frames.Changed scope name state.scopes none
      ((state.frames.remove scope name).map Prod.snd)
  /-- What is removed is what the name stood for. -/
  removed {name : String} {value : Value} {after : Frames} :
    state.frames.remove scope name = .ok (value, after) → state.frames.get? scope name = some value

theorem WellFormed.nearestBinding (wellFormed : state.WellFormed) (held : scope ∈ state.scopes) :
    state.NearestBinding scope := by
  have present : scope.inner.index < state.frames.table.size :=
    wellFormed.present held List.mem_cons_self
  have pushed (chain : List FrameRef) (name : String) :
      state.frames.push.lookup name chain = state.frames.lookup name chain := by
    simp only [Frames.lookup, Frames.get_push]
  constructor
  case contains => exact state.frames.contains_eq_isSome_get? scope
  case missing =>
    intro name
    rw [Frames.visible_iff, Option.not_isSome_iff_eq_none]
  case nearest => exact Frames.Nearest.lookup
  case child =>
    intro name
    have vacant : state.frames.push.get state.frames.nextRef = Frame.empty := by
      rw [Frames.get_push, Frames.get, Array.getD_eq_getD_getElem?]
      exact congrArg (Option.getD · Frame.empty) (Array.getElem?_eq_none (Nat.le_refl _))
    change state.frames.push.lookup name (state.frames.nextRef :: scope.chain) = _
    rw [Frames.lookup_cons, vacant, pushed]
    rfl
  case unchanged => exact fun _ name => pushed scope.chain name
  case declare => exact fun name => Frames.declared_declare present
  case bindParameter =>
    intro name value
    exact ⟨state.frames.differOnlyAt_commit (Frames.planParameter scope name value) present,
      Frames.commit_bind_entry present value true⟩
  case assign => exact fun name => Frames.changed_assign wellFormed.tree held
  case remove => exact fun name => Frames.changed_remove wellFormed.tree held
  case removed => exact Frames.get?_of_remove

end SharedScopes

/-- Whatever was done through scopes that share their frames, the next operation through any of
them acts on the nearest binding of its name, and on nothing else.  These are the operations
that a program performs, and one that fails leaves the store of the program as it was. -/
theorem scopes_obey_nearest_binding (steps : List ScopeStep) :
    (∀ scope ∈ (SharedScopes.after steps).scopes, (SharedScopes.after steps).NearestBinding scope) ∧
      ∀ context : Context,
        (∀ store, Run.newScope context store =
            .ok { context with scope := store.frames.nextScope context.scope.chain }
              { store with frames := store.frames.push }) ∧
          (∀ name value isMutable, (Evaluate.declare context name value isMutable).ChangesFrames
            fun frames => frames.declare context.scope name value isMutable) ∧
          (∀ name value, (Place.set context value (.variable name)).ChangesFrames
            fun frames => frames.assign context.scope name value) ∧
          ∀ name, (Place.delete context (.variable name)).ChangesFrames
            fun frames => (frames.remove context.scope name).map Prod.snd := by
  constructor
  · exact fun scope held => (SharedScopes.wellFormed_after steps).nearestBinding held
  · intro context
    refine ⟨fun _ => rfl, fun name value isMutable => ?_, fun name value => ?_, fun name => ?_⟩
    · exact Run.changesFrames_of_plan fun _ => rfl
    · rw [Place.set]
      exact Run.changesFrames_of_plan fun _ => rfl
    · rw [Place.delete]
      exact Run.changesFrames_of_plan fun frames => frames.remove_map_snd context.scope name

/-- A parameter hides a constant of its frame until it is removed through a child. -/
theorem scopes_obey_nearest_binding_parameter :
    let state := SharedScopes.after [.fresh,
      .through 0 (.declare "x" (.boolean false) false),
      .through 0 (.bindParameter "x" (.boolean true)),
      .through 0 .child]
    let child : Scope := { inner := ⟨1⟩, outer := [⟨0⟩] }
    let removed := state.frames.commit (.drop ⟨0⟩ "x")
    child ∈ state.scopes ∧ state.frames.get? child "x" = some (.boolean true) ∧
      state.frames.Changed child "x" state.scopes none (.ok removed) ∧
      removed.get? child "x" = some (.boolean false) := by
  intro state child removed
  have held : child ∈ state.scopes := List.mem_of_getElem? (i := 1) rfl
  exact ⟨held, rfl, ((scopes_obey_nearest_binding _).1 child held).remove "x", rfl⟩

end PatchScript
