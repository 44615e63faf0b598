import PatchScript.Frames

/-!
# What runs do to variables

A run adds frames, and changes them one binding at a time: it declares names that a frame
does not bind, binds parameters in frames without constants, and assigns to and removes
variables.  None of this binds a name both as a variable and as a constant, or touches a
constant.
-/

namespace PatchScript

variable {name : String} {value : Value}

namespace Frame

variable {frame after : Frame}

/-- What one change can do to a frame. -/
inductive Step (frame : Frame) : Frame → Prop where
  | same : Step frame frame
  /-- Declare a name that the frame does not bind. -/
  | declare {name : String} (value : Value) (isMutable : Bool) :
    frame.get? name = none → Step frame (frame.bind name value isMutable)
  /-- Bind a parameter in a frame that has no constants. -/
  | parameter (name : String) (value : Value) :
    frame.constants = OrderedMap.empty → Step frame (frame.bind name value true)
  /-- Give a variable another value. -/
  | assign {name : String} (value : Value) :
    frame.mutables.contains name = true → Step frame (frame.bind name value true)
  /-- Remove a variable. -/
  | remove {name : String} :
    frame.mutables.contains name = true → Step frame (frame.dropVariable name)

/-- No name is bound both as a variable and as a constant. -/
def Apart (frame : Frame) : Prop :=
  ∀ name, frame.mutables.get? name = none ∨ frame.constants.get? name = none

theorem apart_empty : empty.Apart := fun _ => .inl rfl

/-- Where no name is bound twice, a constant is what its name refers to. -/
theorem Apart.get?_of_constant (apart : frame.Apart)
    (constant : frame.constants.get? name = some value) : frame.get? name = some value := by
  obtain noVariable | noConstant := apart name
  · rw [Frame.get?, noVariable, constant]
    rfl
  · rw [noConstant] at constant
    cases constant

/-- A variable may be bound where its name is no constant. -/
theorem Apart.bind_variable (apart : frame.Apart) (noConstant : frame.constants.get? name = none)
    (value : Value) : (frame.bind name value true).Apart := by
  intro other
  change (frame.mutables.insert name value).get? other = none ∨ frame.constants.get? other = none
  rw [OrderedMap.get?_insert]
  split
  next same => exact .inr (same ▸ noConstant)
  next => exact apart other

theorem Step.apart (step : frame.Step after) (apart : frame.Apart) : after.Apart := by
  cases step with
  | same => exact apart
  | @declare name value isMutable unbound =>
    rw [Frame.get?, Option.or_eq_none_iff] at unbound
    cases isMutable with
    | true => exact apart.bind_variable unbound.2 value
    | false =>
      intro other
      change frame.mutables.get? other = none ∨
        (frame.constants.insert name value).get? other = none
      rw [OrderedMap.get?_insert]
      split
      next same => exact .inl (same ▸ unbound.1)
      next => exact apart other
  | parameter name value noConstants =>
    refine apart.bind_variable ?_ value
    rw [noConstants]
    rfl
  | @assign name value isVariable =>
    refine apart.bind_variable ((apart name).resolve_left fun noVariable => ?_) value
    rw [OrderedMap.contains, noVariable] at isVariable
    cases isVariable
  | @remove name =>
    intro other
    change (frame.mutables.erase name).get? other = none ∨ frame.constants.get? other = none
    rw [OrderedMap.get?_erase]
    split
    · exact .inl rfl
    · exact apart other

/-- A constant is kept. -/
theorem Step.constant (step : frame.Step after)
    (constant : frame.constants.get? name = some value) :
    after.constants.get? name = some value := by
  cases step with
  | same | parameter | assign | remove => exact constant
  | @declare other _ isMutable unbound =>
    cases isMutable with
    | true => exact constant
    | false =>
      have differs : name ≠ other := by
        rintro rfl
        rw [Frame.get?, constant] at unbound
        cases (Option.or_eq_none_iff.mp unbound).2
      change (frame.constants.insert other _).get? name = some value
      rw [OrderedMap.get?_insert, if_neg differs]
      exact constant

end Frame

/-- The frame that a change is made in. -/
def FrameChange.ref : FrameChange → FrameRef
  | .bind ref _ _ _ => ref
  | .drop ref _ => ref

/-- What a change makes of its frame. -/
def FrameChange.apply : FrameChange → Frame → Frame
  | .bind _ name value isMutable => fun frame => frame.bind name value isMutable
  | .drop _ name => fun frame => frame.dropVariable name

namespace Frames

variable {frames : Frames}

section

variable (frames : Frames) (change : FrameChange)

theorem commit_eq :
    frames.commit change =
      { table := frames.table.modify change.ref.index change.apply } := by
  cases change <;> rfl

theorem size_commit : (frames.commit change).table.size = frames.table.size := by
  rw [commit_eq, Array.size_modify]

theorem get_commit_of_ne {change : FrameChange} {other : FrameRef} (differs : other ≠ change.ref) :
    (frames.commit change).get other = frames.get other := by
  have apart : change.ref.index ≠ other.index := by
    intro equal
    apply differs
    cases other
    exact congrArg FrameRef.mk equal.symm
  rw [commit_eq]
  simp only [get, Array.getD_eq_getD_getElem?, Array.getElem?_modify, if_neg apart]

theorem get_commit_self (present : change.ref.index < frames.table.size) :
    (frames.commit change).get change.ref = change.apply (frames.get change.ref) := by
  rw [commit_eq]
  simp only [get, Array.getD_eq_getD_getElem?, Array.getElem?_modify, if_pos,
    Array.getElem?_eq_getElem present, Option.map_some, Option.getD_some]

end

/-- Every frame takes at most one step. -/
def Step (frames after : Frames) : Prop :=
  ∀ ref, (frames.get ref).Step (after.get ref)

/-- In no frame a name is bound both as a variable and as a constant. -/
def Apart (frames : Frames) : Prop :=
  ∀ ref, (frames.get ref).Apart

/-- A name is a constant of a frame, with a value. -/
def Fixes (frames : Frames) (ref : FrameRef) (name : String) (value : Value) : Prop :=
  (frames.get ref).constants.get? name = some value

theorem apart_empty : empty.Apart := fun _ => Frame.apart_empty

theorem get_push (frames : Frames) (ref : FrameRef) : frames.push.get ref = frames.get ref := by
  simp only [get, push, Array.getD_eq_getD_getElem?, Array.getElem?_push]
  split
  next isNew => simp [isNew]
  next => rfl

theorem step_push (frames : Frames) : frames.Step frames.push := by
  intro ref
  rw [get_push]
  exact .same

/-- A change of one frame is a step if it is one of that frame. -/
theorem step_modify (frames : Frames) (ref : FrameRef) {change : Frame → Frame}
    (step : (frames.get ref).Step (change (frames.get ref))) :
    frames.Step { table := frames.table.modify ref.index change } := by
  intro other
  by_cases same : ref = other
  · cases same
    simp only [get, Array.getD_eq_getD_getElem?, Array.getElem?_modify, if_pos] at step ⊢
    cases found : frames.table[ref.index]? with
    | none => exact .same
    | some frame =>
      rw [found] at step
      exact step
  · have differs : ref.index ≠ other.index := fun equal => same (by cases ref; cases other; simp_all)
    simp only [get, Array.getD_eq_getD_getElem?, Array.getElem?_modify, if_neg differs]
    exact .same

theorem Step.apart {after : Frames} (step : frames.Step after) (apart : frames.Apart) :
    after.Apart :=
  fun ref => (step ref).apart (apart ref)

theorem Step.fixes {after : Frames} (step : frames.Step after) {ref : FrameRef}
    (constant : frames.Fixes ref name value) : after.Fixes ref name value :=
  (step ref).constant constant

end Frames
end PatchScript
