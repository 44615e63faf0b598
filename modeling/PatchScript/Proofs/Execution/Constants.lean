import PatchScript.Proofs.Execution.Watching

/-!
# Constants

Over every session, and at every point of it: no frame binds a name both as a variable and
as a constant, and a constant stays what it is.  Frames are shared by closures and outlive
their blocks; but whatever is done to them is one of the steps that keep constants.

To say that something once true stays true, an interpreter is watched whose notes are in a
single line at the head of the log, which tells how it has gone so far.
-/

namespace PatchScript

/-! ## Properties that stay -/

/-- How a property of events has gone so far. -/
inductive Course where
  /-- It has not held yet. -/
  | pending
  /-- It has held ever since it held first. -/
  | holding
  /-- It did not hold at an event after one at which it held. -/
  | lapsed

namespace Course

/-- How it has gone after one more event. -/
def next (property : Event → Prop) [DecidablePred property] (event : Event) : Course → Course
  | .pending => if property event then .holding else .pending
  | .holding => if property event then .holding else .lapsed
  | .lapsed => .lapsed

/-- The line that tells how it has gone. -/
def line (course : Course) : LogEntry :=
  { LogEntry.noted with
    text :=
      match course with
      | .pending => "pending"
      | .holding => "holding"
      | .lapsed => "lapsed" }

/-- What a line tells. -/
def ofLine (line : LogEntry) : Course :=
  if line.text = "holding" then .holding
  else if line.text = "lapsed" then .lapsed
  else .pending

/-- The property holds if it has held before, and it has not lapsed. -/
def Sound (holds : Prop) : Course → Prop
  | .pending => True
  | .holding => holds
  | .lapsed => False

theorem Sound.imp {holds holdsAfter : Prop} {course : Course} (sound : course.Sound holds)
    (implies : holds → holdsAfter) : course.Sound holdsAfter := by
  cases course with
  | pending => trivial
  | holding => exact implies sound
  | lapsed => exact sound

/-- Where the property holds if it has held before, it does not lapse. -/
theorem Sound.next {property : Event → Prop} [DecidablePred property] {event : Event}
    {course : Course} (sound : course.Sound (property event)) :
    (course.next property event).Sound (property event) := by
  cases course with
  | pending =>
    rw [Course.next]
    split
    next holds => exact holds
    next => trivial
  | holding =>
    have holds : property event := sound
    rw [Course.next, if_pos holds]
    exact holds
  | lapsed => exact sound

@[simp] theorem ofLine_line (course : Course) : ofLine course.line = course := by
  cases course <;> simp [ofLine, line]

end Course

/-- Keep the first line of the log up to date with how a property goes. -/
def Notes.course (property : Event → Prop) [DecidablePred property] : Notes := fun event log =>
  log.modify 0 fun line => ((Course.ofLine line).next property event).line

theorem getElem?_headed_zero (line : LogEntry) (log : Array LogEntry) :
    (#[line] ++ log)[0]? = some line := by
  rw [Array.getElem?_append_left (by simp)]
  rfl

theorem Notes.course_headed (property : Event → Prop) [DecidablePred property] (event : Event)
    (course : Course) (log : Array LogEntry) :
    Notes.course property event (#[course.line] ++ log) =
      #[(course.next property event).line] ++ log := by
  refine Array.ext_getElem? fun index => ?_
  rw [Notes.course, Array.getElem?_modify]
  cases index with
  | zero => simp only [if_pos, getElem?_headed_zero, Option.map_some, Course.ofLine_line]
  | succ index => simp [Array.getElem?_append]

/-- How a property of events goes while requests are answered. -/
def courseOf (host : Host) (property : Event → Prop) [DecidablePred property]
    (requests : List (Nat × Request)) (store : Store) : Course :=
  let headed := { store with log := #[Course.pending.line] ++ store.log }
  Course.ofLine ((session (notingInterpreter (.course property) host) requests headed).log.getD 0
    .noted)

/-! ## Ledgers about variables -/

/-- What holds of the variables and of the log of a run and the log with notes. -/
def Ledger.ofFrames (Keeps : Frames → Array LogEntry → Array LogEntry → Prop)
    (step : ∀ {frames after log log'}, frames.Step after → Keeps frames log log' →
      Keeps after log log')
    (push : ∀ {frames log log'} (entry : LogEntry), Keeps frames log log' →
      Keeps frames (log.push entry) (log'.push entry)) : Ledger where
  Holds _ := Keeps
  step := step
  push := push

/-- Notes that depend on the variables at an event keep to a ledger about variables. -/
theorem permits_ofFrames {notes : Notes} {Keeps : Frames → Array LogEntry → Array LogEntry → Prop}
    {step : ∀ {frames after log log'}, frames.Step after → Keeps frames log log' →
      Keeps after log log'}
    {push : ∀ {frames log log'} (entry : LogEntry), Keeps frames log log' →
      Keeps frames (log.push entry) (log'.push entry)}
    (noted : ∀ (event : Event) log log', Keeps event.store.frames log log' →
      Keeps event.store.frames log (notes event log')) :
    Permits notes (.ofFrames Keeps step push) where
  grows _ _ holds := holds
  began _ := noted (.began _) _ _
  ended _ := noted (.ended _) _ _
  imported _ _ := noted (.imported ..) _ _
  finished _ _ holds _ := noted (.ran _ (.ok () _)) _ _ holds
  broken _ := noted (.ran _ (.error _ _)) _ _

/-- A property of variables that runs keep. -/
def Frames.Lasting (property : Frames → Prop) : Prop :=
  ∀ frames after : Frames, frames.Step after → property frames → property after

section Lasting

variable {property : Frames → Prop} (lasting : Frames.Lasting property)

include lasting

/-- A lasting property that holds at the start holds at every event and in the end. -/
theorem Frames.Lasting.always {watch : Event → Prop} [DecidablePred watch]
    (excludes : ∀ event : Event, property event.store.frames → ¬ watch event) (host : Host)
    (requests : List (Nat × Request)) {store : Store} (protocol : store.Protocol)
    (initially : property store.frames) :
    (session (interpreter host) requests store).Protocol ∧
      property (session (interpreter host) requests store).frames ∧
      occurrences host watch requests store = 0 := by
  let ledger : Ledger := .ofFrames
    (fun frames log log' => property frames ∧ log'.size = log.size)
    (fun steps holds => ⟨lasting _ _ steps holds.1, holds.2⟩)
    (fun entry holds => ⟨holds.1, by simp only [Array.size_push, holds.2]⟩)
  have permits : Permits (.counting watch) ledger := by
    refine permits_ofFrames fun event log log' holds => ⟨holds.1, ?_⟩
    rw [Notes.counting, if_neg (excludes event holds.1)]
    exact holds.2
  have stores : Watched ⟨store.loading, ledger⟩ store store := ⟨protocol, rfl, rfl, initially, rfl⟩
  have ended := watched_session permits host requests stores
  obtain ⟨lasts, sameSize⟩ := ended.holds
  exact ⟨ended.protocol, ended.frames_eq ▸ lasts, Nat.sub_eq_zero_of_le (Nat.le_of_eq sameSize)⟩

/-- A lasting property never lapses. -/
theorem Frames.Lasting.course_ne_lapsed
    [DecidablePred fun event : Event => property event.store.frames] (host : Host)
    (requests : List (Nat × Request)) {store : Store} (protocol : store.Protocol) :
    courseOf host (fun event => property event.store.frames) requests store ≠ .lapsed := by
  let ledger : Ledger := .ofFrames
    (fun frames log log' => ∃ course : Course, log' = #[course.line] ++ log ∧
      course.Sound (property frames))
    (fun steps ⟨course, headed, sound⟩ => ⟨course, headed, sound.imp (lasting _ _ steps)⟩)
    (fun entry ⟨course, headed, sound⟩ => ⟨course, by rw [headed, Array.append_push], sound⟩)
  have permits : Permits (.course fun event => property event.store.frames) ledger := by
    refine permits_ofFrames ?_
    rintro event log _ ⟨course, rfl, sound⟩
    exact ⟨_, Notes.course_headed _ event course log, Course.Sound.next sound⟩
  have stores : Watched ⟨store.loading, ledger⟩ store
      { store with log := #[Course.pending.line] ++ store.log } :=
    ⟨protocol, rfl, rfl, .pending, rfl, trivial⟩
  obtain ⟨course, headed, sound⟩ := (watched_session permits host requests stores).holds
  intro lapsed
  simp only [courseOf, headed] at lapsed
  rw [Array.getD_eq_getD_getElem?, getElem?_headed_zero, Option.getD_some, Course.ofLine_line]
    at lapsed
  rw [lapsed] at sound
  exact sound

end Lasting

/-! ## Constants -/

theorem lasting_apart : Frames.Lasting Frames.Apart := fun _ _ steps apart => steps.apart apart

theorem lasting_fixes (ref : FrameRef) (name : String) (value : Value) :
    Frames.Lasting fun frames => frames.Fixes ref name value :=
  fun _ _ steps constant => steps.fixes constant

/-- Where no name is bound twice, a constant of a frame is what its name refers to there. -/
theorem Frames.Apart.get?_of_fixes {frames : Frames} (apart : frames.Apart) {ref : FrameRef}
    {name : String} {value : Value} (constant : frames.Fixes ref name value) :
    (frames.get ref).get? name = some value :=
  (apart ref).get?_of_constant constant

/-- A name that is declared as a constant is one, of the innermost frame. -/
theorem fixes_of_declare {context : Context} {name : String} {value : Value} {store after : Store}
    (present : context.scope.inner.index < store.frames.table.size)
    (declared : Evaluate.declare context name value false store = .ok () after) :
    after.frames.Fixes context.scope.inner name value := by
  simp only [Evaluate.declare, Run.changeFrames_apply, Frames.planDeclare] at declared
  cases visible : store.frames.contains context.scope name with
  | true =>
    rw [visible] at declared
    cases declared
  | false =>
    rw [visible] at declared
    cases declared
    simp only [Frames.Fixes, Frames.get, Store.changeFrames, Frames.commit,
      Array.getD_eq_getD_getElem?, Array.getElem?_modify, if_pos,
      Array.getElem?_eq_getElem present, Option.map_some, Option.getD_some]
    exact (OrderedMap.get?_insert ..).trans (if_pos rfl)

open Classical in
/-- In every session that starts with an empty store, and at every point of it, no frame
binds a name both as a variable and as a constant.  A name that is declared as a constant is
one of the innermost frame.  Once a name is a constant of a frame with a value it is so at
every later event, and what the name refers to in the frame is that value.  So it is as well
for a constant that requests leave behind, whatever is requested later.

The first part says that to take notes of events changes nothing but the log. -/
theorem constants_kept (host : Host) (earlier later : List (Nat × Request)) :
    let requests := earlier ++ later
    let before := session (interpreter host) earlier Store.empty
    let after := session (interpreter host) later before
    (∀ notes log,
      session (notingInterpreter notes host) requests { Store.empty with log := log } =
        { session (interpreter host) requests Store.empty with
          log := (session (notingInterpreter notes host) requests
            { Store.empty with log := log }).log }) ∧
      occurrences host (fun event => ¬ event.store.frames.Apart) requests Store.empty = 0 ∧
      before.frames.Apart ∧
      (∀ context name value (start reached : Store),
        context.scope.inner.index < start.frames.table.size →
        Evaluate.declare context name value false start = .ok () reached →
        reached.frames.Fixes context.scope.inner name value) ∧
      ∀ ref name value,
        courseOf host (fun event => event.store.frames.Fixes ref name value) requests Store.empty ≠
          .lapsed ∧
        occurrences host
          (fun event => event.store.frames.Fixes ref name value ∧
            (event.store.frames.get ref).get? name ≠ some value) requests Store.empty = 0 ∧
        (before.frames.Fixes ref name value →
          occurrences host (fun event => (event.store.frames.get ref).get? name ≠ some value)
              later before = 0 ∧
            after.frames.Fixes ref name value ∧
            (after.frames.get ref).get? name = some value) := by
  intro requests before after
  have neverMixed (requests : List (Nat × Request)) :=
    lasting_apart.always (fun _ apart mixed => absurd apart mixed) host requests protocol_empty
      Frames.apart_empty
  obtain ⟨protocol, beforeApart, _⟩ := neverMixed earlier
  refine ⟨fun notes log => session_notingInterpreter host notes requests protocol_empty log,
    (neverMixed requests).2.2, beforeApart, fun _ _ _ _ _ => fixes_of_declare,
    fun ref name value => ⟨?_, ?_, fun constant => ?_⟩⟩
  · exact (lasting_fixes ref name value).course_ne_lapsed host requests protocol_empty
  · have excluded (event : Event) (apart : event.store.frames.Apart) :
        ¬ (event.store.frames.Fixes ref name value ∧
          (event.store.frames.get ref).get? name ≠ some value) :=
      fun ⟨isConstant, hidden⟩ => hidden (apart.get?_of_fixes isConstant)
    exact (lasting_apart.always excluded host requests protocol_empty Frames.apart_empty).2.2
  · -- That names are bound once and that this one is a constant lasts together.
    have lasting : Frames.Lasting fun frames => frames.Apart ∧ frames.Fixes ref name value :=
      fun _ _ steps both => ⟨steps.apart both.1, steps.fixes both.2⟩
    obtain ⟨_, ⟨afterApart, kept⟩, never⟩ := lasting.always
      (fun event both (hidden : (event.store.frames.get ref).get? name ≠ some value) =>
        hidden (both.1.get?_of_fixes both.2))
      host later protocol ⟨beforeApart, constant⟩
    exact ⟨never, kept, afterApart.get?_of_fixes kept⟩

namespace Shadowing

/-- A place in no file. -/
def place : Span :=
  { file := "", start := Position.start, stop := Position.start }

/-- `$x = true;` -/
def assignment : Statement :=
  .node place (.expression (.node place
    (.assign (.node place (.variable "x")) none (.node place (.literal (.boolean true))))))

/-- `function f(x) { $x = true; }` -/
def definition : FunctionDef :=
  .node (some "f") [.named "x"] (.block [assignment]) place

/-- `val x = null; function f(x) { $x = true; }` -/
def declaring : Program :=
  { metadata := OrderedMap.empty
    statements := [.node place (.declare "x" false (.node place (.literal .null))),
      .node place (.declareFunction definition)] }

/-- `$f(false); $x = true;` -/
def assigning : Program :=
  { metadata := OrderedMap.empty
    statements := [.node place (.expression (.node place
        (.call (.node place (.reference (.node place (.variable "f"))))
          [.node place (.literal (.boolean false))]))),
      assignment] }

/-- Both programs run with the first object and the first frame. -/
def context : Context :=
  { root := { index := 0 }, scope := { inner := { index := 0 }, outer := [] } }

/-- The store after the declarations. -/
def declared : Store :=
  { Store.empty with
    objects := #[OrderedMap.empty]
    functions := #[.script definition (some context)]
    frames := { table := #[(Frame.empty.bind "x" .null false).bind "f" (.function ⟨0⟩) false] } }

end Shadowing

open Classical in
/-- A parameter with the name of a constant is assigned to, the constant is not. -/
theorem constants_kept_shadowed :
    let frame : FrameRef := { index := 0 }
    let earlier := [(9, Request.start []), (9, .execute Shadowing.context Shadowing.declaring)]
    let later := [(9, Request.execute Shadowing.context Shadowing.assigning)]
    let before := session (interpreter {}) earlier Store.empty
    let after := session (interpreter {}) later before
    (∃ reached, Evaluate.declare Shadowing.context "y" .null false before = .ok () reached ∧
        reached.frames.Fixes frame "y" .null) ∧
      before.frames.Fixes frame "x" .null ∧
      (after.frames.get { index := 1 }).get? "x" = some (.boolean true) ∧
      occurrences {} (fun event => (event.store.frames.get frame).get? "x" ≠ some .null)
        later before = 0 ∧
      after.frames.Fixes frame "x" .null ∧ (after.frames.get frame).get? "x" = some .null := by
  intro frame earlier later before after
  have declared : before = Shadowing.declared := rfl
  have constant : before.frames.Fixes frame "x" .null := rfl
  have assigned : (after.frames.get { index := 1 }).get? "x" = some (.boolean true) := by
    simp only [after, declared]
    rfl
  obtain ⟨_, _, _, fixed, kept⟩ := constants_kept {} earlier later
  have present : frame.index < before.frames.table.size := Nat.zero_lt_succ _
  exact ⟨⟨_, rfl, fixed Shadowing.context "y" .null before _ present rfl⟩, constant, assigned,
    (kept frame "x" .null).2.2 constant⟩

end PatchScript
