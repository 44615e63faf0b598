import PatchScript.Proofs.Evaluate.Budget

/-!
# Calls with checked arguments

A native function is only run with arguments of the kinds that an overload of it asks for.  It
takes all of them, so what it fails with is an error of its own or that of a function it calls.
Its own errors are about the kind of a value only where the check cannot see it: in an item of
an array, in the answer of a function, and in a text that is no pattern.
-/

namespace PatchScript

open Correspondence

variable {α β : Type} {site : CallSite} {arguments : List Value} {kinds : List ParamKind}
variable {function : Native} {store after : Store} {kind : ErrorKind} {span : Span}

/-! ## The check -/

/-- The first argument, counted from zero, that is not of the kind that a parameter asks for. -/
inductive FirstRejected : List ParamKind → List Value → Nat → ParamKind → Value → Prop where
  | here {kind : ParamKind} {kinds : List ParamKind} {value : Value} {values : List Value} :
    kind.accepts value = false → FirstRejected (kind :: kinds) (value :: values) 0 kind value
  | later {first kind : ParamKind} {kinds : List ParamKind} {earlier value : Value}
    {values : List Value} {index : Nat} :
    first.accepts earlier = true → FirstRejected kinds values index kind value →
    FirstRejected (first :: kinds) (earlier :: values) (index + 1) kind value

/-- All arguments are of the kinds that parameters ask for. -/
def Accepted (kinds : List ParamKind) (arguments : List Value) : Prop :=
  List.Forall₂ (fun kind value => ParamKind.accepts kind value = true) kinds arguments

theorem Accepted.not_firstRejected (accepted : Accepted kinds arguments) {index : Nat}
    {kind : ParamKind} {value : Value} : ¬ FirstRejected kinds arguments index kind value := by
  intro rejected
  induction rejected with
  | here rejects =>
    cases accepted with
    | cons accepts _ => cases accepts.symm.trans rejects
  | later _ _ ih =>
    cases accepted with
    | cons _ rest => exact ih rest

/-- The check finds the first argument that is to be rejected. -/
theorem Native.checkArguments_cases (function : Native) (start : Nat)
    (enough : kinds.length = arguments.length) :
    function.checkArguments start kinds arguments = .ok () ∧ Accepted kinds arguments ∨
      ∃ index kind value, FirstRejected kinds arguments index kind value ∧
        function.checkArguments start kinds arguments =
          .error (function.argumentError (start + index) kind value) := by
  induction kinds generalizing start arguments with
  | nil =>
    cases List.length_eq_zero_iff.mp enough.symm
    exact .inl ⟨rfl, .nil⟩
  | cons kind kinds ih =>
    obtain ⟨value, arguments, rfl⟩ := List.exists_cons_of_length_eq_add_one enough.symm
    rw [checkArguments]
    split
    · next accepts =>
      obtain ⟨passed, accepted⟩ | ⟨index, other, found, first, failed⟩ :=
        ih (start + 1) (Nat.succ.inj enough)
      · exact .inl ⟨passed, .cons accepts accepted⟩
      · refine .inr ⟨index + 1, other, found, .later accepts first, ?_⟩
        rw [failed, Nat.add_right_comm, Nat.add_assoc]
    · next rejects => exact .inr ⟨0, kind, value, .here (Bool.eq_false_iff.mpr rejects), rfl⟩

/-! ## Errors of functions -/

/-- No call is malformed. -/
def CallSite.Sound (site : CallSite) : Prop :=
  ∀ callee given before after, site.call callee given before ≠ .error .malformedCall after

/-- Where an interpreter calls native functions. -/
def Interpreter.callSite (below : Interpreter) (span : Span) : CallSite where
  call function arguments := below.call function arguments span
  span := span

theorem sound_callSite (host : Host) (budget : Nat) (span : Span) :
    ((interpreter host budget).callSite span).Sound := by
  intro function arguments store after malformed
  have values : List.Forall₂ (sparing .nothing).Values arguments arguments :=
    forall₂_self fun _ _ => identity_values_iff.mpr rfl
  have outcomes := (alike_of_le host (Nat.le_refl budget) none).parts.call
    (identity_values_iff.mpr (rfl : function = function)) values (rfl : span = span) store store
    ⟨rfl, trivial⟩
  rw [show (interpreter host budget).call function arguments span store = _ from malformed]
    at outcomes
  cases outcomes

namespace Native

/-- The errors about the kind of a value that a function raises itself. -/
inductive OwnTypeError (site : CallSite) (store : Store) :
    Native → List Value → ErrorKind → Prop where
  /-- An item of an array is no number. -/
  | item {function : MathFunction} {ref : ArrayRef} {item : Value} {kind : ErrorKind} :
    item ∈ store.array ref → item.asNumber = .error kind →
    OwnTypeError site store (.math function) [.array ref] kind
  /-- A function that compares answers with something else than a number. -/
  | answer {ref : ArrayRef} {comparator left right answer : Value} {before after : Store}
    {kind : ErrorKind} :
    site.call comparator [left, right] before = .ok answer after →
    answer.asNumber = .error kind →
    OwnTypeError site store (.arrays .sort) [.array ref, comparator] kind
  /-- A text is no pattern. -/
  | pattern {function : StringFunction} {pattern : String} {text : Value} {rest : List Value} :
    Regex.ofText? pattern = none →
    OwnTypeError site store (.strings function) (text :: .string pattern :: rest)
      (.typeError "valid regex pattern" "invalid regex")

/-- How a function fails: with an error of its own, or as a function does that it calls. -/
inductive Fails (site : CallSite) (store : Store) (function : Native) (arguments : List Value) :
    EvalError → Prop where
  | own {kind : ErrorKind} :
    (kind.isTypeError = true → OwnTypeError site store function arguments kind) →
    Fails site store function arguments (.ofKind kind)
  | callback {callee : Value} {given : List Value} {before after : Store} {error : EvalError} :
    site.call callee given before = .error (.error error) after →
    Fails site store function arguments error

end Native

theorem exists_of_mapM_eq_error {check : α → Except ErrorKind β} {items : List α}
    (failed : items.mapM check = .error kind) : ∃ item ∈ items, check item = .error kind := by
  induction items with
  | nil => cases failed
  | cons item items ih =>
    rw [List.mapM_cons] at failed
    cases first : check item with
    | error other =>
      rw [first] at failed
      cases failed
      exact ⟨item, List.mem_cons_self, first⟩
    | ok value =>
      cases rest : items.mapM check with
      | ok values =>
        rw [first, rest] at failed
        cases failed
      | error other =>
        rw [first, rest] at failed
        cases failed
        obtain ⟨found, member, wrong⟩ := ih rest
        exact ⟨found, List.mem_cons_of_mem _ member, wrong⟩

/-- Sorting fails as a comparison does. -/
theorem Sorting.exists_of_sort_eq_error {less : α → α → Run Bool} {items : List α} {fault : Fault}
    (failed : sort less items store = .error fault after) :
    ∃ left right before, less left right before = .error fault after := by
  rw [sort_eq_run] at failed
  generalize sort Plan.query items = plan at failed
  induction plan generalizing store with
  | done result => cases failed
  | ask later earlier next ih =>
    cases asked : less later earlier store with
    | ok answer middle =>
      rw [Plan.run, bind_of_ok asked] at failed
      exact ih answer failed
    | error other middle =>
      rw [Plan.run, bind_of_error asked] at failed
      cases failed
      exact ⟨later, earlier, store, asked⟩

namespace Native

open Sorting ArrayFunction in
/-- Where something may be of the wrong kind, it is what an error is about. -/
theorem fails_of_mistypes (may : function.Mistypes arguments)
    (failed : function.body site arguments store = .error (.error (.ofKind kind)) after) :
    function.Fails site store arguments (.ofKind kind) := by
  have items {function : MathFunction} {ref : ArrayRef} {result : List Float → Float}
      (failed : (Run.lift (MathFunction.numbers (store.array ref).toList) >>= fun values =>
        pure (.number (result values)) : Run Value) store = .error (.error (.ofKind kind)) after) :
      (Native.math function).Fails site store [.array ref] (.ofKind kind) := by
    cases read : MathFunction.numbers (store.array ref).toList with
    | ok values =>
      rw [read] at failed
      cases failed
    | error other =>
      rw [read] at failed
      cases failed
      refine .own fun isType => ?_
      unfold MathFunction.numbers at read
      split at read
      · cases read
        cases isType
      · obtain ⟨item, member, wrong⟩ := exists_of_mapM_eq_error read
        exact .item (Array.mem_toList_iff.mp member) wrong
  have patterns {function : StringFunction} {text : Value} {pattern : String} {rest : List Value}
      {next : Regex → Run Value} (invalid : Regex.ofText? pattern = none)
      (failed : (Run.lift (StringFunction.regex pattern) >>= next) store =
        .error (.error (.ofKind kind)) after) :
      (Native.strings function).Fails site store (text :: .string pattern :: rest)
        (.ofKind kind) := by
    rw [StringFunction.regex, invalid] at failed
    cases failed
    exact .own fun _ => .pattern invalid
  unfold Mistypes at may
  split at may
  · exact items failed
  · exact items failed
  · next ref comparator =>
    have failed : (sort (comparatorLess site comparator) (store.array ref).toList >>= fun sorted =>
        Run.newArray sorted.toArray) store = .error (.error (.ofKind kind)) after := failed
    cases sorted : sort (comparatorLess site comparator) (store.array ref).toList store with
    | ok result middle =>
      rw [bind_of_ok sorted] at failed
      cases failed
    | error fault middle =>
      rw [bind_of_error sorted] at failed
      cases failed
      obtain ⟨left, right, before, compares⟩ := exists_of_sort_eq_error sorted
      cases called : site.call comparator [left, right] before with
      | error fault later =>
        rw [comparatorLess, bind_of_error called] at compares
        cases compares
        exact .callback called
      | ok answer later =>
        rw [comparatorLess, bind_of_ok called] at compares
        cases wrong : answer.asNumber with
        | ok x =>
          rw [wrong] at compares
          cases compares
        | error other =>
          rw [wrong] at compares
          cases compares
          exact .own fun _ => .answer called wrong
  · next text pattern =>
    cases text with
    | string text => exact patterns may failed
    | _ => cases failed
  · next text pattern replacement =>
    cases text with
    | string text =>
      cases replacement with
      | string replacement => exact patterns may failed
      | _ => cases failed
    | _ => cases failed
  · exact may.elim

/-- Arguments that pass the check are taken, and every error is the function's own or that of a
call. -/
theorem body_of_accepted (sound : site.Sound) (member : kinds ∈ function.overloads)
    (enough : kinds.length = arguments.length)
    (passed : function.checkArguments 1 kinds arguments = .ok ()) (store : Store) :
    (∀ after, function.body site arguments store ≠ .error .malformedCall after) ∧
    ∀ error after, function.body site arguments store = .error (.error error) after →
      function.Fails site store arguments error := by
  let errors (error _ : EvalError) : Prop :=
    (∃ kind, error = .ofKind kind ∧ (kind.isTypeError = false ∨ function.Mistypes arguments)) ∨
      ∃ callee given before after, site.call callee given before = .error (.error error) after
  have calls (callee callee' : Value) (given given' : List Value)
      (callees : (sparing .nothing).Values callee callee')
      (givens : List.Forall₂ (sparing .nothing).Values given given') :
      Run.Corresponds (sparing .nothing) none errors (sparing .nothing).Values
        (site.call callee given) (site.call callee' given') := by
    rintro store _ ⟨rfl, _⟩
    obtain rfl : given = given' := List.forall₂_eq_eq_eq ▸ givens.imp fun _ _ => identity_values_iff.mp
    rw [← identity_values_iff.mp callees]
    cases called : site.call callee given store with
    | ok value after => exact .ok ⟨rfl, trivial⟩ (identity_values_iff.mpr rfl)
    | error fault after =>
      cases fault with
      | error error => exact .failed ⟨rfl, trivial⟩ (.inr ⟨_, _, _, _, called⟩)
      | outOfFuel => exact .exhausted ⟨rfl, trivial⟩ trivial
      | malformedCall => exact absurd called (sound _ _ _ _)
  have values : List.Forall₂ (sparing .nothing).Values arguments arguments :=
    forall₂_self fun _ _ => identity_values_iff.mpr rfl
  have runs : Run.Corresponds (sparing .nothing) none errors _ _ _ :=
    function.corresponds_body (fun kind _ _ mild => .inl ⟨kind, rfl, mild⟩) calls rfl
      (fun guarded => absurd guarded Bool.false_ne_true) id
      ((arguments_of_checkArguments values enough passed).selected member)
  have outcomes := runs store store ⟨rfl, trivial⟩
  refine ⟨fun after malformed => ?_, fun error after failed => ?_⟩
  · rw [malformed] at outcomes
    cases outcomes
  · rw [failed] at outcomes
    cases outcomes with
    | failed _ related =>
      obtain ⟨kind, rfl, plain | may⟩ | ⟨_, _, _, _, called⟩ := related
      · exact .own fun isType => absurd (plain.symm.trans isType) Bool.false_ne_true
      · exact fails_of_mistypes may failed
      · exact .callback called

/-- The kind of the outermost layer of the error that a call ends in. -/
def outermost? : EStateM.Result Fault Store Value → Option ErrorKind
  | .error (.error error) _ => some error.outer.kind
  | _ => none

/-- How a call goes on: it is refused, or the function is run. -/
inductive Answers (function : Native) (site : CallSite) (arguments : List Value) (store : Store) :
    EStateM.Result Fault Store Value → Prop where
  | miscounted :
    (∀ kinds ∈ function.overloads, kinds.length ≠ arguments.length) →
    Answers function site arguments store (Run.failAt (.arityMismatch
      ("'" ++ function.qualifiedName ++ "'") function.arities arguments.length) site.span store)
  | rejected {kinds : List ParamKind} {index : Nat} {kind : ParamKind} {value : Value} :
    function.overload? arguments.length = some kinds →
    FirstRejected kinds arguments index kind value →
    Answers function site arguments store
      (Run.failAt (function.argumentError (index + 1) kind value) site.span store)
  | ran {kinds : List ParamKind} :
    function.overload? arguments.length = some kinds → Accepted kinds arguments →
    (∀ after, function.body site arguments store ≠ .error .malformedCall after) →
    (∀ error after, function.body site arguments store = .error (.error error) after →
      function.Fails site store arguments error) →
    Answers function site arguments store
      (Run.mapError (function.reportError site.span) (function.body site arguments) store)

theorem answers_dispatch (sound : site.Sound) (function : Native) (arguments : List Value)
    (store : Store) :
    function.Answers site arguments store (function.dispatch site arguments store) := by
  unfold dispatch
  cases overload : function.overload? arguments.length with
  | none =>
    have none := List.find?_eq_none.mp overload
    exact .miscounted fun kinds member same => none kinds member (beq_iff_eq.mpr same)
  | some kinds =>
    have enough : kinds.length = arguments.length := by simpa using List.find?_some overload
    dsimp only
    obtain ⟨passed, accepted⟩ | ⟨index, kind, value, first, failed⟩ :=
      function.checkArguments_cases 1 enough
    · rw [passed]
      obtain ⟨taken, fails⟩ :=
        body_of_accepted sound (List.mem_of_find?_eq_some overload) enough passed store
      exact .ran overload accepted taken fails
    · rw [failed, Nat.add_comm]
      exact .rejected overload first

/-- An error of a function is reported under its name, or as that of a call. -/
theorem outermost?_mapError {computation : Run Value}
    (found : outermost? (Run.mapError (function.reportError span) computation store) = some kind) :
    (∃ reason, kind = .nativeError function.qualifiedName reason) ∨
      kind = .inCall ("'" ++ function.qualifiedName ++ "'") := by
  unfold Run.mapError at found
  split at found
  · cases found
    unfold reportError
    split
    · exact .inl ⟨_, rfl⟩
    · exact .inl ⟨_, rfl⟩
    · exact .inr rfl
  · next other =>
    cases ran : computation store with
    | ok value after =>
      rw [ran] at found
      cases found
    | error fault after =>
      rw [ran] at found other
      cases fault with
      | error error => exact absurd rfl (other error after)
      | outOfFuel | malformedCall => cases found

end Native

/-- Wherever a native function is called, the call fails with a mismatch in the number of
arguments exactly if no overload takes so many, and otherwise with a type error exactly if there
is a first argument that is not of the kind that the overload asks for.  Otherwise the function
is run and takes the arguments: type errors of its own are about what is in an array, what a
function answers, or a text that is no pattern. -/
theorem native_calls_checked (host : Host) (budget : Nat) (span : Span) (function : Native)
    (arguments : List Value) (store : Store) :
    let site := (interpreter host budget).callSite span
    let result := function.dispatch site arguments store
    function.Answers site arguments store result ∧
      ((∃ name arities count, Native.outermost? result = some (.arityMismatch name arities count)) ↔
        ∀ kinds ∈ function.overloads, kinds.length ≠ arguments.length) ∧
      ((∃ expected found, Native.outermost? result = some (.typeError expected found)) ↔
        ∃ kinds index kind value, function.overload? arguments.length = some kinds ∧
          FirstRejected kinds arguments index kind value) := by
  intro site result
  have answers : function.Answers site arguments store result :=
    Native.answers_dispatch (sound_callSite host budget span) function arguments store
  refine ⟨answers, ?_⟩
  generalize result = result at answers
  have selected {kinds : List ParamKind} (overload : function.overload? arguments.length = some kinds) :
      ¬ ∀ kinds ∈ function.overloads, kinds.length ≠ arguments.length := fun none =>
    none kinds (List.mem_of_find?_eq_some overload) (by simpa using List.find?_some overload)
  cases answers with
  | miscounted none =>
    refine ⟨⟨fun _ => none, fun _ => ⟨_, _, _, rfl⟩⟩, ?_, ?_⟩
    · rintro ⟨_, _, found⟩
      cases found
    · rintro ⟨kinds, _, _, _, overload, _⟩
      exact absurd none (selected overload)
  | rejected overload first =>
    refine ⟨⟨?_, fun none => absurd none (selected overload)⟩,
      fun _ => ⟨_, _, _, _, overload, first⟩, fun _ => ⟨_, _, rfl⟩⟩
    rintro ⟨_, _, _, found⟩
    cases found
  | ran overload accepted =>
    refine ⟨⟨?_, fun none => absurd none (selected overload)⟩, ?_, ?_⟩
    · rintro ⟨_, _, _, found⟩
      obtain ⟨_, other⟩ | other := Native.outermost?_mapError found <;> cases other
    · rintro ⟨_, _, found⟩
      obtain ⟨_, other⟩ | other := Native.outermost?_mapError found <;> cases other
    · rintro ⟨other, _, _, _, overload', first⟩
      cases overload.symm.trans overload'
      exact absurd first accepted.not_firstRejected

end PatchScript
