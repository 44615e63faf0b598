import PatchScript.Proofs.InsertionOrder
import PatchScript.Proofs.Native.Callbacks
import PatchScript.Proofs.Run.Lawful
import PatchScript.Proofs.Sorting.Plan
import PatchScript.Proofs.Text.Bytes

/-!
# Native functions side by side

Native functions that are called alike, with corresponding arguments, run alike.  Their
arguments have been checked, so that a body is only ever given arguments it takes.
-/

namespace PatchScript

open Run (Corresponds)

variable {kinds : List ParamKind} {arguments arguments' items items' : List Value}
variable {value value' : Value} {site site' : CallSite} {index : Nat} {function : Native}

/-! ## Arguments -/

namespace Correspondence

/-- Corresponding arguments of a kind that a parameter takes. -/
def Argument (rel : Correspondence) (kind : ParamKind) (value value' : Value) : Prop :=
  match kind with
  | .any => rel.Values value value'
  | .number => ∃ x, value = .number x ∧ value' = .number x
  | .integer => ∃ x, value = .number x ∧ value' = .number x ∧ (Decimal.integer? x).isSome
  | .string => ∃ text, value = .string text ∧ value' = .string text
  | .array => ∃ ref ref', value = .array ref ∧ value' = .array ref' ∧ rel.Arrays ref ref'
  | .object => ∃ ref ref', value = .object ref ∧ value' = .object ref' ∧ rel.Objects ref ref'
  | .function =>
    ∃ ref ref', value = .function ref ∧ value' = .function ref' ∧ rel.Functions ref ref'

/-- Corresponding arguments, one for each parameter. -/
inductive Arguments
    (rel : Correspondence) : List ParamKind → List Value → List Value → Prop where
  | nil : Arguments rel [] [] []
  | cons {kind : ParamKind} {kinds : List ParamKind} {value value' : Value}
    {values values' : List Value} :
    rel.Argument kind value value' → Arguments rel kinds values values' →
    Arguments rel (kind :: kinds) (value :: values) (value' :: values')

/-- Corresponding arguments for one of the lists of parameters that a function takes. -/
def Selected (rel : Correspondence) : List (List ParamKind) → List Value → List Value → Prop
  | [], _, _ => False
  | [kinds], arguments, arguments' => rel.Arguments kinds arguments arguments'
  | kinds :: others, arguments, arguments' =>
    rel.Arguments kinds arguments arguments' ∨ rel.Selected others arguments arguments'

variable {rel : Correspondence}

theorem Arguments.selected {overloads : List (List ParamKind)} (member : kinds ∈ overloads)
    (related : rel.Arguments kinds arguments arguments') :
    rel.Selected overloads arguments arguments' := by
  fun_induction Selected rel overloads arguments arguments' with
  | case1 => exact absurd member List.not_mem_nil
  | case2 => exact List.mem_singleton.mp member ▸ related
  | case3 first others _ _ _ ih =>
    obtain rfl | later := List.mem_cons.mp member
    · exact .inl related
    · exact .inr (ih later related)

theorem argument_of_accepts {kind : ParamKind} (values : rel.Values value value')
    (accepted : kind.accepts value = true) : rel.Argument kind value value' := by
  cases kind with
  | any => exact values
  | number =>
    cases values with
    | number x => exact ⟨x, rfl, rfl⟩
    | _ => cases accepted
  | integer =>
    cases values with
    | number x => exact ⟨x, rfl, rfl, accepted⟩
    | _ => cases accepted
  | string =>
    cases values with
    | string text => exact ⟨text, rfl, rfl⟩
    | _ => cases accepted
  | array =>
    cases values with
    | array arrays => exact ⟨_, _, rfl, rfl, arrays⟩
    | _ => cases accepted
  | object =>
    cases values with
    | object objects => exact ⟨_, _, rfl, rfl, objects⟩
    | _ => cases accepted
  | function =>
    cases values with
    | function functions => exact ⟨_, _, rfl, rfl, functions⟩
    | _ => cases accepted

theorem accepts_eq (values : rel.Values value value') (kind : ParamKind) :
    kind.accepts value = kind.accepts value' := by
  cases values <;> cases kind <;> rfl

/-- The check of corresponding arguments comes out the same. -/
theorem checkArguments_eq (function : Native) (index : Nat) (kinds : List ParamKind)
    (values : List.Forall₂ rel.Values arguments arguments') :
    function.checkArguments index kinds arguments =
      function.checkArguments index kinds arguments' := by
  induction values generalizing index kinds with
  | nil => rfl
  | cons first _ ih =>
    cases kinds with
    | nil => rfl
    | cons kind kinds =>
      rw [Native.checkArguments, Native.checkArguments, accepts_eq first, ih,
        Native.argumentError, Native.argumentError, first.typeName_eq]

theorem arguments_of_checkArguments (values : List.Forall₂ rel.Values arguments arguments')
    (enough : kinds.length = arguments.length)
    (checked : function.checkArguments index kinds arguments = .ok ()) :
    rel.Arguments kinds arguments arguments' := by
  induction values generalizing index kinds with
  | nil =>
    cases List.length_eq_zero_iff.mp enough
    exact .nil
  | cons first _ ih =>
    cases kinds with
    | nil => cases enough
    | cons kind kinds =>
      rw [Native.checkArguments] at checked
      split at checked
      · next accepted =>
        exact .cons (argument_of_accepts first accepted) (ih (Nat.succ.inj enough) checked)
      · cases checked

end Correspondence

open Correspondence

/-! ## Errors about kinds of values -/

/-- Whether an error is about the kind of a value. -/
def ErrorKind.isTypeError : ErrorKind → Bool
  | .typeError _ _ => true
  | _ => false

/-- Something may be of the wrong kind that the check of arguments does not see: an item of an
array, an answer of a function, or a text that is no pattern. -/
def Native.Mistypes : Native → List Value → Prop
  | .math .min, [.array _] | .math .max, [.array _] | .arrays .sort, [.array _, _] => True
  | .strings .matchesPattern, [_, .string pattern] => Regex.ofText? pattern = none
  | .strings .replaceRegex, [_, .string pattern, _] => Regex.ofText? pattern = none
  | _, _ => False

/-- A failure is about the kind of a value only if it may be. -/
def Mild {α : Type} (mistypes : Prop) (result : Except ErrorKind α) : Prop :=
  ∀ kind, result = .error kind → kind.isTypeError = false ∨ mistypes

namespace Mild

variable {α β : Type} {mistypes : Prop}

theorem ok (value : α) : Mild mistypes (.ok value) := by
  rintro _ ⟨⟩

theorem error {kind : ErrorKind} (plain : kind.isTypeError = false) :
    Mild mistypes (.error kind : Except ErrorKind α) := by
  rintro _ ⟨⟩
  exact .inl plain

theorem bind {result : Except ErrorKind α} {next : α → Except ErrorKind β}
    (first : Mild mistypes result) (second : ∀ value, Mild mistypes (next value)) :
    Mild mistypes (result >>= next) := by
  cases result with
  | ok value => exact second value
  | error kind =>
    rintro _ ⟨⟩
    exact first kind rfl

theorem ite {condition : Prop} [Decidable condition] {first second : Except ErrorKind α}
    (whenTrue : Mild mistypes first) (whenFalse : Mild mistypes second) :
    Mild mistypes (if condition then first else second) := by
  split
  · exact whenTrue
  · exact whenFalse

variable {position start count : Int} {stop : Option Int} {length : Nat} {text old new : String}

theorem resolveIndex {allowEnd : Bool} : Mild mistypes (resolveIndex position length allowEnd) :=
  .ite (.ok _) (.error rfl)

theorem checkLength : Mild mistypes (checkLength length) := .ite (.ok _) (.error rfl)

theorem sliceBounds : Mild mistypes (sliceBounds length start stop) := by
  refine resolveIndex.bind fun start => ?_
  cases stop with
  | none => exact (ok _).bind fun _ => .ite (.ok _) (.error rfl)
  | some stop => exact resolveIndex.bind fun _ => .ite (.ok _) (.error rfl)

theorem sliceText : Mild mistypes (StringFunction.sliceText text start stop) :=
  sliceBounds.bind fun _ => .ok _

theorem charText : Mild mistypes (StringFunction.charText text position) :=
  resolveIndex.bind fun _ => .ok _

theorem replaceText : Mild mistypes (StringFunction.replaceText text old new) := by
  refine .ite ((error rfl).bind fun _ => ?_) ?_
  all_goals exact .ite (checkLength.bind fun _ => .ok _) (.ok _)

theorem repeatText : Mild mistypes (StringFunction.repeatText text count) := by
  refine .ite ((error rfl).bind fun _ => ?_) ?_
  all_goals exact .bind (checkLength.bind fun _ => .ok _) fun _ => .ok _

theorem regex {pattern : String} (may : Regex.ofText? pattern = none → mistypes) :
    Mild mistypes (StringFunction.regex pattern) := by
  unfold StringFunction.regex
  split
  · exact .ok _
  · next invalid => exact fun _ _ => .inr (may invalid)

theorem naturalLess (left right : Value) : Mild mistypes (ArrayFunction.naturalLess left right) := by
  unfold ArrayFunction.naturalLess
  split
  · exact .ok _
  · exact .ok _
  · exact .error rfl

end Mild

variable {rel : Correspondence} {phase : rel.Phase} {mistypes : Prop}
variable {errors : EvalError → EvalError → Prop}
variable (own : ∀ kind kind', rel.Complaints kind kind' → kind.isTypeError = false ∨ mistypes →
  errors (EvalError.ofKind kind) (EvalError.ofKind kind'))

/-! ## Sorting -/

namespace Sorting

variable {α β : Type} {Related : α → β → Prop} {less : α → α → Run Bool} {less' : β → β → Run Bool}
variable (compares : ∀ left right left' right', Related left left' → Related right right' →
  Corresponds rel phase errors Eq (less left right) (less' left' right'))

include compares

/-- Related items are sorted by one plan, which is about pairs of them. -/
theorem corresponds_plan {γ : Type} {plan : Plan (α × β) γ} {Result : γ → Prop}
    (ensures : plan.Ensures
      (fun later earlier => Related later.1 later.2 ∧ Related earlier.1 earlier.2)
      (fun _ _ _ => True) Result) :
    Corresponds rel phase errors (fun result result' => result = result' ∧ Result result)
      (plan.run fun later earlier => less later.1 earlier.1)
      (plan.run fun later earlier => less' later.2 earlier.2) := by
  induction plan with
  | done result => exact .pure ⟨rfl, ensures⟩
  | ask later earlier next ih =>
    obtain ⟨⟨ofLater, ofEarlier⟩, goes⟩ := ensures
    exact (compares _ _ _ _ ofLater ofEarlier).bindSame fun answer =>
      ih answer (goes answer trivial)

theorem corresponds_sort {items : List α} {items' : List β}
    (related : List.Forall₂ Related items items') :
    Corresponds rel phase errors (List.Forall₂ Related) (sort less items) (sort less' items') := by
  obtain ⟨pairs, rfl, rfl⟩ : ∃ pairs : List (α × β),
      items = pairs.map Prod.fst ∧ items' = pairs.map Prod.snd :=
    ⟨items.zip items', by rw [List.map_fst_zip (Nat.le_of_eq related.length_eq)],
      by rw [List.map_snd_zip (Nat.le_of_eq related.length_eq.symm)]⟩
  have ofPairs : ∀ pair ∈ pairs, Related pair.1 pair.2 := by
    simpa [List.forall₂_map_left_iff, List.forall₂_map_right_iff, List.forall₂_same] using related
  have asks : pairs.Pairwise fun earlier later =>
      Related later.1 later.2 ∧ Related earlier.1 earlier.2 :=
    List.pairwise_of_forall_mem_list fun _ earlier _ later => ⟨ofPairs _ later, ofPairs _ earlier⟩
  rw [sort_map less, sort_map less', ← bind_pure_comp, ← bind_pure_comp]
  refine (corresponds_plan compares (ensures_sort asks)).bind ?_
  rintro sorted _ ⟨rfl, arranged⟩
  refine .pure ?_
  simpa [List.forall₂_map_left_iff, List.forall₂_map_right_iff, List.forall₂_same] using
    fun first second member => ofPairs (first, second) (arranged.perm.mem_iff.mp member)

end Sorting

/-! ## Each library -/

section Failures

variable {α β : Type}

include own

theorem corresponds_failOwn {values : α → β → Prop} {kind : ErrorKind}
    (mild : kind.isTypeError = false ∨ mistypes) :
    Corresponds rel phase errors values (Run.fail kind) (Run.fail kind) :=
  .fail (own kind kind (.same kind) mild)

theorem corresponds_liftOwn {result : Except ErrorKind α} (mild : Mild mistypes result) :
    Corresponds rel phase errors Eq (Run.lift result) (Run.lift result) := by
  cases result with
  | ok value => exact .pure rfl
  | error kind => exact corresponds_failOwn own (mild kind rfl)

/-- A computation that goes on unless something is wrong. -/
theorem corresponds_failingIf {values : α → β → Prop} {wrong : Prop} [Decidable wrong]
    (message : String) {next : PUnit → Run α} {next' : PUnit → Run β}
    (goesOn : Corresponds rel phase errors values (next ⟨⟩) (next' ⟨⟩)) :
    Corresponds rel phase errors values
      (if wrong then Run.failWith message >>= next else next ⟨⟩)
      (if wrong then Run.failWith message >>= next' else next' ⟨⟩) := by
  refine .ite Iff.rfl (fun _ => ?_) fun _ => goesOn
  exact (corresponds_failOwn own (.inl rfl)).bind fun _ _ (_ : True) => goesOn

end Failures

theorem corresponds_integerArgument {x : Float} (integral : (Decimal.integer? x).isSome) :
    Corresponds rel phase errors Eq (integerArgument x) (integerArgument x) := by
  obtain ⟨index, found⟩ := Option.isSome_iff_exists.mp integral
  have known : integerArgument x = pure index := by
    simp only [integerArgument, Value.asInteger, Value.asNumber, bind, Except.bind, found]
    rfl
  rw [known]
  exact .pure rfl

theorem MathFunction.numbers_eq (related : List.Forall₂ rel.Values items items') :
    numbers items = numbers items' := by
  have mapped : items.mapM Value.asNumber = items'.mapM Value.asNumber := by
    induction related with
    | nil => rfl
    | cons first _ ih => rw [List.mapM_cons, List.mapM_cons, first.asNumber_eq, ih]
  rw [numbers, numbers, mapped]
  cases related <;> rfl

variable [lawful : rel.Lawful]

section Libraries

include own

theorem MathFunction.corresponds_body (function : MathFunction)
    (may : (Native.math function).Mistypes arguments → mistypes)
    (related : rel.Selected function.signature.overloads arguments arguments') :
    Corresponds rel phase errors rel.Values (function.body arguments)
      (function.body arguments') := by
  have onItems (mistyped : mistypes) {ref ref' : ArrayRef} (arrays : rel.Arrays ref ref')
      (result : List Float → Float) :
      Corresponds rel phase errors rel.Values
        (Run.arrayOf ref >>= fun items => Run.lift (numbers items.toList) >>= fun values =>
          pure (.number (result values)))
        (Run.arrayOf ref' >>= fun items => Run.lift (numbers items.toList) >>= fun values =>
          pure (.number (result values))) := by
    refine (corresponds_arrayOf arrays).bind fun items items' found => ?_
    rw [numbers_eq found]
    refine (corresponds_liftOwn own fun _ _ => .inr mistyped).bindSame fun values => ?_
    exact .pure (.number _)
  cases function with
  | abs | floor | ceil | round | trunc | sign | sin | cos | tan | exp =>
    obtain _ | ⟨⟨x, rfl, rfl⟩, ⟨⟩⟩ := related
    exact .pure (.number _)
  | sqrt | log =>
    obtain _ | ⟨⟨x, rfl, rfl⟩, ⟨⟩⟩ := related
    unfold body
    refine corresponds_failingIf own _ ?_
    exact .pure (.number _)
  | pow =>
    obtain _ | ⟨⟨x, rfl, rfl⟩, _ | ⟨⟨y, rfl, rfl⟩, ⟨⟩⟩⟩ := related
    exact .pure (.number _)
  | clamp =>
    obtain _ | ⟨⟨x, rfl, rfl⟩, _ | ⟨⟨low, rfl, rfl⟩, _ | ⟨⟨high, rfl, rfl⟩, ⟨⟩⟩⟩⟩ := related
    unfold body
    refine corresponds_failingIf own _ ?_
    exact .pure (.number _)
  | min | max =>
    obtain related | related := related
    · obtain _ | ⟨⟨x, rfl, rfl⟩, _ | ⟨⟨y, rfl, rfl⟩, ⟨⟩⟩⟩ := related
      exact .pure (.number _)
    · obtain _ | ⟨⟨_, _, rfl, rfl, arrays⟩, ⟨⟩⟩ := related
      exact onItems (may trivial) arrays _

theorem StringFunction.corresponds_body (function : StringFunction)
    (may : (Native.strings function).Mistypes arguments → mistypes)
    (related : rel.Selected function.signature.overloads arguments arguments') :
    Corresponds rel phase errors rel.Values (function.body arguments)
      (function.body arguments') := by
  have lifted {α : Type} {result : Except ErrorKind α} (mild : Mild mistypes result)
      {value : α → Value} (plain : ∀ found, rel.Values (value found) (value found)) :
      Corresponds rel phase errors rel.Values
        (Run.lift result >>= fun found => pure (value found))
        (Run.lift result >>= fun found => pure (value found)) := by
    refine (corresponds_liftOwn own mild).bindSame fun found => ?_
    exact .pure (plain found)
  cases function with
  | length =>
    obtain _ | ⟨⟨text, rfl, rfl⟩, ⟨⟩⟩ := related
    exact .pure (.number _)
  | upper | lower | trim =>
    obtain _ | ⟨⟨text, rfl, rfl⟩, ⟨⟩⟩ := related
    exact .pure (.string _)
  | contains | startsWith | endsWith =>
    obtain _ | ⟨⟨text, rfl, rfl⟩, _ | ⟨⟨other, rfl, rfl⟩, ⟨⟩⟩⟩ := related
    exact .pure (.boolean _)
  | indexOf =>
    obtain _ | ⟨⟨text, rfl, rfl⟩, _ | ⟨⟨needle, rfl, rfl⟩, ⟨⟩⟩⟩ := related
    exact .pure (.number _)
  | substring =>
    obtain related | related := related
    · obtain _ | ⟨⟨text, rfl, rfl⟩, _ | ⟨⟨_, rfl, rfl, start⟩, ⟨⟩⟩⟩ := related
      refine (corresponds_integerArgument start).bindSame fun start => ?_
      exact lifted .sliceText .string
    · obtain _ | ⟨⟨text, rfl, rfl⟩, _ | ⟨⟨_, rfl, rfl, start⟩, _ | ⟨⟨_, rfl, rfl, stop⟩, ⟨⟩⟩⟩⟩ :=
        related
      refine (corresponds_integerArgument start).bindSame fun start => ?_
      refine (corresponds_integerArgument stop).bindSame fun stop => ?_
      exact lifted .sliceText .string
  | replace =>
    obtain _ | ⟨⟨text, rfl, rfl⟩, _ | ⟨⟨old, rfl, rfl⟩, _ | ⟨⟨new, rfl, rfl⟩, ⟨⟩⟩⟩⟩ := related
    exact lifted .replaceText .string
  | split =>
    obtain _ | ⟨⟨text, rfl, rfl⟩, _ | ⟨⟨separator, rfl, rfl⟩, ⟨⟩⟩⟩ := related
    refine corresponds_newArray (items_toArray ?_)
    rw [List.forall₂_same]
    intro value member
    obtain ⟨part, _, rfl⟩ := List.mem_map.mp member
    exact .string _
  | repeated =>
    obtain _ | ⟨⟨text, rfl, rfl⟩, _ | ⟨⟨_, rfl, rfl, count⟩, ⟨⟩⟩⟩ := related
    refine (corresponds_integerArgument count).bindSame fun count => ?_
    exact lifted .repeatText .string
  | charAt =>
    obtain _ | ⟨⟨text, rfl, rfl⟩, _ | ⟨⟨_, rfl, rfl, index⟩, ⟨⟩⟩⟩ := related
    refine (corresponds_integerArgument index).bindSame fun index => ?_
    exact lifted .charText .string
  | matchesPattern =>
    obtain _ | ⟨⟨text, rfl, rfl⟩, _ | ⟨⟨pattern, rfl, rfl⟩, ⟨⟩⟩⟩ := related
    exact lifted (.regex may) fun _ => .boolean _
  | replaceRegex =>
    obtain _ | ⟨⟨text, rfl, rfl⟩, _ | ⟨⟨pattern, rfl, rfl⟩, _ | ⟨⟨new, rfl, rfl⟩, ⟨⟩⟩⟩⟩ := related
    exact lifted (.regex may) fun _ => .string _

theorem ObjectFunction.corresponds_body (function : ObjectFunction)
    (keeps : rel.Guarded phase → function ≠ .remove)
    (related : rel.Selected function.signature.overloads arguments arguments') :
    Corresponds rel phase errors rel.Values (function.body arguments)
      (function.body arguments') := by
  cases function with
  | keys =>
    obtain _ | ⟨⟨_, _, rfl, rfl, objects⟩, ⟨⟩⟩ := related
    refine (corresponds_objectOf objects).bind fun members members' found => ?_
    refine corresponds_newArray (items_toArray ?_)
    rw [found.keys_eq, List.forall₂_same]
    intro value member
    obtain ⟨key, _, rfl⟩ := List.mem_map.mp member
    exact .string key
  | values =>
    obtain _ | ⟨⟨_, _, rfl, rfl, objects⟩, ⟨⟩⟩ := related
    exact (corresponds_objectOf objects).bind fun _ _ found =>
      corresponds_newArray (items_toArray found.values)
  | has =>
    obtain _ | ⟨⟨_, _, rfl, rfl, objects⟩, _ | ⟨⟨key, rfl, rfl⟩, ⟨⟩⟩⟩ := related
    refine (corresponds_objectOf objects).bind fun members members' found => ?_
    rw [found.contains_eq]
    exact .pure (.boolean _)
  | remove =>
    obtain _ | ⟨⟨_, _, rfl, rfl, objects⟩, _ | ⟨⟨key, rfl, rfl⟩, ⟨⟩⟩⟩ := related
    refine (corresponds_objectOf objects).bind fun members members' found => ?_
    have value := found.get? key
    generalize members.get? key = old, members'.get? key = old' at value
    cases value with
    | some values =>
      refine (Corresponds.change fun _ _ stores => lawful.modifyObject stores objects
        (fun _ _ contents => contents.erase key) fun guarded => absurd rfl (keeps guarded)).bind
          fun _ _ _ => ?_
      exact .pure values
    | none => exact corresponds_failOwn own (.inl rfl)
  | size =>
    obtain _ | ⟨⟨_, _, rfl, rfl, objects⟩, ⟨⟩⟩ := related
    refine (corresponds_objectOf objects).bind fun members members' found => ?_
    rw [found.size_eq]
    exact .pure (.number _)
  | entries =>
    obtain _ | ⟨⟨_, _, rfl, rfl, objects⟩, ⟨⟩⟩ := related
    refine (corresponds_objectOf objects).bind fun members members' found => ?_
    have listed : Corresponds rel phase errors (List.Forall₂ rel.Values)
        (members.entries.mapM entryArray) (members'.entries.mapM entryArray) := by
      refine .mapM found fun entry entry' entries => corresponds_newArray ?_
      rw [entries.1]
      exact .cons (.string _) (.cons entries.2 .nil)
    exact listed.bind fun _ _ pairs => corresponds_newArray (items_toArray pairs)
  | merge =>
    obtain _ | ⟨⟨_, _, rfl, rfl, targets⟩, _ | ⟨⟨_, _, rfl, rfl, sources⟩, ⟨⟩⟩⟩ := related
    refine (corresponds_objectOf sources).bind fun members members' found => ?_
    refine (Corresponds.change fun _ _ stores => lawful.modifyObject stores targets
      (fun _ _ contents => contents.insertAll found) fun _ =>
        OrderedMap.keys_prefix_insertAll _ _).bind fun _ _ _ => ?_
    exact .pure (.object targets)

theorem JsonFunction.corresponds_body (function : JsonFunction)
    (related : rel.Selected function.signature.overloads arguments arguments') :
    Corresponds rel phase errors rel.Values (function.body arguments)
      (function.body arguments') := by
  have written {value value' : Value} (values : rel.Values value value') :
      Corresponds rel phase errors Eq (document value) (document value') := by
    refine Corresponds.read.bind fun store store' stores => ?_
    rw [lawful.toJson stores values]
    split
    · exact .pure rfl
    · exact corresponds_failOwn own (.inl rfl)
  cases function with
  | stringify | pretty =>
    obtain _ | ⟨values, ⟨⟩⟩ := related
    unfold body
    refine (written values).bindSame fun json => ?_
    exact .pure (.string _)
  | parse =>
    obtain _ | ⟨⟨text, rfl, rfl⟩, ⟨⟩⟩ := related
    simp only [body]
    split
    · exact .changeGet fun _ _ stores => ofJson_corresponds _ stores
    · exact corresponds_failOwn own (.inl rfl)

theorem DebugFunction.corresponds_body (spans : rel.Spans site.span site'.span)
    (function : DebugFunction)
    (related : rel.Selected function.signature.overloads arguments arguments') :
    Corresponds rel phase errors rel.Values (function.body site arguments)
      (function.body site' arguments') := by
  have checked {condition condition' : Value} (values : rel.Values condition condition')
      (message : String) :
      Corresponds rel phase errors rel.Values (check site condition message)
        (check site' condition' message) := by
    refine (corresponds_isTruthy values).bindSame fun holds => ?_
    refine .ite Iff.rfl (fun _ => .pure .null) fun _ => ?_
    exact .fail (own _ _ (.runtime (.placed message spans)) (.inl rfl))
  cases function with
  | log =>
    obtain _ | ⟨values, ⟨⟩⟩ := related
    unfold body
    refine Corresponds.read.bind fun store store' stores => ?_
    rw [lawful.displayText stores values]
    refine (Corresponds.change fun _ _ stores => lawful.log _ stores spans).bind fun _ _ _ => ?_
    exact .pure .null
  | assert =>
    obtain related | related := related
    · obtain _ | ⟨values, ⟨⟩⟩ := related
      exact checked values _
    · obtain _ | ⟨values, _ | ⟨⟨message, rfl, rfl⟩, ⟨⟩⟩⟩ := related
      exact checked values _

end Libraries

/-! ## Functions that call back -/

section Callbacks

variable (calls : ∀ function function' arguments arguments',
  rel.Values function function' → List.Forall₂ rel.Values arguments arguments' →
  Corresponds rel phase errors rel.Values (site.call function arguments)
    (site'.call function' arguments'))

variable {store store' : Store}

namespace ArrayFunction

variable {callback callback' : Value} (callbacks : rel.Values callback callback')

omit lawful in
include own calls callbacks in
theorem corresponds_comparatorLess (mistyped : mistypes) (left right left' right' : Value)
    (lefts : rel.Values left left') (rights : rel.Values right right') :
    Corresponds rel phase errors Eq (comparatorLess site callback left right)
      (comparatorLess site' callback' left' right') := by
  refine (calls _ _ _ _ callbacks (.cons lefts (.cons rights .nil))).bind fun _ _ answers => ?_
  rw [answers.asNumber_eq]
  refine (corresponds_liftOwn own fun _ _ => .inr mistyped).bindSame fun x => ?_
  exact .pure rfl

/-- Calls with corresponding items that gave corresponding values. -/
structure Calls (rel : Correspondence) (call call' : ItemCall) : Prop where
  item : rel.Values call.item call'.item
  value : rel.Values call.value call'.value
  accepted : call.accepted = call'.accepted

include calls callbacks in
theorem corresponds_callEach (function : ArrayFunction)
    (related : List.Forall₂ rel.Values items items') :
    Corresponds rel phase errors (List.Forall₂ (Calls rel))
      (callEach site callback function.decides items)
      (callEach site' callback' function.decides items') := by
  induction related with
  | nil => exact .pure .nil
  | cons first _ ih =>
    refine (calls _ _ _ _ callbacks (.cons first .nil)).bind fun _ _ values => ?_
    refine (corresponds_isTruthy values).bindSame fun accepted => ?_
    refine .ite (by cases function <;> rfl) (fun _ => .pure (.cons ⟨first, values, rfl⟩ .nil))
      fun _ => ih.bind fun _ _ rest => ?_
    exact .pure (.cons ⟨first, values, rfl⟩ rest)

theorem corresponds_finish {function : ArrayFunction} (callsBack : function ∈ callingBack)
    {found found' : List ItemCall} (related : List.Forall₂ (Calls rel) found found') :
    Corresponds rel phase errors rel.Values (function.finish found) (function.finish found') := by
  have collect {field : ItemCall → Value} {found found' : List ItemCall}
      (fields : ∀ ⦃call call'⦄, Calls rel call call' → rel.Values (field call) (field call'))
      (related : List.Forall₂ (Calls rel) found found') :
      Corresponds rel phase errors rel.Values
        (Run.newArray (found.map field).toArray) (Run.newArray (found'.map field).toArray) :=
    corresponds_newArray (items_toArray (List.rel_map fields related))
  cases function with
  | map => exact collect (fun _ _ => Calls.value) related
  | filter =>
    exact collect (fun _ _ => Calls.item)
      (List.rel_filter (fun _ _ same => Bool.eq_iff_iff.mp same.accepted) related)
  | find =>
    refine .pure ?_
    induction related with
    | nil => exact .null
    | cons first _ ih =>
      rw [List.find?_cons, List.find?_cons, first.accepted]
      split
      · exact first.item
      · exact ih
  | any | all =>
    have answers : found.any (·.accepted) = found'.any (·.accepted) ∧
        found.all (·.accepted) = found'.all (·.accepted) := by
      induction related with
      | nil => exact ⟨rfl, rfl⟩
      | cons first _ ih => simp only [List.any_cons, List.all_cons, first.accepted, ih, and_self]
    simp only [finish, answers]
    exact .pure (.boolean _)
  | _ => simp [callingBack] at callsBack

end ArrayFunction

include own

theorem ArrayFunction.corresponds_sliceItems {items items' : Array Value}
    (related : rel.Items items items') (start : Int) (stop : Option Int) :
    Corresponds rel phase errors rel.Values (sliceItems items start stop)
      (sliceItems items' start stop) := by
  unfold sliceItems
  rw [related.size_eq]
  refine (corresponds_liftOwn own .sliceBounds).bindSame fun bounds => ?_
  exact corresponds_newArray (related.extract _ _)

omit lawful in
/-- The natural order of values depends on plain values alone. -/
theorem ArrayFunction.corresponds_naturalLess (left right left' right' : Value)
    (lefts : rel.Values left left') (rights : rel.Values right right') :
    Corresponds rel phase errors Eq (Run.lift (naturalLess left right))
      (Run.lift (naturalLess left' right')) := by
  have same : naturalLess left right = naturalLess left' right' := by
    cases lefts <;> cases rights <;> rfl
  rw [same]
  exact corresponds_liftOwn own (.naturalLess _ _)

omit own in
theorem ArrayFunction.position?_eq (stores : rel.Stores phase store store')
    (related : List.Forall₂ rel.Values items items') (values : rel.Values value value') :
    position? store items value = position? store' items' value' := by
  rw [position?, position?]
  induction related with
  | nil => rfl
  | cons first _ ih =>
    rw [List.findIdx?_cons, List.findIdx?_cons, ih, lawful.equal stores first values]

omit own in
theorem ArrayFunction.joinItems_alike (stores : rel.Stores phase store store')
    (related : List.Forall₂ rel.Values items items') (separator : String) :
    joinItems store separator items = joinItems store' separator items' := by
  have texts : items.map store.displayText = items'.map store'.displayText :=
    forall₂_map_eq related fun _ _ => lawful.displayText stores
  rw [joinItems_eq, joinItems_eq, texts]

include calls

theorem ArrayFunction.corresponds_body (function : ArrayFunction)
    (may : (Native.arrays function).Mistypes arguments → mistypes)
    (related : rel.Selected function.signature.overloads arguments arguments') :
    Corresponds rel phase errors rel.Values (function.body site arguments)
      (function.body site' arguments') := by
  have changed {ref ref' : ArrayRef} (arrays : rel.Arrays ref ref')
      {change change' : Array Value → Array Value}
      (keeps : ∀ items items', rel.Items items items' → rel.Items (change items) (change' items'))
      {value value' : Value} (values : rel.Values value value') :
      Corresponds rel phase errors rel.Values
        (modify (fun store => store.modifyArray ref change) >>= fun _ => pure value)
        (modify (fun store => store.modifyArray ref' change') >>= fun _ => pure value') :=
    (Corresponds.change fun _ _ stores => lawful.modifyArray stores arrays keeps).bind
      fun _ _ _ => .pure values
  cases function with
  | length =>
    obtain _ | ⟨⟨_, _, rfl, rfl, arrays⟩, ⟨⟩⟩ := related
    refine (corresponds_arrayOf arrays).bind fun items items' found => ?_
    rw [found.size_eq]
    exact .pure (.number _)
  | push =>
    obtain _ | ⟨⟨_, _, rfl, rfl, arrays⟩, _ | ⟨values, ⟨⟩⟩⟩ := related
    refine (corresponds_arrayOf arrays).bind fun items items' found => ?_
    rw [found.size_eq]
    exact changed arrays (fun _ _ contents => contents.push values) (.number _)
  | pop =>
    obtain _ | ⟨⟨_, _, rfl, rfl, arrays⟩, ⟨⟩⟩ := related
    refine (corresponds_arrayOf arrays).bind fun items items' found => ?_
    have last := found.back?
    generalize items.back? = item, items'.back? = item' at last
    cases last with
    | some values => exact changed arrays (fun _ _ contents => contents.pop) values
    | none => exact corresponds_failOwn own (.inl rfl)
  | insert =>
    obtain _ | ⟨⟨_, _, rfl, rfl, arrays⟩, _ | ⟨⟨_, rfl, rfl, index⟩, _ | ⟨values, ⟨⟩⟩⟩⟩ := related
    refine (corresponds_arrayOf arrays).bind fun items items' found => ?_
    refine (corresponds_integerArgument index).bindSame fun index => ?_
    rw [found.size_eq]
    refine (corresponds_liftOwn own .resolveIndex).bindSame fun position => ?_
    exact changed arrays (fun _ _ contents => contents.insertIdxIfInBounds _ values) .null
  | removeAt =>
    obtain _ | ⟨⟨_, _, rfl, rfl, arrays⟩, _ | ⟨⟨_, rfl, rfl, index⟩, ⟨⟩⟩⟩ := related
    refine (corresponds_arrayOf arrays).bind fun items items' found => ?_
    refine (corresponds_integerArgument index).bindSame fun index => ?_
    rw [found.size_eq]
    refine (corresponds_liftOwn own .resolveIndex).bindSame fun position => ?_
    refine (corresponds_arrayOf arrays).bind fun items items' found => ?_
    exact changed arrays (fun _ _ contents => contents.eraseIdxIfInBounds _) (found.getD _)
  | indexOf =>
    obtain _ | ⟨⟨_, _, rfl, rfl, arrays⟩, _ | ⟨values, ⟨⟩⟩⟩ := related
    refine Corresponds.read.bind fun store store' stores => ?_
    rw [position?_eq stores (lawful.array stores arrays) values]
    exact .pure (.number _)
  | contains =>
    obtain _ | ⟨⟨_, _, rfl, rfl, arrays⟩, _ | ⟨values, ⟨⟩⟩⟩ := related
    refine Corresponds.read.bind fun store store' stores => ?_
    rw [any_equal_eq stores (lawful.array stores arrays) values]
    exact .pure (.boolean _)
  | slice =>
    obtain related | related := related
    · obtain _ | ⟨⟨_, _, rfl, rfl, arrays⟩, _ | ⟨⟨_, rfl, rfl, start⟩, ⟨⟩⟩⟩ := related
      refine (corresponds_arrayOf arrays).bind fun items items' found => ?_
      refine (corresponds_integerArgument start).bindSame fun start => ?_
      exact corresponds_sliceItems own found _ _
    · obtain _ | ⟨⟨_, _, rfl, rfl, arrays⟩, _ | ⟨⟨_, rfl, rfl, start⟩, _ | ⟨⟨_, rfl, rfl, stop⟩,
        ⟨⟩⟩⟩⟩ := related
      refine (corresponds_arrayOf arrays).bind fun items items' found => ?_
      refine (corresponds_integerArgument start).bindSame fun start => ?_
      refine (corresponds_integerArgument stop).bindSame fun stop => ?_
      exact corresponds_sliceItems own found _ _
  | reverse =>
    obtain _ | ⟨⟨_, _, rfl, rfl, arrays⟩, ⟨⟩⟩ := related
    exact (corresponds_arrayOf arrays).bind fun _ _ found => corresponds_newArray found.reverse
  | sort =>
    obtain related | related := related
    · obtain _ | ⟨⟨_, _, rfl, rfl, arrays⟩, ⟨⟩⟩ := related
      refine (corresponds_arrayOf arrays).bind fun items items' found => ?_
      have sorts : Corresponds rel phase errors (List.Forall₂ rel.Values) _ _ :=
        Sorting.corresponds_sort (corresponds_naturalLess own) found
      exact sorts.bind fun _ _ sorted => corresponds_newArray (items_toArray sorted)
    · obtain _ | ⟨⟨_, _, rfl, rfl, arrays⟩, _ | ⟨⟨_, _, rfl, rfl, functions⟩, ⟨⟩⟩⟩ := related
      refine (corresponds_arrayOf arrays).bind fun items items' found => ?_
      have sorts : Corresponds rel phase errors (List.Forall₂ rel.Values) _ _ :=
        Sorting.corresponds_sort
          (corresponds_comparatorLess own calls (.function functions) (may trivial)) found
      exact sorts.bind fun _ _ sorted => corresponds_newArray (items_toArray sorted)
  | map | filter | find | any | all =>
    obtain _ | ⟨⟨_, _, rfl, rfl, arrays⟩, _ | ⟨⟨_, _, rfl, rfl, functions⟩, ⟨⟩⟩⟩ := related
    rw [body_of_callingBack (by decide), body_of_callingBack (by decide)]
    refine (corresponds_arrayOf arrays).bind fun items items' found => ?_
    exact (corresponds_callEach calls (.function functions) _ found).bind
      fun _ _ => corresponds_finish (by decide)
  | join =>
    obtain _ | ⟨⟨_, _, rfl, rfl, arrays⟩, _ | ⟨⟨separator, rfl, rfl⟩, ⟨⟩⟩⟩ := related
    refine Corresponds.read.bind fun store store' stores => ?_
    rw [joinItems_alike stores (lawful.array stores arrays), joinItems_eq]
    refine (corresponds_liftOwn own (.ite (.ok _) (.error rfl))).bindSame fun joined => ?_
    exact .pure (.string _)
  | fill =>
    obtain _ | ⟨⟨_, _, rfl, rfl, arrays⟩, _ | ⟨values, ⟨⟩⟩⟩ := related
    exact changed arrays (fun _ _ contents => contents.fill values) (.array arrays)

/-- A native function that is given corresponding arguments runs alike. -/
theorem Native.corresponds_body (spans : rel.Spans site.span site'.span) (function : Native)
    (keeps : rel.Guarded phase → function ≠ .objects .remove)
    (may : function.Mistypes arguments → mistypes)
    (related : rel.Selected function.overloads arguments arguments') :
    Corresponds rel phase errors rel.Values (function.body site arguments)
      (function.body site' arguments') := by
  cases function with
  | math function => exact function.corresponds_body own may related
  | strings function => exact function.corresponds_body own may related
  | arrays function => exact function.corresponds_body own calls may related
  | objects function =>
    exact function.corresponds_body own (fun guarded => mt (congrArg _) (keeps guarded)) related
  | json function => exact function.corresponds_body own related
  | debug function => exact function.corresponds_body own spans related

end Callbacks

/-! ## Dispatch -/

theorem Native.reportable_of_checkArguments {checked : Prop} {kind : ErrorKind}
    (failed : function.checkArguments index kinds arguments = .error kind) :
    kind.Reportable checked := by
  fun_induction Native.checkArguments function index kinds arguments with
  | case1 index kind kinds value values accepted ih => exact ih failed
  | case2 =>
    cases failed
    exact ⟨rfl, fun _ => by simp [argumentError, ErrorKind.internalFaults]⟩
  | case3 => cases failed

/-- A native call fails where it is made, or with what it wraps. -/
theorem Native.corresponds_dispatch (function : Native)
    (calls : ∀ callee callee' arguments arguments', rel.Values callee callee' →
      List.Forall₂ rel.Values arguments arguments' →
      rel.Runs phase rel.Values (site.call callee arguments) (site'.call callee' arguments'))
    (spans : rel.Spans site.span site'.span)
    (keeps : rel.Guarded phase → function ≠ .objects .remove)
    (values : List.Forall₂ rel.Values arguments arguments') :
    rel.Runs phase rel.Values
      (function.dispatch site arguments) (function.dispatch site' arguments') := by
  unfold Native.dispatch
  rw [← values.length_eq]
  cases overload : function.overload? arguments.length with
  | none => exact .failAt ⟨rfl, fun _ => by simp [ErrorKind.internalFaults]⟩ spans
  | some kinds =>
    have selected := List.mem_of_find?_eq_some overload
    have enough : kinds.length = arguments.length := by
      simpa using List.find?_some overload
    dsimp only
    rw [← checkArguments_eq function 1 kinds values]
    cases passed : function.checkArguments 1 kinds arguments with
    | error kind => exact .failAt (Native.reportable_of_checkArguments passed) spans
    | ok _ =>
      have related := arguments_of_checkArguments values enough passed
      refine Corresponds.mapError ?_
        fun error error' (errors : rel.NativeErrors error error') => errors.report function spans
      refine function.corresponds_body (fun kind kind' complaints _ => ?_)
        (fun callee callee' arguments arguments' callees related => ?_) spans keeps id
        (related.selected selected)
      · exact .inl ⟨kind, kind', complaints, rfl, rfl⟩
      · exact (calls _ _ _ _ callees related).imp (fun _ _ => .inr) fun _ _ => id

end PatchScript
