import PatchScript.Native.Dispatch

/-!
# Where errors are

Operators, access to values and native functions fail without a place, and whoever
evaluates them supplies it.  An error that has left an expression is located: every
layer has a place, every layer that wraps another is that of a call or of the loading of
a library, and the root cause is neither.

Some causes are faults of the interpreter rather than of the program.  They are ruled
out for programs that are checked, that is, well formed.
-/

namespace PatchScript

namespace ErrorKind

/-- Whether an error of this kind wraps another. -/
def isWrapper : ErrorKind → Bool
  | .inCall _ | .inLibrary _ => true
  | _ => false

/-- The causes that only a program that is not well formed can have. -/
def internalFaults : List ErrorKind :=
  [.unparsedStatement, .runtime "break or continue outside of a loop",
    .runtime "function declaration without a name"]

/-- What can be the root cause of an error. -/
structure Reportable (checked : Prop) (kind : ErrorKind) : Prop where
  /-- It wraps nothing. -/
  cause : kind.isWrapper = false
  /-- A checked program has no internal faults. -/
  noFault : checked → kind ∉ internalFaults

end ErrorKind

namespace EvalError

variable {checked : Prop}

/-- Every layer of an error has a place, the outer layers wrap, and the root cause can be
reported. -/
structure Located (checked : Prop) (error : EvalError) : Prop where
  placed : ∀ layer ∈ error.layers, layer.span.isSome
  wrapping : ∀ layer ∈ error.layers.dropLast, layer.kind.isWrapper = true
  root : error.rootCause.kind.Reportable checked

/-- An error that still has no place. -/
def Bare (checked : Prop) (error : EvalError) : Prop :=
  ∃ kind : ErrorKind, kind.Reportable checked ∧ error = ofKind kind

theorem located_ofKindAt {kind : ErrorKind} (reportable : kind.Reportable checked) (span : Span) :
    (ofKindAt kind span).Located checked where
  placed := by simp [layers, ofKindAt]
  wrapping := by simp [layers, ofKindAt]
  root := reportable

theorem Located.wrap {error : EvalError} (located : error.Located checked) {kind : ErrorKind}
    (wraps : kind.isWrapper = true) (span : Span) : (error.wrap kind span).Located checked where
  placed := by
    intro layer member
    obtain rfl | inner := List.mem_cons.mp member
    · rfl
    · exact located.placed layer inner
  wrapping := by
    intro layer member
    have layers : (error.wrap kind span).layers.dropLast =
        { kind := kind, span := some span } :: error.layers.dropLast := rfl
    rw [layers] at member
    obtain rfl | inner := List.mem_cons.mp member
    · exact wraps
    · exact located.wrapping layer inner
  root := by
    have same : (error.wrap kind span).rootCause = error.rootCause := by
      simp [rootCause, EvalError.wrap, EvalError.layers, List.getLast?_cons]
    rw [same]
    exact located.root

end EvalError

/-- A native function reports its own errors where it was called, and wraps those of the
functions it was given. -/
theorem Native.located_reportError {checked : Prop} (function : Native) (span : Span)
    {error : EvalError}
    (expected : (∃ kind, error = EvalError.ofKind kind) ∨ error.Located checked) :
    (function.reportError span error).Located checked := by
  obtain ⟨kind, rfl⟩ | located := expected
  · have reportable (reason : String) :
        (ErrorKind.nativeError function.qualifiedName reason).Reportable checked :=
      ⟨rfl, fun _ => by simp [ErrorKind.internalFaults]⟩
    cases kind with
    | runtime message => exact EvalError.located_ofKindAt (reportable _) span
    | _ => exact EvalError.located_ofKindAt (reportable _) span
  · have placed : error.outer.span.isSome := located.placed _ (List.mem_cons_self ..)
    obtain ⟨⟨kind, place⟩, causes⟩ := error
    cases place with
    | none => cases placed
    | some place =>
      have wraps : (ErrorKind.inCall ("'" ++ function.qualifiedName ++ "'")).isWrapper = true := rfl
      cases kind <;> exact located.wrap wraps span

end PatchScript
