import PatchScript.Error

/-!
# The size limit of texts and arrays

Operations that check what they build refuse a text of more bytes, or an array of
more elements, than the limit.
-/

namespace PatchScript

/-- The greatest length of a text in bytes and of an array in elements. -/
def maxSequenceLength : Nat := 16777216

/-- Refuse a length above the limit. -/
def checkLength (length : Nat) : Except ErrorKind Unit :=
  if length ≤ maxSequenceLength then .ok ()
  else .error (.sizeLimitExceeded maxSequenceLength)

/-- How often to repeat something of a length; what is empty is not repeated. -/
def repetitions (length count : Nat) : Except ErrorKind Nat := do
  checkLength (length * count)
  return if length = 0 then 0 else count

end PatchScript
