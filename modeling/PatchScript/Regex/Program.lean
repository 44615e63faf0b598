import PatchScript.Regex.Pattern

/-!
# Programs of patterns

A pattern is matched by a program of instructions that name their successors.
Each pattern is compiled in front of an instruction that follows its match.
-/

namespace PatchScript
namespace Regex

/-- One step of matching. -/
inductive Instruction where
  /-- Read a character of a set. -/
  | consume (set : CharSet) (next : Nat)
  /-- Try the first successor, then the second. -/
  | split (first second : Nat)
  | save (slot next : Nat)
  /-- Go on if a condition holds. -/
  | check (assertion : Assertion) (next : Nat)
  | accept
deriving Inhabited

/-- The instructions so far. -/
abbrev Code := Array Instruction

/-- Add an instruction and name it. -/
def emit (instruction : Instruction) : StateM Code Nat :=
  modifyGet fun code => (code.size, code.push instruction)

/-- Choose between a body and what follows it. -/
def chooseBody (greedy : Bool) (body next : Nat) : Instruction :=
  if greedy then .split body next else .split next body

/-- Compile a body a number of times in a row. -/
def compileTimes (compileBody : Nat → StateM Code Nat) : Nat → Nat → StateM Code Nat
  | 0, next => return next
  | count + 1, next => do
    compileTimes compileBody count (← compileBody next)

/-- Compile a body that may be taken up to a number of times; leaving it out
leads to `exit`. -/
def compileOptional (compileBody : Nat → StateM Code Nat) (greedy : Bool)
    (exit : Nat) : Nat → Nat → StateM Code Nat
  | 0, next => return next
  | count + 1, next => do
    let body ← compileBody next
    let entry ← emit (chooseBody greedy body exit)
    compileOptional compileBody greedy exit count entry

/-- A compiled loop. -/
structure Loop where
  /-- Where its body starts. -/
  body : Nat
  /-- The choice after the body, between another turn and leaving. -/
  choice : Nat

/-- Compile a body that may be taken again and again. -/
def compileLoop (compileBody : Nat → StateM Code Nat) (greedy : Bool)
    (next : Nat) : StateM Code Loop := do
  let choice ← emit .accept
  let body ← compileBody choice
  modify fun code => code.setIfInBounds choice (chooseBody greedy body next)
  return { body := body, choice := choice }

/-- Compile characters one after the other. -/
def compileText : List Char → Nat → StateM Code Nat
  | [], next => return next
  | c :: text, next => do
    let rest ← compileText text next
    emit (.consume (.singleton c) rest)

/-- Compile a pattern in front of an instruction. -/
def Pattern.compile : Pattern → Nat → StateM Code Nat
  | .empty, next => return next
  | .literal text, next => compileText text next
  | .char set, next => emit (.consume set next)
  | .assertion condition, next => emit (.check condition next)
  | .capture index body, next => do
    let close ← emit (.save (2 * index + 1) next)
    let inner ← body.compile close
    emit (.save (2 * index) inner)
  | .sequence first rest, next => do
    let second ← rest.compile next
    first.compile second
  | .either first rest, next => do
    let second ← rest.compile next
    let first ← first.compile next
    emit (.split first second)
  | .repetition body least most greedy, next => do
    match most with
    | some most =>
      let optional ← compileOptional body.compile greedy next (most - least) next
      compileTimes body.compile least optional
    | none =>
      let loop ← compileLoop body.compile greedy next
      match least with
      | 0 =>
        -- A way that comes back to a choice without reading is given up, so a body
        -- that may read nothing is entered through a choice of its own.
        if body.readsCharacter then return loop.choice
        else emit (chooseBody greedy loop.body next)
      | least + 1 => compileTimes body.compile least loop.body

/-- A compiled pattern. -/
structure Program where
  code : Code
  start : Nat
  slotCount : Nat

def compile (regex : Regex) : Program :=
  let build : StateM Code Nat := do
    let accept ← emit .accept
    (Pattern.capture 0 regex.pattern).compile accept
  let (start, code) := build.run #[]
  { code := code, start := start, slotCount := 2 * (regex.groupCount + 1) }

end Regex
end PatchScript
