import PatchScript.Regex.Program

/-!
# Matching

A search follows all ways to match at once, position by position.  Ways are kept
in the order of preference, at most one for each instruction; a way that accepts
ends all ways it is preferred to.  The match found is the leftmost one, and of
those the preferred one.
-/

namespace PatchScript
namespace Regex

/-- The positions noted on a way. -/
abbrev Slots := Array (Option Nat)

/-- One way to match: the next instruction and the positions noted. -/
structure Thread where
  instruction : Nat
  slots : Slots

/-- The ways at a position: the instructions reached, and the ways that read a
character or accept, last one first. -/
structure Ways where
  /-- Which instructions were reached. -/
  reached : Array Bool
  /-- The ways, last one first. -/
  threads : List Thread

/-- Follow a way until it reads a character or accepts. -/
def follow (code : Code) (position : Nat)
    (before after : Option Char) : Nat → Nat → Slots → Ways → Ways
  | 0, _, _, ways => ways
  | budget + 1, instruction, slots, ways =>
    if ways.reached.getD instruction true then ways
    else
      let ways := { ways with reached := ways.reached.setIfInBounds instruction true }
      match code.getD instruction .accept with
      | .consume _ _ =>
        { ways with threads := { instruction := instruction, slots := slots } :: ways.threads }
      | .accept =>
        { ways with threads := { instruction := instruction, slots := slots } :: ways.threads }
      | .split first second =>
        follow code position before after budget second slots
          (follow code position before after budget first slots ways)
      | .save slot next =>
        follow code position before after budget next
          (slots.setIfInBounds slot (some position)) ways
      | .check assertion next =>
        if assertion.holds before after then
          follow code position before after budget next slots ways
        else ways

/-- Follow ways in order of preference. -/
def followAll (code : Code) (position : Nat) (before after : Option Char)
    (threads : List Thread) : List Thread :=
  let start : Ways := { reached := Array.replicate code.size false, threads := [] }
  let ways := threads.foldl
    (fun ways thread =>
      follow code position before after (code.size + 1) thread.instruction thread.slots ways)
    start
  ways.threads.reverse

/-- Read a character on every way, in order, up to the first way that accepts.  The
result is the ways after the character and the accepted way, if any. -/
def advance (code : Code) (c : Option Char) : List Thread → List Thread × Option Slots
  | [] => ([], none)
  | thread :: threads =>
    match code.getD thread.instruction .accept with
    | .consume set next =>
      let (rest, accepted) := advance code c threads
      if c.any set.contains then
        ({ instruction := next, slots := thread.slots } :: rest, accepted)
      else (rest, accepted)
    | .accept => ([], some thread.slots)
    | _ => advance code c threads

/-- Search a text from a position on.  A new way starts at every position until
one accepted. -/
def searchFrom (program : Program) (threads : List Thread) (best : Option Slots) (position : Nat)
    (before : Option Char) : List Char → Option Slots
  | [] =>
    let (_, accepted) := stepAt none threads
    accepted.or best
  | c :: rest =>
    let (next, accepted) := stepAt (some c) threads
    let best := accepted.or best
    if next.isEmpty && best.isSome then best
    else searchFrom program next best (position + 1) (some c) rest
where
  /-- Follow the ways at a position and read its character. -/
  stepAt
      (after : Option Char)
      (threads : List Thread) : List Thread × Option Slots :=
    let fresh : Thread :=
      { instruction := program.start, slots := Array.replicate program.slotCount none }
    let started := if best.isNone then threads ++ [fresh] else threads
    advance program.code after (followAll program.code position before after started)

/-- A match: what was noted, by slot. -/
structure Match where
  slots : Slots

namespace Match

/-- The bounds of a group; group zero is the whole match. -/
def group? (found : Match) (index : Nat) : Option (Nat × Nat) := do
  let start ← found.slots.getD (2 * index) none
  let stop ← found.slots.getD (2 * index + 1) none
  return (start, stop)

def start (found : Match) : Nat :=
  (found.slots.getD 0 none).getD 0

def stop (found : Match) : Nat :=
  (found.slots.getD 1 none).getD 0

end Match

/-- The leftmost match in what follows a position. -/
def find? (program : Program) (position : Nat) (before : Option Char)
    (rest : List Char) : Option Match :=
  (searchFrom program [] none position before rest).map fun slots => { slots := slots }

/-- Whether a pattern matches anywhere in a text. -/
def isMatch (regex : Regex) (text : String) : Bool :=
  (find? (compile regex) 0 none text.toList).isSome

end Regex
end PatchScript
