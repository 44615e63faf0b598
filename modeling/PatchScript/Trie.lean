/-!
# Longest match in a table of texts

A trie stores a table of texts with a value each.  `Trie.longestMatch` finds the
longest text of the table that an input starts with.
-/

namespace PatchScript

/-- A node of a tree keyed by characters.  Its value belongs to the text that
leads to it. -/
inductive Trie (α : Type) where
  /-- A node with the value of its own text and its continuations. -/
  | node (value : Option α) (children : List (Char × Trie α))

namespace Trie

variable {α : Type}

def empty : Trie α :=
  .node none []

/-- The value of the text that leads to this node. -/
def value : Trie α → Option α
  | .node value _ => value

def children : Trie α → List (Char × Trie α)
  | .node _ children => children

/-- The continuation by one character. -/
def child? (trie : Trie α) (c : Char) : Option (Trie α) :=
  trie.children.lookup c

/-- Replace the continuation by a character, or add it. -/
def setChild (c : Char) (child : Trie α) : List (Char × Trie α) → List (Char × Trie α)
  | [] => [(c, child)]
  | (other, old) :: rest =>
    if other = c then (c, child) :: rest
    else (other, old) :: setChild c child rest

def insert (stored : α) : List Char → Trie α → Trie α
  | [], trie => .node (some stored) trie.children
  | c :: text, trie =>
    .node trie.value
      (setChild c (insert stored text ((trie.child? c).getD empty)) trie.children)

def ofTable (table : List (List Char × α)) : Trie α :=
  table.foldl (fun trie entry => trie.insert entry.2 entry.1) empty

/-- Whether some text of the table goes on with this character. -/
def continues (trie : Trie α) (c : Char) : Bool :=
  (trie.child? c).isSome

/-- Walk as deep as the input allows and keep the deepest value seen, with the
length of its text. -/
def longestFrom (depth : Nat) (best : Option (α × Nat)) : Trie α → List Char → Option (α × Nat)
  | _, [] => best
  | trie, c :: input =>
    match trie.child? c with
    | none => best
    | some child =>
      let found := child.value.map fun stored => (stored, depth + 1)
      longestFrom (depth + 1) (found.or best) child input

/-- The value and length of the longest nonempty text of the table that the
input starts with. -/
def longestMatch (trie : Trie α) (input : List Char) : Option (α × Nat) :=
  longestFrom 0 none trie input

end Trie
end PatchScript
