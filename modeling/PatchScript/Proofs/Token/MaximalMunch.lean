import Mathlib.Data.List.MinMax
import Mathlib.Data.List.Nodup
import PatchScript.Proofs.Token.LongestMatch
import PatchScript.Token.Scan

/-!
# Maximal munch

A longest match in a trie is the longest of all texts of its table that the input starts with.
Hence symbols are read by maximal munch, and where a character starts some symbol, one is read.
-/

namespace PatchScript
namespace Trie

variable {α : Type} {table : List (List Char × α)}

/-- The longest text of a table that an input starts with, found by trying all of them. -/
def naiveMatch (table : List (List Char × α)) (input : List Char) : Option (α × Nat) :=
  ((table.filter fun entry => entry.1.isPrefixOf input).argmax fun entry => entry.1.length).map
    fun entry => (entry.2, entry.1.length)

theorem find?_ofTable_of_mem (distinct : (table.map Prod.fst).Nodup) {entry : List Char × α}
    (member : entry ∈ table) : (ofTable table).find? entry.1 = some entry.2 := by
  cases found : (ofTable table).find? entry.1 with
  | none =>
    rw [find?_ofTable, List.lookup_eq_none_iff] at found
    exact absurd rfl (bne_iff_ne.mp (found entry (List.mem_reverse.mpr member)))
  | some stored =>
    exact congrArg (fun entry => some entry.2)
      (List.inj_on_of_nodup_map distinct (mem_of_find?_ofTable found) member rfl)

theorem isLongest_naiveMatch (distinct : (table.map Prod.fst).Nodup)
    (nonempty : ∀ entry ∈ table, entry.1 ≠ []) (input : List Char) :
    (ofTable table).IsLongest input (naiveMatch table input) := by
  have kept {text : List Char} {stored : α} (head : text <+: input)
      (found : (ofTable table).find? text = some stored) :
      (text, stored) ∈ table.filter fun entry => entry.1.isPrefixOf input :=
    List.mem_filter.mpr ⟨mem_of_find?_ofTable found, List.isPrefixOf_iff_prefix.mpr head⟩
  unfold naiveMatch
  generalize best : List.argmax (fun entry : List Char × α => entry.1.length) _ = entry
  cases entry with
  | none =>
    refine fun text head _ => Option.eq_none_iff_forall_ne_some.mpr fun stored found => ?_
    exact List.not_mem_nil (List.argmax_eq_none.mp best ▸ kept head found)
  | some entry =>
    obtain ⟨member, head⟩ := List.mem_filter.mp (List.argmax_mem best)
    refine ⟨entry.1, List.isPrefixOf_iff_prefix.mp head, nonempty entry member, rfl,
      find?_ofTable_of_mem distinct member, fun longer head isLonger => ?_⟩
    refine Option.eq_none_iff_forall_ne_some.mpr fun stored found => ?_
    exact Nat.not_le.mpr isLonger (List.le_of_mem_argmax (f := fun entry => entry.1.length)
      (kept head found) best)

end Trie

/-! ## Symbols -/

namespace Symbol

theorem distinct_table : (table.map Prod.fst).Nodup := by decide

theorem nonempty_table : ∀ entry ∈ table, entry.1 ≠ [] := by decide

theorem mem_all (symbol : Symbol) : symbol ∈ all := by cases symbol <;> decide

theorem find?_trie {text : List Char} {symbol : Symbol} :
    trie.find? text = some symbol ↔ symbol.text.toList = text := by
  constructor
  · intro found
    obtain ⟨_, _, ⟨⟩⟩ := List.mem_map.mp (Trie.mem_of_find?_ofTable found)
    rfl
  · rintro rfl
    exact Trie.find?_ofTable_of_mem distinct_table (List.mem_map_of_mem (mem_all symbol))

theorem find?_trie_eq_none {text : List Char} :
    trie.find? text = none ↔ ∀ symbol ∈ all, symbol.text.toList ≠ text :=
  Option.eq_none_iff_forall_ne_some.trans
    ⟨fun absent symbol _ same => absent symbol (find?_trie.mpr same),
      fun absent symbol found => absent symbol (mem_all symbol) (find?_trie.mp found)⟩

/-- A character that starts a symbol is one, and starts nothing else. -/
theorem of_continues {c : Char} (continues : trie.continues c = true) :
    (∃ symbol ∈ all, symbol.text.toList = [c]) ∧ c ∉ ['"', '\'', '$'] ∧ c.isDigit = false ∧
      Scan.isNameStart c = false := by
  have starts : ∀ entry ∈ trie.children,
      (∃ symbol ∈ all, symbol.text.toList = [entry.1]) ∧ entry.1 ∉ ['"', '\'', '$'] ∧
        entry.1.isDigit = false ∧ Scan.isNameStart entry.1 = false := by
    decide
  obtain ⟨child, found⟩ := Option.isSome_iff_exists.mp continues
  obtain ⟨before, after, split, _⟩ := List.lookup_eq_some_iff.mp found
  exact starts (c, child) (split ▸ List.mem_append_right _ List.mem_cons_self)

end Symbol

/-- Symbols are found by maximal munch: the longest one that the input starts with, if there is
one.  So it is in every table of texts, in whatever order they are inserted.  Where a character
starts some symbol, a symbol is read. -/
theorem symbols_found_by_maximal_munch :
    (∀ input symbol length, Symbol.trie.longestMatch input = some (symbol, length) ↔
      symbol.text.toList <+: input ∧ symbol.text.length = length ∧
        ∀ other ∈ Symbol.all, other.text.toList <+: input → other.text.length ≤ length) ∧
    (∀ input, Symbol.trie.longestMatch input = none ↔
      ∀ symbol ∈ Symbol.all, ¬ symbol.text.toList <+: input) ∧
    (∀ {α : Type} (table : List (List Char × α)), (table.map Prod.fst).Nodup →
      (∀ entry ∈ table, entry.1 ≠ []) →
      ∀ input, (Trie.ofTable table).longestMatch input = Trie.naiveMatch table input) ∧
    ∀ c rest, Symbol.trie.continues c = true →
      ∃ symbol length, Scan.readToken c rest = .ok (.symbol symbol, length) := by
  have nonempty (symbol : Symbol) : symbol.text.toList ≠ [] :=
    Symbol.nonempty_table _ (List.mem_map_of_mem (Symbol.mem_all symbol))
  have absent (input : List Char) : Symbol.trie.longestMatch input = none ↔
      ∀ symbol ∈ Symbol.all, ¬ symbol.text.toList <+: input := by
    rw [Trie.longestMatch_eq_iff]
    constructor
    · intro none symbol listed head
      exact Symbol.find?_trie_eq_none.mp (none _ head (nonempty symbol)) symbol listed rfl
    · intro none text head _
      exact Symbol.find?_trie_eq_none.mpr fun symbol listed same => none symbol listed (same ▸ head)
  refine ⟨fun input symbol length => ?_, absent, fun table distinct nonempty input => ?_,
    fun c rest continues => ?_⟩
  · rw [Trie.longestMatch_eq_iff]
    constructor
    · rintro ⟨text, head, _, rfl, found, most⟩
      cases Symbol.find?_trie.mp found
      refine ⟨head, rfl, fun other listed also => Nat.not_lt.mp fun isLonger => ?_⟩
      exact Symbol.find?_trie_eq_none.mp (most _ also isLonger) other listed rfl
    · rintro ⟨head, rfl, most⟩
      refine ⟨_, head, nonempty symbol, rfl, Symbol.find?_trie.mpr rfl, ?_⟩
      refine fun longer also isLonger => Symbol.find?_trie_eq_none.mpr fun other listed same => ?_
      subst same
      exact Nat.not_le.mpr isLonger (most other listed also)
  · exact Trie.longestMatch_eq_iff.mpr (Trie.isLongest_naiveMatch distinct nonempty input)
  · obtain ⟨⟨symbol, listed, text⟩, quotes, digit, name⟩ := Symbol.of_continues continues
    simp only [List.mem_cons, List.not_mem_nil, or_false, not_or] at quotes
    rw [Scan.readToken.eq_def, if_neg quotes.1, if_neg quotes.2.1, if_neg quotes.2.2, digit, name]
    cases found : Symbol.trie.longestMatch (c :: rest) with
    | some pair => exact ⟨pair.1, pair.2, rfl⟩
    | none => exact absurd ⟨rest, text ▸ rfl⟩ ((absent _).mp found symbol listed)

/-- A table in which the walk goes on past a text and comes to nothing. -/
theorem symbols_found_by_maximal_munch_deadEnd :
    ([['&'], ['&', '&'], ['&', '&', '=', '=']].Nodup ∧ Symbol.trie.continues '&' = true) ∧
      (Trie.ofTable [(['&'], 1), (['&', '&'], 2), (['&', '&', '=', '='], 3)]).longestMatch
        ['&', '&', '=', '>'] = some (2, 2) := by
  refine ⟨⟨by decide, by decide⟩, ?_⟩
  rw [symbols_found_by_maximal_munch.2.2.1 _ (by decide) (by decide)]
  rfl

end PatchScript
