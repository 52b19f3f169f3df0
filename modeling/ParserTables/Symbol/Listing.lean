import ParserTables.Id
import Std.Data.TreeMap

/-! Names in first-seen order.

A `Listing` numbers the distinct names it is given in the order it first sees them, and
finds the number of a name in a search tree. Its view is the list of its names:
`toList_declare` says what declaring does to it, `position?_eq_some_iff` what looking
up answers. A `SymbolTable` has one listing for each kind of symbol. -/
namespace ParserTables

/-- Distinct names in first-seen order, with the position of each. -/
structure Listing where
  names : Array Text
  positions : Std.TreeMap Text Nat
  positions_iff : ∀ (name : Text) (i : Nat), positions[name]? = some i ↔ names[i]? = some name

namespace Listing

def empty : Listing where
  names := #[]
  positions := ∅
  positions_iff := by simp

/-- The number of names. -/
def size (l : Listing) : Nat := l.names.size

/-- The names, in first-seen order. -/
def toList (l : Listing) : List Text := l.names.toList

/-- Where a name stands. -/
def position? (l : Listing) (name : Text) : Option Nat := l.positions[name]?

/-- The id of a name. -/
def id? (l : Listing) (name : Text) : Option Nat := (l.position? name).map idOf

/-- The name at a position. -/
def name? (l : Listing) (position : Nat) : Option Text := l.names[position]?

theorem getElem?_toList (l : Listing) (i : Nat) : l.toList[i]? = l.name? i := by
  simp [toList, name?]

theorem length_toList (l : Listing) : l.toList.length = l.size := rfl

theorem position?_eq_some_iff {l : Listing} {name : Text} {i : Nat} :
    l.position? name = some i ↔ l.name? i = some name :=
  l.positions_iff name i

theorem position?_eq_none_iff {l : Listing} {name : Text} :
    l.position? name = none ↔ name ∉ l.toList := by
  rw [Option.eq_none_iff_forall_ne_some, List.mem_iff_getElem?]
  simp [position?_eq_some_iff, getElem?_toList]

theorem lt_size_of_position? {l : Listing} {name : Text} {i : Nat}
    (h : l.position? name = some i) : i < l.size := by
  rw [position?_eq_some_iff] at h
  exact (Array.getElem?_eq_some_iff.1 h).1

/-- An id is a position too, of some name. -/
theorem lt_size_of_id? {l : Listing} {name : Text} {i : Nat} (h : l.id? name = some i) :
    i < l.size := by
  obtain ⟨p, hp, rfl⟩ := Option.map_eq_some_iff.1 h
  exact Nat.lt_of_le_of_lt (idOf_le p) (lt_size_of_position? hp)

/-- The listing with one more name, which it does not hold. -/
def push (l : Listing) (name : Text) (h : l.position? name = none) : Listing :=
  let position := l.names.size
  { names := l.names.push name
    positions := l.positions.insert name position
    positions_iff := by
      intro other i
      have new : ∀ i : Nat, l.names[i]? ≠ some name := fun i hi => by
        simp [position?_eq_some_iff.2 hi] at h
      rw [Std.TreeMap.getElem?_insert, Array.getElem?_push]
      have old := l.positions_iff other i
      by_cases hn : name = other
      · subst hn
        by_cases hi : i = l.names.size
        · simp [hi, position]
        · simp [hi, new i, Ne.symm hi, position]
      · by_cases hi : i = l.names.size
        · subst hi
          simp [hn, old]
        · simp [hn, hi, old] }

/-- Declare a name: the listing that holds it, and its id. A name that is there already
stays where it is. -/
def declare (l : Listing) (name : Text) : Listing × Nat :=
  match h : l.position? name with
  | some position => (l, idOf position)
  | none =>
    let position := l.size
    (l.push name h, idOf position)

theorem toList_declare (l : Listing) (name : Text) :
    (l.declare name).1.toList = if name ∈ l.toList then l.toList else l.toList ++ [name] := by
  unfold declare
  split
  · rename_i position h
    have : name ∈ l.toList := Decidable.byContradiction fun hn => by
      simp [position?_eq_none_iff.2 hn] at h
    simp [this]
  · rename_i h
    have := position?_eq_none_iff.1 h
    rw [if_neg this]
    simp [push, toList]

end Listing

/-- Which of the two listings a symbol stands in. -/
inductive SymbolKind where
  | terminal
  | nonterminal
deriving DecidableEq

/-- The terminals and nonterminals that a report lists. -/
structure SymbolTable where
  terminals : Listing
  nonterminals : Listing

namespace SymbolTable

def empty : SymbolTable := ⟨.empty, .empty⟩

/-- The names of one kind. -/
def listing (symbols : SymbolTable) : SymbolKind → Listing
  | .terminal => symbols.terminals
  | .nonterminal => symbols.nonterminals

/-- Declare a symbol: the table that holds it, and its id. -/
def declare (symbols : SymbolTable) (kind : SymbolKind) (name : Text) : SymbolTable × Nat :=
  let (declared, id) := (symbols.listing kind).declare name
  match kind with
  | .terminal => ({ symbols with terminals := declared }, id)
  | .nonterminal => ({ symbols with nonterminals := declared }, id)

end SymbolTable

end ParserTables
