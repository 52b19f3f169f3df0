import ParserTables.Symbol.Listing

/-! Symbols are numbered as they are first seen.

A listing holds each name once, in the order of the first declarations
(`Listing.toList_declare_eq`), and the id of a name is where it stands there (`Listing.id?_eq`); a
declaration is answered as a look-up after it would be (`Listing.id?_declare`). The terminals and
the nonterminals have a listing each, and one is no matter of the other
(`SymbolTable.listing_declare`).
`SymbolTable.declareEach_firstSeen` says this of any declarations in any order. -/
namespace ParserTables

/-! ### One listing -/

namespace Listing

/-- The position of a listed name is the first one at which it stands. -/
theorem position?_eq (l : Listing) (name : Text) :
    l.position? name = if name ∈ l.toList then some (l.toList.idxOf name) else none := by
  split
  · rename_i hmem
    rw [position?_eq_some_iff, ← getElem?_toList, List.getElem?_eq_getElem
      (List.idxOf_lt_length_iff.2 hmem), List.getElem_idxOf]
  · exact position?_eq_none_iff.2 ‹_›

theorem id?_eq (l : Listing) (name : Text) :
    l.id? name = if name ∈ l.toList then some (idOf (l.toList.idxOf name)) else none := by
  rw [id?, position?_eq]
  split <;> rfl

/-- **A declaration is answered** by the id under which the name is found from then on. -/
theorem id?_declare (l : Listing) (name : Text) :
    (l.declare name).1.id? name = some (l.declare name).2 := by
  unfold declare
  split
  · rename_i position hposition
    rw [id?, hposition]
    rfl
  · rename_i hnew
    have hposition : (l.push name hnew).position? name = some l.size := by
      rw [position?_eq_some_iff]
      exact Array.getElem?_push_size
    rw [id?, hposition]
    rfl

/-- A name that is declared stands behind the others, unless it is one of them. -/
theorem declare_snd_eq (l : Listing) (name : Text) :
    (l.declare name).2 = idOf ((l.toList ++ [name]).idxOf name) := by
  have hfound := l.id?_declare name
  rw [id?_eq, toList_declare] at hfound
  by_cases hmem : name ∈ l.toList
  · rw [if_pos hmem, if_pos hmem] at hfound
    rw [List.idxOf_append, if_pos hmem]
    exact (Option.some.inj hfound).symm
  · rw [if_neg hmem, if_pos (List.mem_append_right _ (List.mem_singleton_self name))] at hfound
    exact (Option.some.inj hfound).symm

/-- What was declared before is left out. -/
theorem toList_declare_eq {l : Listing} {names : List Text} (h : l.toList = names.eraseDups)
    (name : Text) : (l.declare name).1.toList = (names ++ [name]).eraseDups := by
  rw [toList_declare, h, List.eraseDups_append, List.removeAll]
  by_cases hmem : name ∈ names
  · rw [if_pos (List.mem_eraseDups.2 hmem)]
    simp [hmem]
  · rw [if_neg (mt List.mem_eraseDups.1 hmem)]
    simp [hmem, List.eraseDups_cons]

end Listing

/-! ### Both listings -/

/-- The declaration of a symbol. -/
structure Declaration where
  kind : SymbolKind
  name : Text

/-- The names that are declared of one kind. -/
def Declaration.names (kind : SymbolKind) (declarations : List Declaration) : List Text :=
  (declarations.filter (·.kind = kind)).map (·.name)

namespace SymbolTable

/-- The table after declarations. -/
def declareEach (symbols : SymbolTable) (declarations : List Declaration) : SymbolTable :=
  declarations.foldl (fun symbols d => (symbols.declare d.kind d.name).1) symbols

theorem declare_snd (symbols : SymbolTable) (kind : SymbolKind) (name : Text) :
    (symbols.declare kind name).2 = ((symbols.listing kind).declare name).2 := by
  cases kind <;> rfl

/-- **A declaration changes the listing of its kind**, and not the other one. -/
theorem listing_declare (symbols : SymbolTable) (kind other : SymbolKind) (name : Text) :
    (symbols.declare kind name).1.listing other =
      if kind = other then ((symbols.listing other).declare name).1 else symbols.listing other := by
  cases kind <;> cases other <;> rfl

/-- Some declarations add the names of a kind to those declared before. -/
theorem toList_declareEach {symbols : SymbolTable} {kind : SymbolKind} {names : List Text}
    (h : (symbols.listing kind).toList = names.eraseDups) (declarations : List Declaration) :
    ((symbols.declareEach declarations).listing kind).toList =
      (names ++ Declaration.names kind declarations).eraseDups := by
  induction declarations generalizing symbols names with
  | nil =>
    rw [show Declaration.names kind [] = [] from rfl, List.append_nil]
    exact h
  | cons d rest ih =>
    rw [declareEach, List.foldl_cons, ← declareEach]
    by_cases hkind : d.kind = kind
    · have hlisted : ((symbols.declare d.kind d.name).1.listing kind).toList =
          (names ++ [d.name]).eraseDups := by
        rw [listing_declare, if_pos hkind]
        exact Listing.toList_declare_eq h d.name
      rw [ih hlisted]
      simp [Declaration.names, hkind]
    · have hlisted : ((symbols.declare d.kind d.name).1.listing kind).toList = names.eraseDups := by
        rw [listing_declare, if_neg hkind]
        exact h
      rw [ih hlisted]
      simp [Declaration.names, hkind]

/-- **Symbols are numbered as they are first seen.** After any declarations, the listing of a kind
holds the names that were declared of it, each where it was first seen. A look-up finds those by
where they stand, and no others; so does one more declaration, with a new name behind the others.
The name at a position is the one that stands there, and the other kind does not matter. -/
theorem declareEach_firstSeen (kind : SymbolKind) (declarations : List Declaration) :
    let symbols := SymbolTable.empty.declareEach declarations
    let seen := (Declaration.names kind declarations).eraseDups
    (symbols.listing kind).toList = seen ∧ (symbols.listing kind).size = seen.length ∧
    (∀ name, (symbols.listing kind).id? name =
      if name ∈ Declaration.names kind declarations then some (idOf (seen.idxOf name)) else none) ∧
    (∀ name, (symbols.declare kind name).2 = idOf ((seen ++ [name]).idxOf name)) ∧
    (∀ position, (symbols.listing kind).name? position = seen[position]?) ∧
    ∀ other name, other ≠ kind →
      (symbols.declare other name).1.listing kind = symbols.listing kind := by
  intro symbols seen
  have hempty : (SymbolTable.empty.listing kind).toList = ([] : List Text).eraseDups := by
    cases kind <;> rfl
  have hlisted : (symbols.listing kind).toList = seen := toList_declareEach hempty declarations
  refine ⟨hlisted, ?size, fun name => ?id, fun name => ?answer, fun position => ?name,
    fun other name hother => ?other⟩
  case size => rw [← Listing.length_toList, hlisted]
  case id =>
    rw [Listing.id?_eq, hlisted]
    simp only [seen, List.mem_eraseDups]
  case answer => rw [declare_snd, Listing.declare_snd_eq, hlisted]
  case name => rw [← Listing.getElem?_toList, hlisted]
  case other => rw [listing_declare, if_neg hother]

/-- A name that is declared again stays where it is. -/
example : (Declaration.names .terminal [⟨.terminal, ['a']⟩, ⟨.nonterminal, ['c']⟩,
    ⟨.terminal, ['b']⟩, ⟨.terminal, ['a']⟩]).eraseDups = [['a'], ['b']] := by decide

end SymbolTable
end ParserTables
