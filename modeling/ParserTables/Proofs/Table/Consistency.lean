import ParserTables.Automaton.Basic

/-! What a consistent automaton refers to.

`violation?` searches for the first reference to something that is not there.
`Automaton.violation?_eq_none_iff` says what it means that there is none: every rule produces a
listed nonterminal, every reduction is by a rule of the grammar, and every transition
ends in a row of the table. -/
namespace ParserTables

/-- What an action refers to is there: a rule that is declared, or one of `states` states. -/
def Action.Resolves (declared : Nat → Bool) (states : Nat) : Action → Prop
  | .shift target => target < states
  | .reduce rule => declared rule = true
  | .accept => True
  | .error => True

instance (declared : Nat → Bool) (states : Nat) (a : Action) :
    Decidable (a.Resolves declared states) :=
  match a with
  | .shift target => Nat.decLt target states
  | .reduce rule => decEq (declared rule) true
  | .accept => .isTrue trivial
  | .error => .isTrue trivial

theorem Action.Resolves.mono {p q : Nat → Bool} {states : Nat} {a : Action}
    (h : a.Resolves p states) (hpq : ∀ n, p n = true → q n = true) : a.Resolves q states := by
  cases a with
  | shift target => exact h
  | reduce rule => exact hpq rule h
  | accept => trivial
  | error => trivial

namespace Row

theorem targetViolation?_eq_none_iff {states state target : Nat} :
    targetViolation? states state target = none ↔ target < states := by
  rw [targetViolation?]
  split <;> simp_all

theorem actionViolation?_eq_none_iff {declared : Nat → Bool} {states state : Nat} {a : Action} :
    actionViolation? declared states state a = none ↔ a.Resolves declared states := by
  cases a with
  | shift target => exact targetViolation?_eq_none_iff
  | reduce rule => simp [actionViolation?, Action.Resolves]
  | accept => simp [actionViolation?, Action.Resolves]
  | error => simp [actionViolation?, Action.Resolves]

/-- Everything a row refers to is there. -/
structure Resolves (declared : Nat → Bool) (states : Nat) (row : Row) : Prop where
  actions : ∀ a ∈ row.actions, a.Resolves declared states
  gotos : ∀ target, some target ∈ row.gotos → target < states

theorem violation?_eq_none_iff {declared : Nat → Bool} {states state : Nat} {row : Row} :
    row.violation? declared states state = none ↔ row.Resolves declared states := by
  rw [violation?, Option.or_eq_none_iff, List.findSome?_eq_none_iff, List.findSome?_eq_none_iff]
  constructor
  · rintro ⟨ha, hg⟩
    refine ⟨fun a hm => ?_, fun target hm => ?_⟩
    · exact actionViolation?_eq_none_iff.1 (ha a (Array.mem_toList_iff.2 hm))
    · exact targetViolation?_eq_none_iff.1 (hg (some target) (Array.mem_toList_iff.2 hm))
  · rintro ⟨ha, hg⟩
    refine ⟨fun a hm => ?_, fun goto hm => ?_⟩
    · exact actionViolation?_eq_none_iff.2 (ha a (Array.mem_toList_iff.1 hm))
    · cases goto with
      | none => rfl
      | some target =>
        exact targetViolation?_eq_none_iff.2 (hg target (Array.mem_toList_iff.1 hm))

end Row

theorem Table.mem_rows_of_mem_states {t : Table} {state : Nat} {row : Row}
    (h : (state, row) ∈ t.states) : row ∈ t.rows := by
  obtain ⟨⟨row', position⟩, hm, he⟩ := List.mem_map.1 h
  obtain ⟨rfl, rfl⟩ := Prod.mk.inj he
  exact Array.mem_toList_iff.1 (List.fst_mem_of_mem_zipIdx hm)

theorem Table.exists_mem_states {t : Table} {row : Row} (h : row ∈ t.rows) :
    ∃ state, (state, row) ∈ t.states := by
  obtain ⟨i, hi, rfl⟩ := List.getElem_of_mem (Array.mem_toList_iff.2 h)
  refine ⟨idOf i, List.mem_map.2 ⟨(t.rows.toList[i], i), ?_, rfl⟩⟩
  exact List.mem_zipIdx_iff_getElem?.2 (List.getElem?_eq_getElem hi)

/-- A table is consistent if all of its rows are. -/
theorem Table.violation?_eq_none_iff {declared : Nat → Bool} {t : Table} :
    t.violation? declared = none ↔ ∀ row ∈ t.rows, row.Resolves declared t.size := by
  rw [violation?, List.findSome?_eq_none_iff]
  constructor
  · intro h row hrow
    obtain ⟨state, hs⟩ := exists_mem_states hrow
    exact Row.violation?_eq_none_iff.1 (h _ hs)
  · rintro h ⟨state, row⟩ hs
    exact Row.violation?_eq_none_iff.2 (h row (mem_rows_of_mem_states hs))

namespace Automaton

/-- Everything the rules and the rows refer to is there. -/
structure Consistent (a : Automaton) : Prop where
  lefts : ∀ r ∈ a.rules.toList, r.left ∈ a.symbols.nonterminals.toList
  rows : ∀ row ∈ a.table.rows, row.Resolves a.rules.contains a.table.size

theorem ruleViolation?_eq_none_iff {symbols : SymbolTable} {r : Rule} :
    ruleViolation? symbols r = none ↔ r.left ∈ symbols.nonterminals.toList := by
  rw [ruleViolation?]
  split
  · rename_i position h
    have : r.left ∈ symbols.nonterminals.toList := Decidable.byContradiction fun hn => by
      rw [Listing.position?_eq_none_iff.2 hn] at h
      exact absurd h (by simp)
    simp [this]
  · rename_i h
    simp [Listing.position?_eq_none_iff.1 h]

/-- **Nothing is found wrong** exactly with a consistent automaton. -/
theorem violation?_eq_none_iff {a : Automaton} : a.violation? = none ↔ a.Consistent := by
  rw [violation?, Option.or_eq_none_iff, List.findSome?_eq_none_iff, Table.violation?_eq_none_iff]
  constructor
  · rintro ⟨hrules, hrows⟩
    exact ⟨fun r hr => ruleViolation?_eq_none_iff.1 (hrules r hr), hrows⟩
  · rintro ⟨hlefts, hrows⟩
    exact ⟨fun r hr => ruleViolation?_eq_none_iff.2 (hlefts r hr), hrows⟩

end Automaton
end ParserTables
