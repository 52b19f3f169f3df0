import ParserTables.Proofs.Report.Feed
import ParserTables.Proofs.Table.Consistency
import ParserTables.Proofs.Table.Moves

/-! Which violation of an automaton is reported.

The rules are checked before the table, and the table move by move (`Table.violation?_eq`). The
first violation is reported (`Automaton.FirstViolation`), and `Automaton.violation?_exact` says
when there is none. -/
namespace ParserTables

theorem Row.violation?_eq (declared : Nat → Bool) (states state : Nat) (row : Row) :
    row.violation? declared states state =
      row.moves.findSome? (actionViolation? declared states state) :=
  (row.findSome?_moves _).symm

/-- Checking a table looks at its moves in order. -/
theorem Table.violation?_eq (declared : Nat → Bool) (t : Table) :
    t.violation? declared =
      t.moves.findSome? fun move => Row.actionViolation? declared t.size (idOf move.1) move.2 := by
  rw [← findSome?_states fun state => Row.actionViolation? declared t.size state, violation?]
  congr 1
  funext entry
  exact entry.2.violation?_eq declared t.size entry.1

namespace Automaton

/-- What is reported of an automaton that is not consistent: of the rules whose left side is not
listed the one with the lowest number, and if there is none, the first move that refers to
something that is not there. -/
inductive FirstViolation (a : Automaton) : TableError → Prop where
  | left {r : Rule} : r ∈ a.rules.toList → r.left ∉ a.symbols.nonterminals.toList →
      (∀ q ∈ a.rules.toList, q.left ∉ a.symbols.nonterminals.toList → r.number ≤ q.number) →
      FirstViolation a (.undeclaredNonterminal r.number r.left)
  | rule {position rule : Nat} :
      (∀ r ∈ a.rules.toList, r.left ∈ a.symbols.nonterminals.toList) →
      a.table.First (fun move => ¬ move.Resolves a.rules.contains a.table.size) position
        (.reduce rule) →
      FirstViolation a (.undeclaredRule (idOf position) rule)
  | target {position target : Nat} :
      (∀ r ∈ a.rules.toList, r.left ∈ a.symbols.nonterminals.toList) →
      a.table.First (fun move => ¬ move.Resolves a.rules.contains a.table.size) position
        (.shift target) →
      FirstViolation a (.stateOutOfRange (idOf position) target)

theorem ruleViolation?_eq_some_iff {symbols : SymbolTable} {r : Rule} {e : TableError} :
    ruleViolation? symbols r = some e ↔
      r.left ∉ symbols.nonterminals.toList ∧ e = .undeclaredNonterminal r.number r.left := by
  by_cases hlisted : r.left ∈ symbols.nonterminals.toList
  · simp [ruleViolation?_eq_none_iff.2 hlisted, hlisted]
  · simp [ruleViolation?, Listing.position?_eq_none_iff.2 hlisted, hlisted, eq_comm]

/-- What is said of a move that refers to something that is not there. -/
theorem actionViolation?_eq_some_iff {declared : Nat → Bool} {states state : Nat} {a : Action}
    {e : TableError} (h : ¬ a.Resolves declared states) :
    Row.actionViolation? declared states state a = some e ↔
      (∃ rule, a = .reduce rule ∧ e = .undeclaredRule state rule) ∨
        ∃ target, a = .shift target ∧ e = .stateOutOfRange state target := by
  cases a with
  | shift target =>
    have hle : ¬ target < states := h
    simp [Row.actionViolation?, Row.targetViolation?, hle, eq_comm]
  | reduce rule =>
    have hrule : ¬ declared rule = true := h
    simp [Row.actionViolation?, hrule, eq_comm]
  | accept => exact absurd trivial h
  | error => exact absurd trivial h

/-- Checking the table ends at the first move that refers to something that is not there. -/
theorem tableViolation?_eq_some_iff {a : Automaton} {e : TableError} :
    a.table.violation? a.rules.contains = some e ↔ ∃ position move,
      a.table.First (fun move => ¬ move.Resolves a.rules.contains a.table.size) position move ∧
        Row.actionViolation? a.rules.contains a.table.size (idOf position) move = some e := by
  rw [Table.violation?_eq]
  refine Table.findSome?_moves_eq_some_iff fun state move => ?_
  rw [Row.actionViolation?_eq_none_iff, not_not]

/-- **The first violation is reported.** -/
theorem violation?_eq_some_iff {a : Automaton} {e : TableError} :
    a.violation? = some e ↔ a.FirstViolation e := by
  rw [violation?, Option.or_eq_some_iff, RuleSet.findSome?_toList_eq_some_iff]
  simp only [List.findSome?_eq_none_iff, ruleViolation?_eq_some_iff, ruleViolation?_eq_none_iff,
    ne_eq, tableViolation?_eq_some_iff]
  constructor
  · intro h
    rcases h with ⟨r, hr, ⟨hleft, rfl⟩, hlowest⟩ | ⟨hlefts, position, move, hfirst, he⟩
    · exact .left hr hleft hlowest
    · rcases (actionViolation?_eq_some_iff hfirst.flawed).1 he with
        ⟨rule, rfl, rfl⟩ | ⟨target, rfl, rfl⟩
      · exact .rule hlefts hfirst
      · exact .target hlefts hfirst
  · intro h
    cases h with
    | left hr hleft hlowest => exact .inl ⟨_, hr, ⟨hleft, rfl⟩, hlowest⟩
    | rule hlefts hfirst =>
      exact .inr ⟨hlefts, _, _, hfirst,
        (actionViolation?_eq_some_iff hfirst.flawed).2 (.inl ⟨_, rfl, rfl⟩)⟩
    | target hlefts hfirst =>
      exact .inr ⟨hlefts, _, _, hfirst,
        (actionViolation?_eq_some_iff hfirst.flawed).2 (.inr ⟨_, rfl, rfl⟩)⟩

/-- Nothing is reported of the table if each of its moves refers to something that is there. -/
theorem tableViolation?_eq_none_iff {a : Automaton} :
    a.table.violation? a.rules.contains = none ↔
      ∀ move ∈ a.table.moves, move.2.Resolves a.rules.contains a.table.size := by
  rw [Table.violation?_eq, List.findSome?_eq_none_iff]
  simp only [Row.actionViolation?_eq_none_iff]

/-- **Checking an automaton is exact.** Nothing is reported just if every rule produces a listed
nonterminal, every reduction is by a declared rule, and every shift and every goto leads to a
state. Otherwise the first violation is reported. -/
theorem violation?_exact (a : Automaton) :
    (a.violation? = none ↔
      (∀ r ∈ a.rules.toList, r.left ∈ a.symbols.nonterminals.toList) ∧
      (∀ state terminal rule, a.table.action? state terminal = some (.reduce rule) →
        a.rules.contains rule = true) ∧
      (∀ state terminal target, a.table.action? state terminal = some (.shift target) →
        target < a.table.size) ∧
      ∀ state nonterminal target, a.table.goto? state nonterminal = some (some target) →
        target < a.table.size) ∧
    ∀ e, a.violation? = some e ↔ a.FirstViolation e := by
  refine ⟨?_, fun e => violation?_eq_some_iff⟩
  have hmoves := @Table.forall_moves_iff a.table
    (fun move => move.Resolves a.rules.contains a.table.size) trivial trivial
  rw [violation?, Option.or_eq_none_iff, List.findSome?_eq_none_iff, tableViolation?_eq_none_iff,
    hmoves]
  simp only [ruleViolation?_eq_none_iff]
  exact Iff.rfl

/-- A report with a goto to nowhere in its first state and an undeclared rule in its second. -/
def danglingReport : Text := Text.unlines <| List.map String.toList
  ["Grammar", "    0 s: A", "Terminals, with rules where they appear", "A (258) 0",
    "Nonterminals, with rules where they appear", "s (3)",
    "state 0", "    A  shift, and go to state 1", "    s  go to state 2",
    "state 1", "    A  reduce using rule 7 (s)"]

theorem violation?_exact_danglingReport : ∃ a, Automaton.read .legacy danglingReport = .ok a ∧
    a.table.action? 1 0 = some (.reduce 7) ∧ a.rules.contains 7 = false ∧
    a.violation? = some (.stateOutOfRange 0 2) ∧ a.FirstViolation (.stateOutOfRange 0 2) := by
  obtain ⟨a, ha, hcheck⟩ := exists_ok_of_any (x := Automaton.read .legacy danglingReport)
    (p := fun a => decide (a.table.action? 1 0 = some (.reduce 7) ∧ a.rules.contains 7 = false ∧
      a.violation? = some (.stateOutOfRange 0 2)))
    (by decide +kernel)
  obtain ⟨haction, hrule, hviolation⟩ := of_decide_eq_true hcheck
  exact ⟨a, ha, haction, hrule, hviolation, ((violation?_exact a).2 _).1 hviolation⟩

end Automaton
end ParserTables
