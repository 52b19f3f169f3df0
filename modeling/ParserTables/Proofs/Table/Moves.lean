import ParserTables.Proofs.Table.Cells

/-! The moves of a table, in the order in which they are looked at.

What goes over a table takes its states in order, and in each state the actions and then the gotos,
a goto as the shift to its target (`Table.moves`). A search for what is wrong with the moves ends
at the first that is flawed (`Table.First`), whatever it says of it:
`Table.findSome?_moves_eq_some_iff`. -/
namespace ParserTables

/-! ### The moves of a table -/

/-- What a row says to do: its actions, then its gotos as shifts to their targets. -/
def Row.moves (row : Row) : List Action :=
  row.actions.toList ++ row.gotos.toList.filterMap fun goto => goto.map Action.shift

namespace Table

/-- What a table says to do, each with the position of its state. -/
def moves (t : Table) : List (Nat × Action) :=
  t.rows.toList.zipIdx.flatMap fun (row, position) => row.moves.map fun a => (position, a)

/-- Of the moves of a table this is the first that is flawed. -/
def First (t : Table) (flawed : Action → Prop) (position : Nat) (a : Action) : Prop :=
  ∃ earlier later, t.moves = earlier ++ (position, a) :: later ∧ flawed a ∧
    ∀ move ∈ earlier, ¬ flawed move.2

theorem First.flawed {t : Table} {flawed : Action → Prop} {position : Nat} {a : Action}
    (h : t.First flawed position a) : flawed a := by
  obtain ⟨_, _, _, hflawed, _⟩ := h
  exact hflawed

/-- A move is an action on some terminal or the goto after some nonterminal. -/
theorem mem_moves_iff {t : Table} {position : Nat} {a : Action} :
    (position, a) ∈ t.moves ↔ (∃ terminal, t.action? position terminal = some a) ∨
      ∃ nonterminal target, t.goto? position nonterminal = some (some target) ∧
        a = .shift target := by
  have hrow : (position, a) ∈ t.moves ↔ ∃ row, t.rows[position]? = some row ∧ a ∈ row.moves := by
    simp [moves, List.mem_zipIdx_iff_getElem?]
  rw [hrow]
  constructor
  · intro h
    obtain ⟨row, hat, hmem⟩ := h
    rcases List.mem_append.1 hmem with hmem | hmem
    · obtain ⟨terminal, hterminal⟩ := List.mem_iff_getElem?.1 hmem
      left
      exact ⟨terminal, by simpa [action?, hat] using hterminal⟩
    · obtain ⟨goto, hgoto, hshift⟩ := List.mem_filterMap.1 hmem
      obtain ⟨target, rfl, rfl⟩ := Option.map_eq_some_iff.1 hshift
      obtain ⟨nonterminal, hnonterminal⟩ := List.mem_iff_getElem?.1 hgoto
      right
      exact ⟨nonterminal, target, by simpa [goto?, hat] using hnonterminal, rfl⟩
  · intro h
    rcases h with ⟨terminal, h⟩ | ⟨nonterminal, target, h, rfl⟩
    · obtain ⟨row, hat, hterminal⟩ := Option.bind_eq_some_iff.1 h
      have hmem := Array.mem_toList_iff.2 (Array.mem_of_getElem? hterminal)
      exact ⟨row, hat, List.mem_append_left _ hmem⟩
    · obtain ⟨row, hat, hnonterminal⟩ := Option.bind_eq_some_iff.1 h
      have hmem := Array.mem_toList_iff.2 (Array.mem_of_getElem? hnonterminal)
      exact ⟨row, hat, List.mem_append_right _ (List.mem_filterMap.2 ⟨_, hmem, rfl⟩)⟩

/-- All moves are right if all reductions are, all shifts, and all shifts to the targets of
gotos. -/
theorem forall_moves_iff {t : Table} {right : Action → Prop} (haccept : right .accept)
    (herror : right .error) : (∀ move ∈ t.moves, right move.2) ↔
      (∀ state terminal rule, t.action? state terminal = some (.reduce rule) →
        right (.reduce rule)) ∧
      (∀ state terminal target, t.action? state terminal = some (.shift target) →
        right (.shift target)) ∧
      ∀ state nonterminal target, t.goto? state nonterminal = some (some target) →
        right (.shift target) := by
  constructor
  · intro h
    have haction : ∀ state terminal a, t.action? state terminal = some a → right a :=
      fun state terminal a ha => h (state, a) (mem_moves_iff.2 (.inl ⟨terminal, ha⟩))
    refine ⟨fun state terminal rule => haction state terminal _,
      fun state terminal target => haction state terminal _, ?_⟩
    intro state nonterminal target hgoto
    exact h (state, .shift target) (mem_moves_iff.2 (.inr ⟨nonterminal, target, hgoto, rfl⟩))
  · intro h move hmove
    obtain ⟨hreduce, hshift, hgotos⟩ := h
    obtain ⟨state, a⟩ := move
    rcases mem_moves_iff.1 hmove with ⟨terminal, ha⟩ | ⟨nonterminal, target, hgoto, rfl⟩
    · cases a with
      | shift target => exact hshift state terminal target ha
      | reduce rule => exact hreduce state terminal rule ha
      | accept => exact haccept
      | error => exact herror
    · exact hgotos state nonterminal target hgoto

end Table

/-! ### Searching the moves -/

theorem findSome?_flatMap {α β γ : Type} (f : β → Option γ) (g : α → List β) (l : List α) :
    (l.flatMap g).findSome? f = l.findSome? fun a => (g a).findSome? f := by
  induction l with
  | nil => rfl
  | cons a l ih =>
    rw [List.flatMap_cons, List.findSome?_append, ih, List.findSome?_cons]
    cases (g a).findSome? f <;> rfl

/-- A row is searched actions first, then gotos. -/
theorem Row.findSome?_moves {β : Type} (f : Action → Option β) (row : Row) :
    row.moves.findSome? f = (row.actions.toList.findSome? f).or
      (row.gotos.toList.findSome? fun goto => goto.bind fun target => f (.shift target)) := by
  rw [moves, List.findSome?_append]
  congr 1
  induction row.gotos.toList with
  | nil => rfl
  | cons goto gotos ih =>
    cases goto with
    | none => exact ih
    | some target =>
      show (Action.shift target :: _).findSome? f = _
      rw [List.findSome?_cons, List.findSome?_cons, ih]
      rfl

namespace Table

/-- A table is searched row by row. -/
theorem findSome?_states {β : Type} (f : Nat → Action → Option β) (t : Table) :
    (t.states.findSome? fun (state, row) => row.moves.findSome? (f state)) =
      t.moves.findSome? fun move => f (idOf move.1) move.2 := by
  rw [moves, findSome?_flatMap, states, List.findSome?_map]
  congr 1
  funext entry
  rw [List.findSome?_map]
  rfl

/-- A search for what is to be said of flawed moves ends at the first of them. -/
theorem findSome?_moves_eq_some_iff {β : Type} {t : Table} {f : Nat → Action → Option β}
    {flawed : Action → Prop} (hf : ∀ state a, f state a = none ↔ ¬ flawed a) {b : β} :
    (t.moves.findSome? fun move => f (idOf move.1) move.2) = some b ↔
      ∃ position a, t.First flawed position a ∧ f (idOf position) a = some b := by
  rw [List.findSome?_eq_some_iff]
  constructor
  · intro h
    obtain ⟨earlier, ⟨position, a⟩, later, hmoves, hsome, hearlier⟩ := h
    have hflawed : flawed a := by
      by_contra hright
      exact absurd ((hf _ a).2 hright ▸ hsome) nofun
    exact ⟨position, a, ⟨earlier, later, hmoves, hflawed,
      fun move hmove => (hf _ _).1 (hearlier move hmove)⟩, hsome⟩
  · intro h
    obtain ⟨position, a, ⟨earlier, later, hmoves, -, hearlier⟩, hsome⟩ := h
    exact ⟨earlier, (position, a), later, hmoves, hsome,
      fun move hmove => (hf _ _).2 (hearlier move hmove)⟩

end Table

end ParserTables
