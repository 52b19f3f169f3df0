import ParserTables.Proofs.Table.Moves

/-! Which entry of a table is reported to have no cell.

Packing a table looks at it move by move (`Table.failure?_pack`) and stops at the first move that
has no cell. If all have one (`Action.HasCell`), the cells of a row are the numbers of its actions
and the targets of its gotos (`Row.cells`). `Table.pack_exact` says both. -/
namespace ParserTables

/-! ### Failures -/

/-- Why a computation fails, if it does. -/
def failure? {α ε : Type} : Except ε α → Option ε
  | .error e => some e
  | .ok _ => none

theorem failure?_eq_some_iff {α ε : Type} {x : Except ε α} {e : ε} :
    failure? x = some e ↔ x = .error e := by
  cases x <;> simp [failure?]

theorem failure?_eq_none_iff {α ε : Type} {x : Except ε α} :
    failure? x = none ↔ ∃ a, x = .ok a := by
  cases x <;> simp [failure?]

/-- Two steps fail as the first does, or else as the second. -/
theorem failure?_bind {α β ε : Type} {x : Except ε α} {f : α → Except ε β} {second : Option ε}
    (h : ∀ a, failure? (f a) = second) : failure? (x >>= f) = (failure? x).or second := by
  cases x with
  | error e => rfl
  | ok a => exact h a

/-- Steps for the elements of a list fail at the first of them that fails. -/
theorem failure?_mapM {α β ε : Type} (f : α → Except ε β) (l : List α) :
    failure? (l.mapM f) = l.findSome? fun a => failure? (f a) := by
  induction l with
  | nil => rfl
  | cons a l ih =>
    have hrest : ∀ b, failure? (do return b :: (← l.mapM f)) = failure? (l.mapM f) := fun b => by
      cases l.mapM f <;> rfl
    rw [List.mapM_cons, failure?_bind hrest, ih, List.findSome?_cons]
    cases failure? (f a) <;> rfl

namespace Action

/-- The number that stands for an action: `+K` to shift to state `K`, `-R` to reduce by rule
`R`. -/
def cell : Action → Int
  | .shift target => target
  | .reduce rule => -(rule : Int)
  | .accept => 127
  | .error => 0

/-- The number of an action fits into a signed byte, and it is not the one of accepting if the
action is another. -/
def HasCell : Action → Prop
  | .shift target => target ≤ 126
  | .reduce rule => rule ≤ 128
  | .accept => True
  | .error => True

theorem toCell?_eq_some_iff {a : Action} {cell : Int} :
    a.toCell? = some cell ↔ a.HasCell ∧ cell = a.cell := by
  cases a with
  | shift target =>
    rw [toCell?_shift]
    simp only [HasCell, Action.cell]
    omega
  | reduce rule =>
    rw [toCell?_reduce]
    simp only [HasCell, Action.cell]
    omega
  | accept => simp [toCell?, acceptCell, HasCell, Action.cell, eq_comm]
  | error => simp [toCell?, HasCell, Action.cell, eq_comm]

theorem toCell?_eq_none_iff {a : Action} : a.toCell? = none ↔ ¬ a.HasCell := by
  rw [Option.eq_none_iff_forall_ne_some]
  simp [toCell?_eq_some_iff]

end Action

namespace Row

/-- What packing says of an action. -/
def overflow? (state : Nat) (a : Action) : Option CellOverflow := failure? (packAction state a)

theorem overflow?_eq_some_iff {state : Nat} {a : Action} {e : CellOverflow} :
    overflow? state a = some e ↔ ¬ a.HasCell ∧ e = ⟨state, a⟩ := by
  rw [overflow?, packAction]
  cases h : a.toCell? with
  | none => simp [failure?, Action.toCell?_eq_none_iff.1 h, eq_comm]
  | some cell => simp [failure?, (Action.toCell?_eq_some_iff.1 h).1]

theorem overflow?_eq_none_iff {state : Nat} {a : Action} :
    overflow? state a = none ↔ a.HasCell := by
  rw [Option.eq_none_iff_forall_ne_some]
  simp [overflow?_eq_some_iff]

/-- Packing a row looks at its moves in order. -/
theorem failure?_pack (state : Nat) (row : Row) :
    failure? (row.pack state) = row.moves.findSome? (overflow? state) := by
  have hgotos : (fun goto => failure? (packGoto state goto)) =
      fun goto => goto.bind fun target => overflow? state (.shift target) := by
    funext goto
    cases goto with
    | none => rfl
    | some target => rw [packGoto, Option.bind_some, overflow?]
  have hrest : ∀ actions, failure? (do return PackedRow.mk actions (← row.gotos.toList.mapM
      (packGoto state))) = row.gotos.toList.findSome? fun goto =>
        goto.bind fun target => overflow? state (.shift target) := by
    intro actions
    have hlast : ∀ gotos : List Int,
        failure? (pure (PackedRow.mk actions gotos) : Except CellOverflow PackedRow) = none :=
      fun _ => rfl
    rw [failure?_bind hlast, Option.or_none, failure?_mapM, hgotos]
  rw [pack, failure?_bind hrest, failure?_mapM, findSome?_moves]
  rfl

end Row

namespace Table

/-- Packing a table looks at its moves in order. -/
theorem failure?_pack (t : Table) : failure? t.pack =
    t.moves.findSome? fun move => Row.overflow? (idOf move.1) move.2 := by
  rw [← findSome?_states Row.overflow?, pack, failure?_mapM]
  congr 1
  funext entry
  obtain ⟨state, row⟩ := entry
  exact row.failure?_pack state

/-- **The first overflow is reported.** -/
theorem pack_eq_error_iff {t : Table} {e : CellOverflow} : t.pack = .error e ↔
    ∃ position a, t.First (fun move => ¬ move.HasCell) position a ∧ e = ⟨idOf position, a⟩ := by
  have hnone : ∀ state a, Row.overflow? state a = none ↔ ¬ ¬ a.HasCell := fun state a => by
    rw [Row.overflow?_eq_none_iff, not_not]
  rw [← failure?_eq_some_iff, failure?_pack, findSome?_moves_eq_some_iff hnone]
  simp only [Row.overflow?_eq_some_iff]
  constructor
  · intro h
    obtain ⟨position, a, hfirst, -, he⟩ := h
    exact ⟨position, a, hfirst, he⟩
  · intro h
    obtain ⟨position, a, hfirst, he⟩ := h
    exact ⟨position, a, hfirst, hfirst.flawed, he⟩

/-- A table packs if each of its moves has a cell. -/
theorem exists_pack_iff {t : Table} :
    (∃ rows, t.pack = .ok rows) ↔ ∀ move ∈ t.moves, move.2.HasCell := by
  rw [← failure?_eq_none_iff, failure?_pack, List.findSome?_eq_none_iff]
  simp only [Row.overflow?_eq_none_iff]

end Table

/-! ### What packing makes -/

/-- The cell of a goto: its target, or 0 if there is none. -/
def targetCell (goto : Option Nat) : Int := (goto.getD 0 : Nat)

/-- The cells of a row. -/
def Row.cells (row : Row) : PackedRow where
  actions := row.actions.toList.map Action.cell
  gotos := row.gotos.toList.map targetCell

theorem gotoCell?_eq_some {goto : Option Nat} {cell : Int} (h : gotoCell? goto = some cell) :
    cell = targetCell goto := by
  cases goto with
  | none => exact (Option.some.inj h).symm
  | some target =>
    rw [gotoCell?, Action.toCell?_eq_some_iff] at h
    exact h.2

/-- A list that is at each place what a function makes of another one. -/
theorem eq_map_of_rel {α β : Type} {R : α → β → Prop} {f : α → β} {l : List α} {l' : List β}
    (h : ∀ i : Nat, Option.Rel R l[i]? l'[i]?) (hR : ∀ a b, R a b → b = f a) : l' = l.map f := by
  apply List.ext_getElem?
  intro i
  have hi := h i
  rw [List.getElem?_map]
  generalize l[i]? = a at hi ⊢
  generalize l'[i]? = b at hi ⊢
  cases hi with
  | none => rfl
  | some hab => exact congrArg some (hR _ _ hab)

theorem Row.Packs.eq_cells {row : Row} {packed : PackedRow} (h : row.Packs packed) :
    packed = row.cells := by
  have hactions : packed.actions = row.cells.actions :=
    eq_map_of_rel (rel_getElem? h.actions) fun _ _ hc => (Action.toCell?_eq_some_iff.1 hc).2
  have hgotos : packed.gotos = row.cells.gotos :=
    eq_map_of_rel (rel_getElem? h.gotos) fun _ _ hc => gotoCell?_eq_some hc
  cases packed
  rw [PackedRow.mk.injEq]
  exact ⟨hactions, hgotos⟩

namespace Table

theorem pack_eq_cells {t : Table} {rows : List PackedRow} (h : t.pack = .ok rows) :
    rows = t.rows.toList.map Row.cells := by
  refine eq_map_of_rel (R := Row.Packs) (fun i => ?_) fun _ _ hpacks => hpacks.eq_cells
  rw [Array.getElem?_toList]
  exact packs_rows h i

/-- The cell 127 is that of accepting, and of nothing else. -/
theorem cell?_eq_accept_iff {t : Table} {rows : List PackedRow} (h : t.pack = .ok rows)
    (state terminal : Nat) : PackedRow.cell? rows state terminal = some 127 ↔
      t.action? state terminal = some .accept := by
  have hrel := rel_cell? h state terminal
  generalize t.action? state terminal = action at hrel ⊢
  generalize PackedRow.cell? rows state terminal = cell at hrel ⊢
  cases hrel with
  | none => simp
  | @some a cell hc =>
    obtain ⟨hfits, rfl⟩ := Action.toCell?_eq_some_iff.1 hc
    rw [Option.some.injEq, Option.some.injEq]
    cases a with
    | shift target =>
      have hle : target ≤ 126 := hfits
      simp only [Action.cell, reduceCtorEq, iff_false]
      omega
    | reduce rule =>
      simp only [Action.cell, reduceCtorEq, iff_false]
      omega
    | accept => simp [Action.cell]
    | error => simp [Action.cell]

/-- **Packing a table is exact.** It succeeds just if no shift and no goto leads beyond state 126
and no reduction is by a rule beyond 128. Then there is a packed row for each state, with a cell
for each of its actions and gotos that is the number of the action or the target of the goto, and
the cell 127 stands for accepting only. Otherwise the first overflow is reported. -/
theorem pack_exact (t : Table) :
    ((∃ rows, t.pack = .ok rows) ↔
      (∀ state terminal rule, t.action? state terminal = some (.reduce rule) → rule ≤ 128) ∧
      (∀ state terminal target, t.action? state terminal = some (.shift target) →
        target ≤ 126) ∧
      ∀ state nonterminal target, t.goto? state nonterminal = some (some target) →
        target ≤ 126) ∧
    (∀ rows, t.pack = .ok rows → rows = t.rows.toList.map Row.cells ∧
      ∀ state terminal, PackedRow.cell? rows state terminal = some 127 ↔
        t.action? state terminal = some .accept) ∧
    ∀ e, t.pack = .error e ↔
      ∃ position a, t.First (fun move => ¬ move.HasCell) position a ∧ e = ⟨idOf position, a⟩ := by
  refine ⟨?_, fun rows hrows => ⟨pack_eq_cells hrows, cell?_eq_accept_iff hrows⟩,
    fun e => pack_eq_error_iff⟩
  rw [exists_pack_iff, @forall_moves_iff t Action.HasCell trivial trivial]
  exact Iff.rfl

/-- A row whose entries just have cells. -/
def fullRow : Row := ⟨#[.shift 126, .reduce 128, .accept], #[some 126, none], none⟩

/-- A table with a goto that has no cell in its second row and such a reduction in its third. -/
def wideTable : Table := ⟨#[fullRow, ⟨#[.error, .shift 0, .reduce 0], #[none, some 127], none⟩,
  ⟨#[.reduce 129, .error, .error], #[none, none], none⟩]⟩

theorem pack_exact_wideTable : wideTable.pack = .error ⟨1, .shift 127⟩ ∧
    (Table.mk #[fullRow]).pack = .ok [⟨[126, -128, 127], [126, 0]⟩] := by
  obtain ⟨-, -, herror⟩ := pack_exact wideTable
  obtain ⟨-, hcells, -⟩ := pack_exact (Table.mk #[fullRow])
  constructor
  · have hmoves : wideTable.moves = [(0, .shift 126), (0, .reduce 128), (0, .accept),
        (0, .shift 126), (1, .error), (1, .shift 0), (1, .reduce 0)] ++
        (1, .shift 127) :: [(2, .reduce 129), (2, .error), (2, .error)] := by decide
    have hfirst : wideTable.First (fun move => ¬ move.HasCell) 1 (.shift 127) :=
      ⟨_, _, hmoves, by simp [Action.HasCell], by simp [Action.HasCell]⟩
    exact (herror _).2 ⟨1, .shift 127, hfirst, rfl⟩
  · obtain ⟨rows, hrows⟩ : ∃ rows, (Table.mk #[fullRow]).pack = .ok rows := ⟨_, rfl⟩
    rw [hrows, (hcells rows hrows).1]
    rfl

end Table
end ParserTables
