import ParserTables.Table.Basic

/-! Tables of cells.

Packing a table turns every action into its cell; a goto becomes the cell of a shift to
its target, and the cell 0 where there is none. The first entry that fits into no cell,
in the order of the rows and actions before gotos, is reported. -/
namespace ParserTables

structure PackedRow where
  actions : List Int
  gotos : List Int
deriving DecidableEq

/-- An entry that fits into no cell: a transition, given as a shift, or a reduction. -/
structure CellOverflow where
  state : Nat
  action : Action
deriving DecidableEq

def CellOverflow.message (e : CellOverflow) : Text :=
  e.action.text ++ " in state ".toList ++ Text.ofNat e.state ++
    " does not fit into a table cell".toList

namespace Row

/-- The cell of an action in a state. -/
def packAction (state : Nat) (action : Action) : Except CellOverflow Int :=
  match action.toCell? with
  | some cell => .ok cell
  | none => .error ⟨state, action⟩

/-- The cell of a goto in a state. -/
def packGoto (state : Nat) : Option Nat → Except CellOverflow Int
  | none => .ok 0
  | some target => packAction state (.shift target)

def pack (state : Nat) (row : Row) : Except CellOverflow PackedRow := do
  let actions ← row.actions.toList.mapM (packAction state)
  let gotos ← row.gotos.toList.mapM (packGoto state)
  return { actions, gotos }

end Row

/-- The rows of a table, packed. -/
def Table.pack (t : Table) : Except CellOverflow (List PackedRow) :=
  t.states.mapM fun (state, row) => row.pack state

end ParserTables
