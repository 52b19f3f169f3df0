import ParserTables.Symbol.Listing
import ParserTables.Table.Row

/-! Parse tables: their consistency and their text.

A table is consistent if every reduction names a declared rule and every transition
ends in a row of the table. `violation?` finds the first place where it is not: states in
order, in a state the actions before the gotos. -/
namespace ParserTables

/-- A row for every state. -/
structure Table where
  rows : Array Row

/-- A reference in a table to something that is not there. -/
inductive TableError where
  | undeclaredRule (state rule : Nat)
  | stateOutOfRange (state target : Nat)
  | undeclaredNonterminal (rule : Nat) (name : Text)
deriving DecidableEq

def TableError.message : TableError → Text
  | .undeclaredRule state rule =>
    "state ".toList ++ Text.ofNat state ++ " reduces by undeclared rule ".toList ++
      Text.ofNat rule
  | .stateOutOfRange state target =>
    "state ".toList ++ Text.ofNat state ++ " refers to nonexistent state ".toList ++
      Text.ofNat target
  | .undeclaredNonterminal rule name =>
    "rule ".toList ++ Text.ofNat rule ++ " produces `".toList ++ name ++
      "', which is not a listed nonterminal".toList

namespace Row

/-- What is wrong with going to a state, in a table with `states` rows. -/
def targetViolation? (states state target : Nat) : Option TableError :=
  if target < states then none else some (.stateOutOfRange state target)

/-- What is wrong with an action of a state. -/
def actionViolation? (declared : Nat → Bool) (states state : Nat) : Action → Option TableError
  | .reduce rule => if declared rule then none else some (.undeclaredRule state rule)
  | .shift target => targetViolation? states state target
  | .accept => none
  | .error => none

/-- The first thing wrong with a row. -/
def violation? (declared : Nat → Bool) (states state : Nat) (row : Row) : Option TableError :=
  (row.actions.toList.findSome? (actionViolation? declared states state)).or
    (row.gotos.toList.findSome? fun goto => goto.bind (targetViolation? states state))

/-- The lines that show a row. There are none if a symbol has no column. -/
def lines? (symbols : SymbolTable) (state : Nat) (row : Row) : Option (List Text) := do
  let actions ← symbols.terminals.toList.zipIdx.mapM fun (name, position) =>
    row.actions[idOf position]?.map fun action =>
      "- ".toList ++ name ++ " => ".toList ++ action.text
  let gotos ← symbols.nonterminals.toList.zipIdx.mapM fun (name, position) =>
    row.gotos[idOf position]?.map fun goto => goto.toList.map fun target =>
      "- ".toList ++ name ++ " => goto(".toList ++ Text.ofNat target ++ ")".toList
  let fallback := row.fallback.toList.map fun action =>
    "- $default => ".toList ++ action.text
  return ("#### State ".toList ++ Text.ofNat state) :: "## actions".toList ::
    actions ++ fallback ++ "## gotos".toList :: gotos.flatten

end Row

namespace Table

def size (t : Table) : Nat := t.rows.size

/-- The rows with the ids of their states. -/
def states (t : Table) : List (Nat × Row) :=
  t.rows.toList.zipIdx.map fun (row, position) => (idOf position, row)

/-- The first thing wrong with a table, if anything is. -/
def violation? (declared : Nat → Bool) (t : Table) : Option TableError :=
  t.states.findSome? fun (state, row) => row.violation? declared t.size state

/-- The text that shows a table, with an empty line between states. -/
def text? (symbols : SymbolTable) (t : Table) : Option Text := do
  let blocks ← t.states.mapM fun (state, row) => row.lines? symbols state
  return Text.join ['\n'] (blocks.map Text.unlines)

end Table
end ParserTables
