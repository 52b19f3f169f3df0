import ParserTables.Id
import ParserTables.Table.Basic

/-! Building a parse table, one entry at a time.

Blocks come in the order of their states. What a second entry for the same slot does
depends on the strictness, and the rule is the same for terminals and for the fallback
(`Strictness.drops`, `Strictness.refuses`): strict building keeps the first and refuses the
second, legacy building keeps the last. An entry outside of any block is dropped. Recording an
entry yields the builder after it, also if the entry is refused. -/
namespace ParserTables

/-- How literally a report is taken. -/
inductive Strictness where
  /-- Only what the generator settled on counts: entries it discarded are dropped, a
  second entry is refused, and references are checked. -/
  | strict
  /-- Every listed entry counts, discarded ones too, and the last one wins. -/
  | legacy
deriving DecidableEq

/-- Are entries of this kind dropped? -/
def Strictness.drops (s : Strictness) (discarded : Bool) : Bool := s = .strict && discarded

/-- Is an entry refused, given whether the slot has one already? -/
def Strictness.refuses (s : Strictness) (taken : Bool) : Bool := s = .strict && taken

/-- Why an entry was not recorded. -/
inductive EntryError where
  /-- The slot has an entry already. -/
  | duplicate
  /-- There is no such column. -/
  | outOfRange
deriving DecidableEq

/-! ### Entries in a block -/

namespace Block

/-- Record an action on a terminal. Whether the terminal had one is only known once it is
marked, so it is marked also if the entry is refused then. -/
def recordAction (b : Block) (s : Strictness) (terminal : Nat) (entry : Action)
    (discarded : Bool) : Block × Option EntryError :=
  if s.drops discarded then (b, none)
  else if s.refuses (b.marked terminal) then (b.mark terminal, some .duplicate)
  else if terminal < b.actions.size then (b.enter terminal entry, none)
  else (b.mark terminal, some .outOfRange)

/-- Record the fallback action. -/
def recordFallback (b : Block) (s : Strictness) (entry : Action) (discarded : Bool) :
    Block × Option EntryError :=
  if s.drops discarded then (b, none)
  else if s.refuses b.fallback.isSome then (b, some .duplicate)
  else ({ b with fallback := some entry }, none)

/-- Record the successor for a nonterminal; the last one wins. -/
def recordGoto (b : Block) (nonterminal target : Nat) : Block × Option EntryError :=
  if nonterminal < b.gotos.size then
    ({ b with gotos := b.gotos.setIfInBounds nonterminal (some target) }, none)
  else (b, some .outOfRange)

end Block

/-! ### Builders -/

/-- A table of which some rows are complete and one may be open. -/
structure Builder where
  strictness : Strictness
  terminals : Nat
  nonterminals : Nat
  rows : Array Row
  block : Option Block

namespace Builder

def empty (strictness : Strictness) (terminals nonterminals : Nat) : Builder :=
  { strictness, terminals, nonterminals, rows := #[], block := none }

/-- The rows, the open one included. -/
def closed (b : Builder) : Array Row :=
  match b.block with
  | none => b.rows
  | some block => b.rows.push block.close

/-- The id of the state that the next block describes. -/
def nextState (b : Builder) : Nat := idOf (b.rows.size + if b.block.isSome then 1 else 0)

/-- The id of the state that the open block describes. -/
def openState (b : Builder) : Nat := idOf b.rows.size

/-- Close the open block and open the next one. -/
def beginState (b : Builder) : Builder :=
  { b with rows := b.closed, block := some (.empty b.terminals b.nonterminals) }

/-- Record an entry in the open block, if there is one. -/
def record (b : Builder) (entry : Block → Block × Option EntryError) :
    Builder × Option EntryError :=
  match b.block with
  | none => (b, none)
  | some block => ({ b with block := some (entry block).1 }, (entry block).2)

/-- Record an action on a terminal. -/
def action (b : Builder) (terminal : Nat) (entry : Action) (discarded : Bool) :
    Builder × Option EntryError :=
  b.record (·.recordAction b.strictness terminal entry discarded)

/-- Record the fallback action. -/
def fallback (b : Builder) (entry : Action) (discarded : Bool) : Builder × Option EntryError :=
  b.record (·.recordFallback b.strictness entry discarded)

/-- Record the successor for a nonterminal. -/
def goto (b : Builder) (nonterminal target : Nat) : Builder × Option EntryError :=
  b.record (·.recordGoto nonterminal target)

/-- The finished table. -/
def finish (b : Builder) : Table := ⟨b.closed⟩

end Builder
end ParserTables
