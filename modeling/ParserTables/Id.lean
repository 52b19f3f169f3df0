import ParserTables.Text.Decimal

/-! Sixteen-bit ids.

Symbols, rules and states are numbered from zero, and an id has sixteen bits: the id of
a position is its remainder modulo `idCount`. The two differ only past the
65536th entry, where ids start again at zero. -/
namespace ParserTables

/-- The number of distinct ids. -/
def idCount : Nat := 65536

/-- The id of the entry at a position. -/
def idOf (position : Nat) : Nat := position % idCount

theorem idOf_le (position : Nat) : idOf position ≤ position := Nat.mod_le ..

theorem idOf_of_lt {position : Nat} (h : position < idCount) : idOf position = position :=
  Nat.mod_eq_of_lt h

/-- What an id counts. -/
inductive IdKind where
  | terminal
  | nonterminal
  | rule
  | state

/-- The letter that marks an id in messages. -/
def IdKind.letter : IdKind → Char
  | .terminal => 'T'
  | .nonterminal => 'N'
  | .rule => 'R'
  | .state => 'S'

/-- An id with its mark, in at least three digits. -/
def IdKind.label (kind : IdKind) (id : Nat) : Text :=
  let digits := Text.ofNat id
  kind.letter :: '#' :: (List.replicate (3 - digits.length) '0' ++ digits)

end ParserTables
