import ParserTables.Symbol.Basic

/-! Production rules. -/
namespace ParserTables

/-- A production rule: its number, the nonterminal it produces and the symbols it is
produced from. -/
structure Rule where
  number : Nat
  left : Text
  right : List Symbol
deriving DecidableEq

namespace Rule

/-- The number of symbols a reduction takes off the stack. -/
def arity (r : Rule) : Nat := r.right.length

/-- A right-hand side as it is written: a blank before each symbol, and a mark for none. -/
def rightText : List Symbol → Text
  | [] => " %empty".toList
  | symbols => symbols.flatMap fun s => ' ' :: s.text

/-- A rule as it is written, number aside. -/
def text (r : Rule) : Text := r.left ++ ':' :: rightText r.right

end Rule
end ParserTables
