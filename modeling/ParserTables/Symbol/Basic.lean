import ParserTables.Symbol.Token
import ParserTables.Text.UpperCase

/-! The symbols of a grammar rule, told apart by their spelling.

A report has no other mark of a symbol's kind: a quoted character is a literal, a name
in upper case is a terminal, all else is a nonterminal. `text_ofToken` says that a symbol
keeps the spelling it was read from. -/
namespace ParserTables

/-- A symbol on the right-hand side of a rule. -/
inductive Symbol where
  /-- A character that stands for itself. -/
  | literal (c : Char)
  | terminal (name : Text)
  | nonterminal (name : Text)
deriving DecidableEq

namespace Symbol

/-- The terminal kept for error recovery. It has no column in the tables. -/
def errorName : Text := "error".toList

/-- The terminal that ends every input. -/
def endName : Text := "$end".toList

/-- The name that a state's fallback action is listed under. -/
def defaultName : Text := "$default".toList

/-- Is this name, not a quoted character, one of a terminal? The end of input and the error
terminal are, and so is a string alias. The names made up for actions inside rules start
with `$` or `@` and are none. -/
def isTerminalName (name : Text) : Bool :=
  name = endName || name = errorName || name.head? = some '"' ||
    !(name.head? = some '$' || name.head? = some '@') && Text.isUpperCase name

/-- The symbol that a token names. -/
def ofToken (token : Text) : Symbol :=
  match token with
  | ['\'', c, '\''] => .literal c
  | name => if isTerminalName name then .terminal name else .nonterminal name

/-- The spelling of a symbol. -/
def text : Symbol → Text
  | .literal c => ['\'', c, '\'']
  | .terminal name => name
  | .nonterminal name => name

def isTerminal : Symbol → Bool
  | .literal _ => true
  | .terminal _ => true
  | .nonterminal _ => false

/-- A symbol keeps the spelling it was read from. -/
@[simp] theorem text_ofToken (token : Text) : (ofToken token).text = token := by
  fun_cases ofToken token with
  | case1 c => rfl
  | case2 => simp [text]
  | case3 => simp [text]

/-- The right-hand sides that are written for no symbols at all. -/
def emptyMarks : List Text :=
  ["".toList, "/* empty */".toList, "%empty".toList, "ε".toList]

/-- The symbols of a right-hand side, in order. -/
def ofRight (t : Text) : List Symbol :=
  let t := Text.trim t
  if t ∈ emptyMarks then [] else (Token.all t).map ofToken

end Symbol
end ParserTables
