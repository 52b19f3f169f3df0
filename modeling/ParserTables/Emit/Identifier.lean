import ParserTables.Symbol.Basic
import ParserTables.Text.Decimal
import ParserTables.Text.IdentifierPart

/-! The identifiers of symbols in the emitted sources.

A symbol's name is turned into the tail of an identifier (`mangle`), and a mark in front
tells terminals from nonterminals. Different names may get the same identifier. Which characters
stay as they are is a choice (`Text.IdentifierPart`). -/
namespace ParserTables.Identifier

/-- The code of a character in at least two hexadecimal digits. -/
def code (c : Char) : Text :=
  let digits := (Text.ofNatHex c.toNat).map Char.toUpper
  List.replicate (2 - digits.length) '0' ++ digits

variable [Text.IdentifierPart]

/-- What stands for a character inside an identifier. -/
def part (c : Char) : Char :=
  if c = '$' then 'Z'
  else if c = '@' then 'A'
  else if Text.continuesIdentifier c then c
  else '_'

/-- The tail of the identifier of a name. A quoted character goes by its code. -/
def mangle : Text → Text
  | ['\'', c, '\''] => "LIT_".toList ++ code c
  | name => name.map part

def ofTerminal (name : Text) : Text := "T_".toList ++ mangle name

def ofNonterminal (name : Text) : Text := "NT_".toList ++ mangle name

/-- The identifier of a symbol of a rule. -/
def ofSymbol : Symbol → Text
  | .literal c => ofTerminal (Symbol.literal c).text
  | .terminal name => ofTerminal name
  | .nonterminal name => ofNonterminal name

end ParserTables.Identifier
