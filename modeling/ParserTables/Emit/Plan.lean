import ParserTables.Automaton.Basic
import ParserTables.Emit.Identifier
import ParserTables.Table.Packed
import Std.Data.TreeMap

/-! What is emitted, before it is text.

What can go wrong in emitting an automaton goes wrong here, whatever the language: an
entry fits into no cell, a rule has more symbols than a cell can count, or two listed
names get one identifier. Which of them is reported is fixed: cells first, then rules in
their order, then terminals, then nonterminals. -/
namespace ParserTables

/-- Why an automaton cannot be emitted. -/
inductive EmitError where
  | cellOverflow (cause : CellOverflow)
  | arityOverflow (rule arity : Nat)
  | nameCollision (first second identifier : Text)
  /-- A field of so many characters is wider than a field can be. -/
  | fieldTooWide (width : Nat)
deriving DecidableEq

/-- What went wrong, the most general statement first. -/
def EmitError.causes : EmitError → List Text
  | .cellOverflow cause => ["failed to pack the parse table".toList, cause.message]
  | .arityOverflow rule arity =>
    ["rule ".toList ++ Text.ofNat rule ++ " has ".toList ++ Text.ofNat arity ++
      " symbols, more than a table cell can hold".toList]
  | .nameCollision first second identifier =>
    ["`".toList ++ first ++ "' and `".toList ++ second ++
      "' both map to the identifier `".toList ++ identifier ++ ['\'']]
  | .fieldTooWide width =>
    ["a field of ".toList ++ Text.ofNat width ++ " characters is too wide".toList]

/-- The parts of an emitted source. -/
structure Plan where
  symbols : SymbolTable
  /-- In ascending order of their numbers. -/
  rules : List Rule
  rows : List PackedRow
  /-- The identifiers of the terminals, in the order of the listing. -/
  terminals : List Text
  /-- The identifiers of the nonterminals, in the order of the listing. -/
  nonterminals : List Text

namespace Plan

/-- The largest number of symbols that a rule record can hold. -/
def largestArity : Nat := 127

/-- What is wrong with a rule's arity. -/
def arityOverflow? (r : Rule) : Option EmitError :=
  if r.arity ≤ largestArity then none else some (.arityOverflow r.number r.arity)

/-- The identifiers of names, if they differ from one another and from those of the
`owners`. -/
def assign (identifier : Text → Text) (owners : Std.TreeMap Text Text) :
    List Text → Except EmitError (List Text)
  | [] => .ok []
  | name :: rest =>
    let id := identifier name
    match owners[id]? with
    | some first => .error (.nameCollision first name id)
    | none => do return id :: (← assign identifier (owners.insert id name) rest)

/-- The identifiers of names, if they differ from one another. -/
def identifiers (identifier : Text → Text) (names : List Text) : Except EmitError (List Text) :=
  assign identifier ∅ names

variable [Text.IdentifierPart]

def ofAutomaton (a : Automaton) : Except EmitError Plan := do
  let rows ← a.table.pack.mapError .cellOverflow
  let rules := a.rules.toList
  if let some e := rules.findSome? arityOverflow? then throw e
  let terminals ← identifiers Identifier.ofTerminal a.symbols.terminals.toList
  let nonterminals ← identifiers Identifier.ofNonterminal a.symbols.nonterminals.toList
  return { symbols := a.symbols, rules, rows, terminals, nonterminals }

/-- The identifier of the nonterminal that a rule produces. -/
def produced (r : Rule) : Text := Identifier.ofNonterminal r.left

/-- The text of a rule's descriptor, its symbols spelled as identifiers. -/
def descriptorText (r : Rule) : Text := (Descriptor.ofRule r).text Identifier.ofSymbol

end Plan
end ParserTables
