import ParserTables.Rule.Collection
import ParserTables.Rule.Descriptor
import ParserTables.Table.Basic

/-! The automaton that a report describes. -/
namespace ParserTables

/-- Something odd in a report that does not keep it from being read. -/
structure Diagnostic where
  line : Nat
  message : Text
deriving DecidableEq

def Diagnostic.text (d : Diagnostic) : Text :=
  "line ".toList ++ Text.ofNat d.line ++ ": ".toList ++ d.message

/-- A parser: the symbols of its grammar, the rules and the table that drives it, with
what was odd about its report. -/
structure Automaton where
  symbols : SymbolTable
  rules : RuleSet
  table : Table
  diagnostics : List Diagnostic

namespace Automaton

/-- The descriptors of the rules, in the order of the rules. -/
def descriptors (a : Automaton) : List Descriptor := a.rules.toList.map .ofRule

/-- What is wrong with a rule: it may produce something that is not listed. -/
def ruleViolation? (symbols : SymbolTable) (r : Rule) : Option TableError :=
  match symbols.nonterminals.position? r.left with
  | some _ => none
  | none => some (.undeclaredNonterminal r.number r.left)

/-- The first reference to something that is not there: first of the rules, then of the
table. -/
def violation? (a : Automaton) : Option TableError :=
  (a.rules.toList.findSome? (ruleViolation? a.symbols)).or (a.table.violation? a.rules.contains)

/-- The text that shows the table. -/
def tableText? (a : Automaton) : Option Text := a.table.text? a.symbols

end Automaton
end ParserTables
