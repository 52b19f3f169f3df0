import ParserTables.Rule.Basic
import ParserTables.Text.Decimal

/-! Reduction descriptors.

The parser that uses the tables takes a short rule as one fixed shape and a longer one
as a chain with a link for each symbol. -/
namespace ParserTables

/-- The symbols of a long rule, the first one in the outermost link. -/
inductive Chain where
  | last
  | link (symbol : Symbol) (rest : Chain)

namespace Chain

/-- The chain of some symbols, built from the last one outward. -/
def ofList (symbols : List Symbol) : Chain :=
  symbols.reverse.foldl (fun rest s => link s rest) last

/-- The symbols, from the outermost link inwards. -/
def toList : Chain → List Symbol
  | last => []
  | link s rest => s :: rest.toList

/-- The links of a chain, counted on from those before it. -/
def lengthFrom (before : Nat) : Chain → Nat
  | last => before
  | link _ rest => rest.lengthFrom (before + 1)

/-- The number of links. -/
def length (c : Chain) : Nat := c.lengthFrom 0

/-- The text of a chain before which `depth` links are open. Its own links are opened in
turn, and all of them are closed after the mark for the end. -/
def textFrom (spell : Symbol → Text) (depth : Nat) : Chain → Text
  | last => "TokenEOF".toList ++ (List.replicate depth "> ".toList).flatten
  | link s rest => "RP<".toList ++ spell s ++ ", ".toList ++ rest.textFrom spell (depth + 1)

theorem ofList_cons (s : Symbol) (rest : List Symbol) :
    ofList (s :: rest) = link s (ofList rest) := by
  simp [ofList, List.foldl_append]

@[simp] theorem toList_ofList (symbols : List Symbol) : (ofList symbols).toList = symbols := by
  induction symbols with
  | nil => rfl
  | cons s rest ih => rw [ofList_cons, toList, ih]

theorem lengthFrom_eq (before : Nat) (c : Chain) :
    c.lengthFrom before = before + c.toList.length := by
  induction c generalizing before with
  | last => rfl
  | link s rest ih =>
    rw [lengthFrom, ih, toList, List.length_cons]
    omega

theorem length_toList (c : Chain) : c.toList.length = c.length := by
  rw [length, lengthFrom_eq, Nat.zero_add]

end Chain

/-- How a rule is reduced. -/
inductive Descriptor where
  | fixed (left : Text) (right : List Symbol)
  | chain (left : Text) (links : Chain)

namespace Descriptor

/-- The longest right-hand side that has a fixed shape. -/
def longestFixed : Nat := 6

def ofRule (r : Rule) : Descriptor :=
  if r.arity ≤ longestFixed then .fixed r.left r.right else .chain r.left (.ofList r.right)

def left : Descriptor → Text
  | .fixed left _ => left
  | .chain left _ => left

/-- The symbols of the rule, in order. -/
def symbols : Descriptor → List Symbol
  | .fixed _ right => right
  | .chain _ links => links.toList

/-- The number of symbols of the rule. -/
def arity : Descriptor → Nat
  | .fixed _ right => right.length
  | .chain _ links => links.length

/-- The text of a descriptor whose symbols are spelled by `spell`. -/
def text (spell : Symbol → Text) : Descriptor → Text
  | .fixed left right =>
    'R' :: Text.ofNat right.length ++ '(' :: spell (.nonterminal left) ++
      right.flatMap (fun s => ',' :: spell s) ++ [')']
  | .chain left links =>
    "RulePat<".toList ++ spell (.nonterminal left) ++ ", ".toList ++ links.textFrom spell 0 ++
      ">".toList

@[simp] theorem left_ofRule (r : Rule) : (ofRule r).left = r.left := by
  unfold ofRule
  split <;> rfl

@[simp] theorem symbols_ofRule (r : Rule) : (ofRule r).symbols = r.right := by
  unfold ofRule
  split <;> simp [symbols]

theorem length_symbols (d : Descriptor) : d.symbols.length = d.arity := by
  cases d with
  | fixed left right => rfl
  | chain left links => exact links.length_toList

end Descriptor
end ParserTables
