import ParserTables.Rule.Descriptor

/-! What the descriptor of a rule holds, and how it is written.

A descriptor has the left side and the symbols of its rule, and a fixed shape just if there are at
most six symbols. The links of a chain are opened one by one and closed all at once, by their
number; what is written is the text in which each link stands around the rest
(`Chain.textFrom_eq`). `Descriptor.ofRule_carries` says all of this of every rule. -/
namespace ParserTables

namespace Chain

/-- The text of a chain whose links stand one inside the other. -/
def nested (spell : Symbol → Text) : Chain → Text
  | last => "TokenEOF".toList
  | link s rest => "RP<".toList ++ spell s ++ ", ".toList ++ (rest.nested spell ++ "> ".toList)

/-- **Every link is closed**, those of the chain inside of those before it. -/
theorem textFrom_eq (spell : Symbol → Text) (depth : Nat) (c : Chain) :
    c.textFrom spell depth =
      c.nested spell ++ (List.replicate depth "> ".toList).flatten := by
  induction c generalizing depth with
  | last => rfl
  | link s rest ih =>
    -- the first of the marks that close `depth + 1` links closes this one
    calc (link s rest).textFrom spell depth
        = "RP<".toList ++ spell s ++ ", ".toList ++ rest.textFrom spell (depth + 1) := rfl
      _ = "RP<".toList ++ spell s ++ ", ".toList ++ ((rest.nested spell ++ "> ".toList) ++
            (List.replicate depth "> ".toList).flatten) := by
          rw [ih, List.replicate_succ, List.flatten_cons, List.append_assoc (rest.nested spell)]
      _ = (link s rest).nested spell ++ (List.replicate depth "> ".toList).flatten :=
          (List.append_assoc ..).symm

end Chain

namespace Descriptor

/-- A fixed shape is written as a list. -/
theorem text_fixed (spell : Symbol → Text) (left : Text) (right : List Symbol) :
    (fixed left right).text spell = "R".toList ++ Text.ofNat right.length ++ "(".toList ++
      Text.join [','] (spell (.nonterminal left) :: right.map spell) ++ ")".toList := by
  have hlist : Text.join [','] (spell (.nonterminal left) :: right.map spell) =
      spell (.nonterminal left) ++ right.flatMap fun s => ',' :: spell s := by
    rw [Text.join_cons, List.flatMap_map]
    rfl
  calc (fixed left right).text spell
      = 'R' :: Text.ofNat right.length ++ '(' :: spell (.nonterminal left) ++
          right.flatMap (fun s => ',' :: spell s) ++ [')'] := rfl
    _ = _ := by
        rw [hlist]
        simp only [List.append_assoc]
        rfl

/-- A chain is written as its links stand one inside the other. -/
theorem text_chain (spell : Symbol → Text) (left : Text) (links : Chain) :
    (chain left links).text spell = "RulePat<".toList ++ spell (.nonterminal left) ++
      ", ".toList ++ links.nested spell ++ ">".toList := by
  have hlinks : links.textFrom spell 0 = links.nested spell := by
    rw [links.textFrom_eq, List.replicate_zero, List.flatten_nil, List.append_nil]
  exact congrArg (fun links => "RulePat<".toList ++ spell (.nonterminal left) ++ ", ".toList ++
    links ++ ">".toList) hlinks

theorem exists_fixed_iff {r : Rule} :
    (∃ left right, ofRule r = .fixed left right) ↔ r.arity ≤ longestFixed := by
  unfold ofRule
  split
  · exact iff_of_true ⟨r.left, r.right, rfl⟩ ‹_›
  · exact iff_of_false nofun ‹_›

/-- **The descriptor of a rule** has its left side, its arity and its symbols, and a fixed shape
just if there are at most six of them. A fixed shape is written as a list, and a chain as its links
stand one inside the other, however the symbols are spelled. -/
theorem ofRule_carries (r : Rule) :
    (ofRule r).left = r.left ∧ (ofRule r).arity = r.arity ∧ (ofRule r).symbols = r.right ∧
    ((∃ left right, ofRule r = .fixed left right) ↔ r.arity ≤ 6) ∧
    ∀ (spell : Symbol → Text) (left : Text),
      (∀ right : List Symbol, (fixed left right).text spell =
        "R".toList ++ Text.ofNat right.length ++ "(".toList ++
          Text.join [','] (spell (.nonterminal left) :: right.map spell) ++ ")".toList) ∧
      ∀ links : Chain, (chain left links).text spell =
        "RulePat<".toList ++ spell (.nonterminal left) ++ ", ".toList ++ links.nested spell ++
          ">".toList := by
  have harity : (ofRule r).arity = r.arity := by
    rw [← length_symbols, symbols_ofRule]
    rfl
  exact ⟨left_ofRule r, harity, symbols_ofRule r, exists_fixed_iff,
    fun spell left => ⟨text_fixed spell left, text_chain spell left⟩⟩

/-- Two links of a chain, one inside the other. -/
example : (Chain.ofList [.terminal "A".toList, .literal '+']).nested Symbol.text =
    "RP<A, RP<'+', TokenEOF> > ".toList := by decide

end Descriptor
end ParserTables
