import ParserTables.Proofs.Report.Sections
import ParserTables.Proofs.Report.Unplaced

/-! Rules that stand in their places.

The emitted tables find a rule by its position, and a report may number its rules in any order and
leave gaps. The reader compares the number of each rule with the number of rules before it and notes
those that differ. That is enough: as long as nothing was noted, every rule went to the end of the
rules, which are numbered from zero without a gap (`Reader.Numbered.feed`,
`Automaton.positional_of_read`). -/
namespace ParserTables

/-- What is noted of a rule whose number is not the number of rules before it. -/
def Rule.misplaced (number count : Nat) : Text :=
  "rule ".toList ++ Text.ofNat number ++ " follows ".toList ++ Text.ofNat count ++
    " rules; reductions will index the wrong rule record".toList

/-- Some rule was noted to be out of its place. -/
def Misplaces (notes : List Diagnostic) : Prop :=
  ∃ d ∈ notes, ∃ number count, d.message = Rule.misplaced number count

theorem not_misplaces_nil : ¬ Misplaces [] := fun ⟨_, hd, _⟩ => absurd hd List.not_mem_nil

/-! ### What a line does to the rules -/

namespace Reader

/-- A rule was added by line `n`, and noted if it is out of its place. -/
structure Adds (r : Reader) (n : Nat) (rule : Rule) (r' : Reader) : Prop where
  rules : r.rules.insert rule = (r'.rules, none)
  oddities : r'.oddities =
    if rule.number = r.rules.size then r.oddities
    else ⟨n, Rule.misplaced rule.number r.rules.size⟩ :: r.oddities

/-- The rules are left alone, or one rule is added. -/
def AddsAtMost (r : Reader) (n : Nat) (r' : Reader) : Prop :=
  r'.rules = r.rules ∨ ∃ rule, r.Adds n rule r'

/-- A rule whose number is free is added. -/
theorem adds_of_insert {r : Reader} {rule : Rule} {rules : RuleSet}
    (h : r.rules.insert rule = (rules, none)) (n : Nat) : r.Adds n rule (r.addRule n rule).1 := by
  unfold addRule
  rw [h]
  dsimp only
  by_cases hplace : rule.number = r.rules.size
  · rw [if_pos hplace]
    exact ⟨h, (if_pos hplace).symm⟩
  · rw [if_neg hplace]
    exact ⟨h, (if_neg hplace).symm⟩

theorem addRule_adds (r : Reader) (n : Nat) (rule : Rule) :
    r.AddsAtMost n (r.addRule n rule).1 := by
  rcases hrules : r.rules.insert rule with ⟨rules, _ | refused⟩
  · exact .inr ⟨rule, adds_of_insert hrules n⟩
  · rw [addRule, hrules]
    exact .inl (RuleSet.insert_refused hrules).1

theorem grammarLine_adds (r : Reader) (left : Option Text) (n : Nat) (line : Text) :
    r.AddsAtMost n (r.grammarLine left n line).1 := by
  unfold grammarLine
  cases Line.rule? line with
  | none => exact .inl rfl
  | some parsed =>
    dsimp only
    cases parsed.left.or left with
    | none => exact .inl rfl
    | some left =>
      -- where the reader stands has no part in adding a rule
      rcases addRule_adds { r with stretch := .grammar (some left) } n
        ⟨parsed.number, left, Symbol.ofRight parsed.right⟩ with hsame | ⟨rule, hadds⟩
      · exact .inl hsame
      · exact .inr ⟨rule, hadds.rules, hadds.oddities⟩

/-- **One line adds one rule at most**, and it is noted just if its number is not the number of
rules before it. -/
theorem rules_feed (r : Reader) (n : Nat) (line : Text) : r.AddsAtMost n (r.feed n line).1 := by
  have htakes := r.takes_feed n line
  generalize r.feed n line = fed at htakes ⊢
  cases htakes with
  | blank _ => exact .inl rfl
  | preamble _ _ => exact .inl rfl
  | enterGrammar _ _ => exact .inl rfl
  | rule _ _ => exact grammarLine_adds ..
  | enterTerminals _ _ => exact .inl rfl
  | @terminal column _ _ =>
    obtain ⟨terminals, hline⟩ := terminalLine_eq r column line
    exact .inl (by rw [accept, hline])
  | enterNonterminals _ _ => exact .inl rfl
  | @nonterminal column _ _ =>
    obtain ⟨nonterminals, hline⟩ := nonterminalLine_eq r column line
    exact .inl (by rw [accept, hline])
  | enterStates _ _ =>
    obtain ⟨b, -, hamong⟩ := beginState_step r _ n _
    exact .inl hamong.rules
  | beginState _ _ =>
    obtain ⟨b, -, hamong⟩ := beginState_step r _ n _
    exact .inl hamong.rules
  | entry hs _ =>
    obtain ⟨b, -, hamong⟩ := stateLine_step hs n line
    exact .inl hamong.rules

/-! ### Rules in their places -/

/-- The rules are in their places, or one was noted to be out of its place. -/
def Numbered (r : Reader) : Prop := ¬ Misplaces r.oddities → Positional r.rules.toList

theorem numbered_start (s : Strictness) : (start s).Numbered := by
  intro _
  rw [show (start s).rules = .empty from rfl, RuleSet.toList_empty]
  rfl

/-- A line that adds a rule in its place adds it at the end; any other rule is noted. -/
theorem Numbered.feed {r : Reader} (h : r.Numbered) (n : Nat) (line : Text) :
    (r.feed n line).1.Numbered := by
  intro hsilent
  have hbefore : Positional r.rules.toList := by
    apply h
    rintro ⟨d, hd, hmisplaced⟩
    exact hsilent ⟨d, r.oddities_feed n line hd, hmisplaced⟩
  rcases r.rules_feed n line with hsame | ⟨rule, hadds⟩
  · rwa [hsame]
  · by_cases hplace : rule.number = r.rules.size
    · have hnumber : rule.number = r.rules.toList.length := by rw [hplace, RuleSet.length_toList]
      have hlast : ∀ q ∈ r.rules.toList, q.number < rule.number := fun q hq =>
        hnumber ▸ hbefore.lt q hq
      rw [RuleSet.toList_insert hadds.rules hlast]
      exact hbefore.append hnumber
    · have hnoted : ⟨n, Rule.misplaced rule.number r.rules.size⟩ ∈ (r.feed n line).1.oddities := by
        rw [hadds.oddities, if_neg hplace]
        exact List.mem_cons_self ..
      exact absurd ⟨_, hnoted, _, _, rfl⟩ hsilent

end Reader

/-- **A report in which no rule is noted to be out of its place** numbers its rules from zero. -/
theorem Automaton.positional_of_read {s : Strictness} {source : Text} {a : Automaton}
    (h : Automaton.read s source = .ok a) (hsilent : ¬ Misplaces a.diagnostics) :
    Reader.Positional a.rules.toList := by
  obtain ⟨r, b, hrun, -, rfl⟩ := exists_of_read h
  have hnumbered : r.Numbered :=
    Reader.feedAll_preserves (fun _ n line hr _ => hr.feed n line) hrun (Reader.numbered_start s)
  apply hnumbered
  rintro ⟨d, hd, hmisplaced⟩
  exact hsilent ⟨d, List.mem_reverse.2 hd, hmisplaced⟩

/-- Rules in their places are found by position. -/
theorem RuleSet.getElem?_toList {rules : RuleSet} (h : Reader.Positional rules.toList) (k : Nat) :
    rules.toList[k]? = rules.get? k := by
  by_cases hk : k < rules.toList.length
  · have hnumber : (rules.toList[k]).number = k := by
      have hat : (rules.toList.map Rule.number)[k]? = some k := by
        rw [show rules.toList.map Rule.number = _ from h, List.getElem?_range hk]
      rw [List.getElem?_map, List.getElem?_eq_getElem hk] at hat
      exact Option.some.inj hat
    have hget := mem_toList_iff.1 (List.getElem_mem hk)
    rw [hnumber] at hget
    rw [List.getElem?_eq_getElem hk, hget]
  · rw [List.getElem?_eq_none (Nat.le_of_not_lt hk)]
    symm
    rw [Option.eq_none_iff_forall_ne_some]
    intro rule hrule
    obtain ⟨hmem, hnumber⟩ := mem_toList_of_get? hrule
    exact hk (hnumber ▸ h.lt rule hmem)

end ParserTables
