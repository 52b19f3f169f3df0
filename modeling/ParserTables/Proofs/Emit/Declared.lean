import ParserTables.Proofs.Emit.Assigned
import ParserTables.Proofs.Report.Listed
import ParserTables.Proofs.Symbol.Spelling
import ParserTables.Proofs.Table.Accepted
import ParserTables.Text.XidContinue

/-! Which symbols of the rules have an identifier in the emitted sources.

A plan declares an identifier for each listed name and no others (`Plan.ofAutomaton_eq_ok`). The
kind of a symbol in a rule is told from its spelling, and so its identifier is declared just if the
listing of that kind has a name that looks like it inside an identifier
(`Plan.ofSymbol_mem_declared`). The left sides of rules are listed; what stands on their right sides
need not be (`descriptor_declared_iff`, `undeclared_recoveryReport`). -/
namespace ParserTables

/-! ### Identifiers -/

theorem Text.continues_of_isWordPart [IdentifierPart] {c : Char} (h : isWordPart c = true) :
    continuesIdentifier c = true := by
  have hascii : c.toNat < 0x80 := by
    rcases Bool.or_eq_true_iff.1 h with hc | hc
    · rw [isAlphanum_iff] at hc
      omega
    · rw [beq_iff_eq.1 hc]
      decide
  rw [continuesIdentifier_ascii hascii, h]

namespace Identifier

variable [Text.IdentifierPart]

theorem ofTerminal_inj {a b : Text} : ofTerminal a = ofTerminal b ↔ mangle a = mangle b := by
  rw [ofTerminal, ofTerminal, List.append_cancel_left_eq]

theorem ofNonterminal_inj {a b : Text} :
    ofNonterminal a = ofNonterminal b ↔ mangle a = mangle b := by
  rw [ofNonterminal, ofNonterminal, List.append_cancel_left_eq]

/-- The marks in front tell the kinds apart. -/
theorem ofTerminal_ne_ofNonterminal (a b : Text) : ofTerminal a ≠ ofNonterminal b := by
  rw [ofTerminal, ofNonterminal]
  exact fun h => absurd (congrArg List.head? h) (by simp)

theorem ofSymbol_of_isTerminal {s : Symbol} (h : s.isTerminal = true) :
    ofSymbol s = ofTerminal s.text := by
  cases s with
  | literal c => rfl
  | terminal name => rfl
  | nonterminal name => exact absurd h nofun

theorem ofSymbol_of_not_isTerminal {s : Symbol} (h : s.isTerminal = false) :
    ofSymbol s = ofNonterminal s.text := by
  cases s with
  | literal c => exact absurd h nofun
  | terminal name => exact absurd h nofun
  | nonterminal name => rfl

theorem part_of_isWordPart {c : Char} (h : Text.isWordPart c = true) : part c = c := by
  have hz : c ≠ '$' := fun hc => absurd (hc ▸ h) (by decide)
  have ha : c ≠ '@' := fun hc => absurd (hc ▸ h) (by decide)
  rw [part, if_neg hz, if_neg ha, if_pos (Text.continues_of_isWordPart h)]

/-- A name of ASCII letters, digits and underscores is its own identifier. -/
theorem mangle_of_isWordPart {name : Text} (h : name.all Text.isWordPart = true) :
    mangle name = name := by
  have hword := List.all_eq_true.1 h
  fun_cases mangle name with
  | case1 c => exact absurd (hword '\'' List.mem_cons_self) (by decide)
  | case2 name =>
    have hself : ∀ c ∈ name, part c = id c := fun c hc => part_of_isWordPart (hword c hc)
    rw [List.map_congr_left hself, List.map_id]

/-- A character stands for itself, unless something that may stand for others does. -/
theorem part_eq_self {c : Char} (h : part c ∉ "ZA_".toList) : part c = c := by
  by_cases hz : c = '$'
  · have hmark : part '$' = 'Z' := rfl
    exact absurd (hz ▸ hmark ▸ by decide) h
  · by_cases ha : c = '@'
    · have hmark : part '@' = 'A' := rfl
      exact absurd (ha ▸ hmark ▸ by decide) h
    · rw [part, if_neg hz, if_neg ha] at h ⊢
      split
      · rfl
      · rename_i hc
        exact absurd (by rw [if_neg hc]; decide) h

/-- No other name looks like that of the error terminal. -/
theorem eq_errorName_of_mangle {name : Text} (h : mangle name = Symbol.errorName) :
    name = Symbol.errorName := by
  fun_cases mangle name with
  | case1 c =>
    rw [mangle] at h
    exact absurd (congrArg List.head? h) (by simp [Symbol.errorName])
  | case2 name hname =>
    rw [mangle.eq_2 name hname] at h
    have hself : ∀ c ∈ name, part c = id c := fun c hc => by
      have hmem : part c ∈ Symbol.errorName := h ▸ List.mem_map_of_mem hc
      have hnone : ∀ d ∈ Symbol.errorName, d ∉ "ZA_".toList := by simp [Symbol.errorName]
      exact part_eq_self (hnone _ hmem)
    rw [← h, List.map_congr_left hself, List.map_id]

end Identifier

/-! ### Plans -/

/-- The listed names of the kind that a symbol's spelling gives it. -/
def Symbol.peers (symbols : SymbolTable) (s : Symbol) : List Text :=
  if s.isTerminal then symbols.terminals.toList else symbols.nonterminals.toList

namespace Plan
open Identifier

theorem eq_ok_of_mapError {α ε ε' : Type} {f : ε → ε'} {x : Except ε α} {a : α}
    (h : x.mapError f = .ok a) : x = .ok a := by
  cases x with
  | error e => exact absurd h nofun
  | ok a => exact congrArg Except.ok (Except.ok.inj h)

variable [Text.IdentifierPart]

/-- A plan is made in four steps, and the second only looks at the arities. -/
theorem exists_of_ofAutomaton {a : Automaton} {p : Plan} (h : ofAutomaton a = .ok p) :
    a.table.pack = .ok p.rows ∧ a.rules.toList.findSome? arityOverflow? = none ∧
      identifiers ofTerminal a.symbols.terminals.toList = .ok p.terminals ∧
      identifiers ofNonterminal a.symbols.nonterminals.toList = .ok p.nonterminals ∧
      p.symbols = a.symbols ∧ p.rules = a.rules.toList := by
  obtain ⟨rows, hrows, h⟩ := exists_of_bind_eq_ok h
  dsimp only at h
  split at h
  · exact absurd h nofun
  · rename_i harity
    obtain ⟨terminals, hterminals, h⟩ := exists_of_bind_eq_ok h
    obtain ⟨nonterminals, hnonterminals, h⟩ := exists_of_bind_eq_ok h
    obtain rfl := Except.ok.inj h
    exact ⟨eq_ok_of_mapError hrows, Option.eq_none_iff_forall_ne_some.2 harity, hterminals,
      hnonterminals, rfl, rfl⟩

/-- What a plan consists of. -/
theorem ofAutomaton_eq_ok {a : Automaton} {p : Plan} (h : ofAutomaton a = .ok p) :
    p.symbols = a.symbols ∧ p.rules = a.rules.toList ∧ a.table.pack = .ok p.rows ∧
      p.terminals = a.symbols.terminals.toList.map ofTerminal ∧
      p.nonterminals = a.symbols.nonterminals.toList.map ofNonterminal := by
  obtain ⟨hrows, -, hterminals, hnonterminals, hsymbols, hrules⟩ := exists_of_ofAutomaton h
  exact ⟨hsymbols, hrules, hrows, (identifiers_eq_ok_iff.1 hterminals).2,
    (identifiers_eq_ok_iff.1 hnonterminals).2⟩

/-- The identifier of a symbol is declared if the listing of its kind has a name that looks like
it. -/
theorem ofSymbol_mem_declared {a : Automaton} {p : Plan} (h : ofAutomaton a = .ok p) (s : Symbol) :
    ofSymbol s ∈ p.terminals ++ p.nonterminals ↔
      ∃ name ∈ s.peers a.symbols, mangle name = mangle s.text := by
  obtain ⟨-, -, -, hterminals, hnonterminals⟩ := ofAutomaton_eq_ok h
  rw [List.mem_append, hterminals, hnonterminals, List.mem_map, List.mem_map, Symbol.peers]
  cases hs : s.isTerminal with
  | true =>
    simp [ofSymbol_of_isTerminal hs, ofTerminal_inj, (ofTerminal_ne_ofNonterminal _ _).symm]
  | false =>
    simp [ofSymbol_of_not_isTerminal hs, ofNonterminal_inj, ofTerminal_ne_ofNonterminal]

end Plan

/-! ### Accepted reports -/

/-- **Which identifiers of a descriptor are declared.** The left side's always is. That of a symbol
on the right is declared just if the listing of the kind that its spelling gives it has a name that
looks like it, the symbol itself if it is listed there. The error terminal is in no listing, and
what looks like it is never declared. -/
theorem descriptor_declared_iff [Text.IdentifierPart] {source : Text} {a : Automaton} {p : Plan}
    (h : Automaton.compile .strict source = .ok a) (hp : Plan.ofAutomaton a = .ok p) :
    (∀ d ∈ a.descriptors,
      Identifier.ofSymbol (.nonterminal d.left) ∈ p.nonterminals ∧
      ∀ s ∈ d.symbols, (Identifier.ofSymbol s ∈ p.terminals ++ p.nonterminals ↔
        ∃ name ∈ s.peers a.symbols, Identifier.mangle name = Identifier.mangle s.text)) ∧
    Identifier.ofTerminal Symbol.errorName ∉ p.terminals ++ p.nonterminals := by
  refine ⟨fun d hd => ⟨?_, fun s _ => Plan.ofSymbol_mem_declared hp s⟩, fun herror => ?_⟩
  · obtain ⟨r, hr, rfl⟩ := List.mem_map.1 hd
    obtain ⟨-, -, -, -, hnonterminals⟩ := Plan.ofAutomaton_eq_ok hp
    rw [Descriptor.left_ofRule, hnonterminals]
    exact List.mem_map_of_mem ((consistent_of_compile h).lefts r hr)
  · obtain ⟨name, hname, hlook⟩ :=
      (Plan.ofSymbol_mem_declared hp (.terminal Symbol.errorName)).1 herror
    have hmangle : Identifier.mangle Symbol.errorName = Symbol.errorName :=
      Identifier.mangle_of_isWordPart (by decide)
    obtain rfl := Identifier.eq_errorName_of_mangle (hlook.trans hmangle)
    exact Automaton.errorName_not_mem (Automaton.compile_strict_iff.1 h).1 hname

theorem descriptor_declared_iff_sumReport : ∃ a p d, Automaton.compile .strict sumReport = .ok a ∧
    Plan.ofAutomaton a = .ok p ∧ d ∈ a.descriptors ∧ d.left = "expr".toList ∧
    d.symbols = [.nonterminal "expr".toList, .terminal "PLUS".toList, .terminal "NUM".toList] ∧
    Identifier.ofSymbol (.nonterminal d.left) ∈ p.nonterminals ∧
    "T_PLUS".toList ∈ p.terminals ++ p.nonterminals ∧
    Identifier.ofTerminal Symbol.errorName ∉ p.terminals ++ p.nonterminals := by
  obtain ⟨a, ha, hcheck⟩ := exists_ok_of_any (x := Automaton.compile .strict sumReport)
    (p := fun a => (Plan.ofAutomaton a).toOption.isSome && (a.descriptors.any fun d =>
      d.left = "expr".toList ∧ d.symbols =
        [.nonterminal "expr".toList, .terminal "PLUS".toList, .terminal "NUM".toList]) &&
      "PLUS".toList ∈ a.symbols.terminals.toList)
    (by decide +kernel)
  rw [Bool.and_eq_true_iff, Bool.and_eq_true_iff, List.any_eq_true] at hcheck
  obtain ⟨⟨hplan, d, hd, hrule⟩, hlisted⟩ := hcheck
  obtain ⟨hleft, hsymbols⟩ := of_decide_eq_true hrule
  cases hp : Plan.ofAutomaton a with
  | error e => exact absurd hplan (by simp [hp, Except.toOption])
  | ok p =>
    obtain ⟨hdescriptors, herror⟩ := descriptor_declared_iff ha hp
    obtain ⟨hdeclared, hright⟩ := hdescriptors d hd
    have hplus := (hright (.terminal "PLUS".toList) (by simp [hsymbols])).2
      ⟨_, of_decide_eq_true hlisted, rfl⟩
    exact ⟨a, p, d, ha, hp, hd, hleft, hsymbols, hdeclared, hplus, herror⟩

/-- A report with a rule for recovering from errors, a terminal in lower case and a symbol that is
not listed. -/
def recoveryReport : Text := Text.unlines <| List.map String.toList
  ["Grammar", "    0 s: error num X", "Terminals, with rules where they appear", "error (256) 0",
    "num (258) 0", "Nonterminals, with rules where they appear", "s (3) on left: 0", "state 0",
    "    $default  accept"]

/-- None of the three has its identifier declared. -/
theorem undeclared_recoveryReport : ∃ a p d, Automaton.compile .strict recoveryReport = .ok a ∧
    Plan.ofAutomaton a = .ok p ∧ d ∈ a.descriptors ∧
    d.symbols.map Identifier.ofSymbol = ["T_error".toList, "NT_num".toList, "T_X".toList] ∧
    ∀ s ∈ d.symbols, Identifier.ofSymbol s ∉ p.terminals ++ p.nonterminals := by
  obtain ⟨a, ha, hcheck⟩ := exists_ok_of_any (x := Automaton.compile .strict recoveryReport)
    (p := fun a => (Plan.ofAutomaton a).toOption.any fun p => a.descriptors.any fun d =>
      d.symbols.map Identifier.ofSymbol = ["T_error".toList, "NT_num".toList, "T_X".toList] ∧
      ∀ s ∈ d.symbols, Identifier.ofSymbol s ∉ p.terminals ++ p.nonterminals)
    (by decide +kernel)
  obtain ⟨p, hp, hany⟩ := exists_ok_of_any hcheck
  obtain ⟨d, hd, hsymbols⟩ := List.any_eq_true.1 hany
  obtain ⟨hidentifiers, hundeclared⟩ := of_decide_eq_true hsymbols
  exact ⟨a, p, d, ha, hp, hd, hidentifiers, hundeclared⟩

end ParserTables
