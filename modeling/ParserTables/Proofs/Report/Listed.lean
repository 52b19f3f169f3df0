import ParserTables.Proofs.Report.Shape

/-! What the listings of a report hold.

Terminals are declared by the lines of their listing and by no others, and no line declares the
error terminal (`Reader.terminals_feed`). So a report that is read lists no error terminal
(`Automaton.errorName_not_mem`). -/
namespace ParserTables
namespace Reader

/-- A listing is left as it is, or a name other than that of the error terminal is declared. -/
def Declares (before after : Listing) : Prop :=
  after = before ∨ ∃ name, name ≠ Symbol.errorName ∧ after = (before.declare name).1

theorem terminalLine_declares (r : Reader) (column : Option Nat) (line : Text) :
    Declares r.symbols.terminals (r.terminalLine column line).symbols.terminals := by
  rw [terminalLine]
  cases listedName? column line with
  | none => exact .inl rfl
  | some name =>
    dsimp only
    split
    · exact .inl rfl
    · rename_i hne
      exact .inr ⟨name, hne, rfl⟩

/-- **No line declares the error terminal.** -/
theorem terminals_feed (r : Reader) (n : Nat) (line : Text) :
    Declares r.symbols.terminals (r.feed n line).1.symbols.terminals := by
  have htakes := r.takes_feed n line
  generalize r.feed n line = fed at htakes ⊢
  cases htakes with
  | blank _ => exact .inl rfl
  | preamble _ _ => exact .inl rfl
  | enterGrammar _ _ => exact .inl rfl
  | rule hs _ =>
    obtain ⟨left', rules, oddities, hline⟩ := grammarLine_eq hs n line
    exact .inl (congrArg (·.symbols.terminals) hline)
  | enterTerminals _ _ => exact .inl rfl
  | terminal _ _ => exact terminalLine_declares ..
  | enterNonterminals _ _ => exact .inl rfl
  | @nonterminal column _ _ =>
    obtain ⟨nonterminals, hline⟩ := nonterminalLine_eq r column line
    exact .inl (congrArg (·.symbols.terminals) hline)
  | enterStates _ _ =>
    obtain ⟨b, -, ha⟩ := beginState_step r _ n _
    exact .inl (congrArg SymbolTable.terminals ha.symbols)
  | beginState _ _ =>
    obtain ⟨b, -, ha⟩ := beginState_step r _ n _
    exact .inl (congrArg SymbolTable.terminals ha.symbols)
  | entry hs _ =>
    obtain ⟨b, -, ha⟩ := stateLine_step hs n line
    exact .inl (congrArg SymbolTable.terminals ha.symbols)

end Reader

/-- A report that is read lists no error terminal. -/
theorem Automaton.errorName_not_mem {s : Strictness} {source : Text} {a : Automaton}
    (h : Automaton.read s source = .ok a) : Symbol.errorName ∉ a.symbols.terminals.toList := by
  obtain ⟨r, b, hrun, -, rfl⟩ := exists_of_read h
  refine Reader.feedAll_preserves (P := fun r => Symbol.errorName ∉ r.symbols.terminals.toList)
    (fun r n line hnot _ => ?_) hrun List.not_mem_nil
  rcases r.terminals_feed n line with heq | ⟨name, hne, heq⟩
  · rwa [heq]
  · rw [heq, Listing.toList_declare]
    split
    · exact hnot
    · simp [hnot, hne.symm]

end ParserTables
