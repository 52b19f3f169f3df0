import ParserTables.Proofs.Report.Resumed

/-! What a rejected line leaves behind.

A line may be rejected after the reader has moved: a rule whose number is taken names a nonterminal
all the same, and the first state header ends the listings even if its number is wrong. What
has been read does not change: `SameModel` compares the symbols, the rules, the oddities and the
rows of two readers, and `sameModel_of_rejected` says that they are the same before and after a
line that is rejected. -/
namespace ParserTables
namespace Reader

/-- The rows that are finished. -/
def rows (r : Reader) : Array Row :=
  match r.stretch with
  | .states b => b.rows
  | _ => #[]

/-- The row that is open: what was recorded for each symbol, which terminals have an entry of their
own, and the fallback. -/
def block? (r : Reader) : Option Block :=
  match r.stretch with
  | .states b => b.block
  | _ => none

theorem rows_of_states {r : Reader} {b : Builder} (h : r.stretch = .states b) :
    r.rows = b.rows := by
  rw [rows, h]

theorem block?_of_states {r : Reader} {b : Builder} (h : r.stretch = .states b) :
    r.block? = b.block := by
  rw [block?, h]

/-- A reader before the states has no rows. -/
theorem rows_of_awaits {r : Reader} {name : SectionName} (h : r.stretch.awaits = some name) :
    r.rows = #[] ∧ r.block? = none := by
  rw [rows, block?]
  cases hs : r.stretch with
  | states b => exact absurd (hs ▸ h) nofun
  | preamble => exact ⟨rfl, rfl⟩
  | grammar left => exact ⟨rfl, rfl⟩
  | terminals column => exact ⟨rfl, rfl⟩
  | nonterminals column => exact ⟨rfl, rfl⟩

/-- Two readers that have read the same, though they may stand at different places. -/
structure SameModel (r r' : Reader) : Prop where
  strictness : r'.strictness = r.strictness
  symbols : r'.symbols = r.symbols
  rules : r'.rules = r.rules
  oddities : r'.oddities = r.oddities
  rows : r'.rows = r.rows
  block : r'.block? = r.block?

theorem SameModel.refl (r : Reader) : r.SameModel r := ⟨rfl, rfl, rfl, rfl, rfl, rfl⟩

/-- Before the states, a reader may go on to a stretch without rows. -/
theorem SameModel.withStretch {r : Reader} {name : SectionName}
    (h : r.stretch.awaits = some name) {stretch : Stretch}
    (hrows : { r with stretch := stretch }.rows = #[])
    (hblock : { r with stretch := stretch }.block? = none) :
    r.SameModel { r with stretch := stretch } := by
  obtain ⟨hr, hb⟩ := rows_of_awaits h
  exact ⟨rfl, rfl, rfl, rfl, hrows.trans hr.symm, hblock.trans hb.symm⟩

/-! ### Rejected lines of each section -/

theorem not_rejected_accept {r : Reader} {e : ReadError} : r.accept.2 ≠ some e := nofun

/-- A rule that is rejected is not added. -/
theorem addRule_rejected {r : Reader} {n : Nat} {rule : Rule} {e : ReadError}
    (h : (r.addRule n rule).2 = some e) : (r.addRule n rule).1 = r := by
  rw [addRule] at h ⊢
  rcases hrules : r.rules.insert rule with ⟨rules, _ | refused⟩
  · rw [hrules] at h
    dsimp only at h
    split at h <;> exact absurd h not_rejected_accept
  · obtain ⟨rfl, -⟩ := RuleSet.insert_refused hrules
    rfl

theorem grammarLine_rejected {r : Reader} {left : Option Text} (hs : r.stretch = .grammar left)
    {n : Nat} {line : Text} {e : ReadError} (h : (r.grammarLine left n line).2 = some e) :
    r.SameModel (r.grammarLine left n line).1 := by
  rw [grammarLine] at h ⊢
  split at h
  · exact absurd h not_rejected_accept
  · split at h
    · exact .refl r
    · -- the nonterminal of the rule is remembered, and nothing else of it
      rw [addRule_rejected h]
      exact .withStretch (congrArg Stretch.awaits hs) rfl rfl

theorem beginState_rejected {r : Reader} {b : Builder} (hrows : b.rows = r.rows)
    (hblock : b.block = r.block?) {n found : Nat} {e : ReadError}
    (h : (r.beginState b n found).2 = some e) : r.SameModel (r.beginState b n found).1 := by
  rw [beginState] at h ⊢
  split at h
  · exact absurd h not_rejected_accept
  · rename_i hfound
    rw [if_neg hfound]
    exact ⟨rfl, rfl, rfl, rfl, hrows, hblock⟩

/-- A call for which a line is rejected leaves the builder as it was. -/
theorem recorded_rejected {r : Reader} {b : Builder} (hs : r.stretch = .states b) {c : Call}
    {n state : Nat} {name : Text} {e : ReadError}
    (h : (r.recorded n state name (b.call c)).2 = some e) :
    (r.recorded n state name (b.call c)).1 = r := by
  cases hcall : (b.call c).2 with
  | none =>
    rw [recorded_accepted _ _ _ _ hcall] at h
    exact absurd h not_rejected_accept
  | some refusal => rw [recorded_fst, Builder.call_refused hcall, ← hs]

theorem stateLine_rejected {r : Reader} {b : Builder} (hs : r.stretch = .states b) {n : Nat}
    {line : Text} {e : ReadError} (h : (r.stateLine b n line).2 = some e) :
    (r.stateLine b n line).1 = r := by
  rw [stateLine_eq] at h ⊢
  cases htold : told r.symbols line with
  | nothing => rfl
  | odd => exact absurd (htold ▸ h) not_rejected_accept
  | unknownTerminal name => rfl
  | unknownNonterminal name => rfl
  | call name c =>
    rw [htold] at h
    exact recorded_rejected hs h

/-! ### Any rejected line -/

/-- **A rejected line does not touch what has been read**: the symbols, the rules, the oddities, the
finished rows and all that is recorded in the open one are as they were. -/
theorem sameModel_of_rejected {r : Reader} {n : Nat} {line : Text} {e : ReadError}
    (h : (r.feed n line).2 = some e) : r.SameModel (r.feed n line).1 := by
  have htakes := r.takes_feed n line
  generalize r.feed n line = fed at htakes h ⊢
  cases htakes with
  | blank _ => exact absurd h not_rejected_accept
  | preamble _ _ => exact absurd h not_rejected_accept
  | enterGrammar _ _ => exact absurd h not_rejected_accept
  | rule hs _ => exact grammarLine_rejected hs h
  | enterTerminals _ _ => exact absurd h not_rejected_accept
  | terminal _ _ => exact absurd h not_rejected_accept
  | enterNonterminals _ _ => exact absurd h not_rejected_accept
  | nonterminal _ _ => exact absurd h not_rejected_accept
  | enterStates hs _ =>
    obtain ⟨hrows, hblock⟩ := rows_of_awaits (congrArg Stretch.awaits hs)
    exact beginState_rejected hrows.symm hblock.symm h
  | beginState hs _ =>
    exact beginState_rejected (rows_of_states hs).symm (block?_of_states hs).symm h
  | entry hs _ =>
    rw [stateLine_rejected hs h]
    exact .refl r

/-- A second action on a terminal whose first one is recorded, and a rule whose number is taken: the
second leaves the reader after another nonterminal, and both leave what has been read. -/
theorem sameModel_of_rejected_brokenReport :
    (((start .strict).feedEach (brokenReport.take 15)).feed 16 "    A  error".toList).2 =
      some (.conflictingActions 16 0 "A".toList) ∧
    ((start .strict).feedEach (brokenReport.take 15)).block?.any
      (fun block => block.slot? 0 = some (some .accept)) = true ∧
    ((start .strict).feedEach (brokenReport.take 15)).SameModel
      (((start .strict).feedEach (brokenReport.take 15)).feed 16 "    A  error".toList).1 ∧
    (((start .legacy).feedEach (brokenReport.take 5)).feed 6 "    0 t: A".toList).2 =
      some (.duplicateRule 6 0) ∧
    ((start .legacy).feedEach (brokenReport.take 5)).SameModel
      (((start .legacy).feedEach (brokenReport.take 5)).feed 6 "    0 t: A".toList).1 := by
  have hconflict : (((start .strict).feedEach (brokenReport.take 15)).feed 16
      "    A  error".toList).2 = some (.conflictingActions 16 0 "A".toList) := by decide +kernel
  have hduplicate : (((start .legacy).feedEach (brokenReport.take 5)).feed 6
      "    0 t: A".toList).2 = some (.duplicateRule 6 0) := by decide +kernel
  exact ⟨hconflict, by decide +kernel, sameModel_of_rejected hconflict, hduplicate,
    sameModel_of_rejected hduplicate⟩

end Reader
end ParserTables
